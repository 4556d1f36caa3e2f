namespace Playground.Assoc

variable {α β : Type} [DecidableEq α]

def get? (k : α) : List (α × β) → Option β
  | [] => none
  | (a, b) :: m => if a = k then some b else get? k m

/-- A new key goes to the end, and a key that is written again keeps its place. -/
def put (k : α) (v : β) : List (α × β) → List (α × β)
  | [] => [(k, v)]
  | (a, b) :: m => if a = k then (a, v) :: m else (a, b) :: put k v m

def erase (k : α) (m : List (α × β)) : List (α × β) := m.filter fun p => p.1 ≠ k

def keys (m : List (α × β)) : List α := m.map (·.1)

def putAll (m extra : List (α × β)) : List (α × β) := extra.foldl (fun m p => put p.1 p.2 m) m

def ofPairs (pairs : List (α × β)) : List (α × β) := putAll [] pairs

def has (k : α) (m : List (α × β)) : Bool := (get? k m).isSome

theorem get?_put (k k' : α) (v : β) (m : List (α × β)) :
    get? k' (put k v m) = if k = k' then some v else get? k' m := by
  induction m with
  | nil => by_cases h : k = k' <;> simp [put, get?, h]
  | cons p m ih =>
    obtain ⟨a, b⟩ := p
    by_cases ha : a = k
    · subst ha
      by_cases h : a = k' <;> simp [put, get?, h]
    · by_cases h : a = k'
      · subst h
        simp [put, get?, ha, Ne.symm ha]
      · by_cases hk : k = k' <;> simp_all [put, get?]

theorem get?_erase (k k' : α) (m : List (α × β)) :
    get? k' (erase k m) = if k = k' then none else get? k' m := by
  induction m with
  | nil => simp [erase, get?]
  | cons p m ih =>
    obtain ⟨a, b⟩ := p
    by_cases ha : a = k
    · subst ha
      by_cases h : a = k' <;> simp_all [erase, get?]
    · by_cases h : a = k'
      · subst h
        simp_all [erase, get?, Ne.symm ha]
      · by_cases hk : k = k' <;> simp_all [erase, get?]

theorem get?_eq_none_iff {k : α} {m : List (α × β)} : get? k m = none ↔ k ∉ keys m := by
  induction m with
  | nil => simp [get?, keys]
  | cons p m ih =>
    obtain ⟨a, b⟩ := p
    by_cases h : a = k
    · simp [get?, keys, h]
    · simp_all [get?, keys, Ne.symm h]

theorem has_iff {k : α} {m : List (α × β)} : has k m = true ↔ k ∈ keys m := by
  have := get?_eq_none_iff (k := k) (m := m)
  cases h : get? k m <;> simp_all [has]

theorem mem_of_get? {k : α} {v : β} {m : List (α × β)} (h : get? k m = some v) : (k, v) ∈ m := by
  induction m with
  | nil => cases h
  | cons p m ih =>
    obtain ⟨a, b⟩ := p
    by_cases ha : a = k
    · simp_all [get?]
    · exact List.mem_cons_of_mem _ (ih (by simpa [get?, ha] using h))

theorem mem_put {k : α} {v : β} {p : α × β} {m : List (α × β)} (h : p ∈ put k v m) :
    p = (k, v) ∨ p ∈ m := by
  induction m with
  | nil => exact .inl (List.mem_singleton.1 h)
  | cons q m ih =>
    obtain ⟨a, b⟩ := q
    by_cases ha : a = k
    · simp only [put, ha, if_true, List.mem_cons] at h ⊢
      rcases h with h | h
      · exact .inl h
      · exact .inr (.inr h)
    · simp only [put, ha, if_false, List.mem_cons] at h ⊢
      rcases h with h | h
      · exact .inr (.inl h)
      · exact (ih h).imp_right .inr

/-- Writing a key changes no place: the keys are the old ones, then the new key if it is new. -/
theorem keys_put (k : α) (v : β) (m : List (α × β)) :
    keys (put k v m) = if k ∈ keys m then keys m else keys m ++ [k] := by
  induction m with
  | nil => simp [put, keys]
  | cons p m ih =>
    obtain ⟨a, b⟩ := p
    by_cases h : a = k
    · simp [put, keys, h]
    · simp only [put, keys, h, if_false, List.map_cons] at ih ⊢
      rw [ih]
      by_cases hm : k ∈ m.map (·.1) <;> simp [hm, Ne.symm h]

theorem mem_keys_put {k k' : α} {v : β} {m : List (α × β)} :
    k' ∈ keys (put k v m) ↔ k' = k ∨ k' ∈ keys m := by
  rw [keys_put]
  split
  · next hk =>
    refine ⟨.inr, fun h => h.elim (fun e => ?_) id⟩
    rw [e]
    exact hk
  · simp [or_comm]

theorem mem_keys_putAll {k : α} {m extra : List (α × β)} :
    k ∈ keys (putAll m extra) ↔ k ∈ keys m ∨ k ∈ keys extra := by
  induction extra generalizing m with
  | nil => simp [putAll, keys]
  | cons p extra ih =>
    obtain ⟨a, b⟩ := p
    change k ∈ keys (putAll (put a b m) extra) ↔ k ∈ keys m ∨ k ∈ a :: keys extra
    rw [ih, mem_keys_put, List.mem_cons]
    exact or_assoc.trans or_left_comm

theorem get?_putAll {k : α} {m extra : List (α × β)} (hn : (keys extra).Nodup) :
    get? k (putAll m extra) = (get? k extra).or (get? k m) := by
  induction extra generalizing m with
  | nil => rfl
  | cons p extra ih =>
    obtain ⟨a, b⟩ := p
    obtain ⟨hnew, hrest⟩ := List.nodup_cons.1 hn
    change get? k (putAll (put a b m) extra) = _
    rw [ih hrest, get?_put]
    by_cases h : a = k
    · subst h
      rw [get?_eq_none_iff.2 hnew, if_pos rfl, get?, if_pos rfl]
      rfl
    · rw [if_neg h, get?, if_neg h]

theorem keys_erase (k : α) (m : List (α × β)) : keys (erase k m) = (keys m).filter (· ≠ k) := by
  simp [keys, erase, List.filter_map, Function.comp_def]

theorem nodup_keys_put {k : α} {v : β} {m : List (α × β)} (h : (keys m).Nodup) :
    (keys (put k v m)).Nodup := by
  rw [keys_put]
  split
  · exact h
  · next hk =>
    rw [List.nodup_append]
    refine ⟨h, by simp, fun a ha b hb e => ?_⟩
    rw [e, List.mem_singleton.1 hb] at ha
    exact hk ha

theorem nodup_keys_putAll {m extra : List (α × β)} (h : (keys m).Nodup) :
    (keys (putAll m extra)).Nodup := by
  induction extra generalizing m with
  | nil => exact h
  | cons p extra ih => exact ih (nodup_keys_put h)

theorem nodup_keys_erase {k : α} {m : List (α × β)} (h : (keys m).Nodup) :
    (keys (erase k m)).Nodup := by
  rw [keys_erase]
  exact h.filter _

theorem put_of_not_mem {k : α} {v : β} {m : List (α × β)} (hk : k ∉ keys m) :
    put k v m = m ++ [(k, v)] := by
  induction m with
  | nil => rfl
  | cons p m ih =>
    obtain ⟨a, b⟩ := p
    obtain ⟨hne, hrest⟩ := not_or.1 (mt List.mem_cons.2 hk)
    rw [put, if_neg (Ne.symm hne), ih hrest]
    rfl

/-- Entries whose keys are new and distinct come behind those that are there. -/
theorem putAll_eq_append {m extra : List (α × β)} (h : (keys m ++ keys extra).Nodup) :
    putAll m extra = m ++ extra := by
  induction extra generalizing m with
  | nil => exact (List.append_nil m).symm
  | cons p extra ih =>
    obtain ⟨a, b⟩ := p
    have hnew : a ∉ keys m := fun hmem =>
      (List.nodup_append.1 h).2.2 a hmem a List.mem_cons_self rfl
    have hrest : keys m ++ keys ((a, b) :: extra) = keys (m ++ [(a, b)]) ++ keys extra := by
      simp [keys]
    change putAll (put a b m) extra = _
    rw [put_of_not_mem hnew, ih (hrest ▸ h), List.append_assoc]
    rfl

/-- The keys that are there stay in front, and the new ones follow in their own order. -/
theorem keys_putAll {m extra : List (α × β)} (hn : (keys extra).Nodup) :
    keys (putAll m extra) = keys m ++ (keys extra).filter (· ∉ keys m) := by
  induction extra generalizing m with
  | nil => exact (List.append_nil _).symm
  | cons p extra ih =>
    obtain ⟨a, b⟩ := p
    obtain ⟨hnew, hn⟩ := List.nodup_cons.1 hn
    change keys (putAll (put a b m) extra) = keys m ++ (a :: keys extra).filter (· ∉ keys m)
    rw [ih hn, keys_put]
    by_cases ha : a ∈ keys m
    · rw [if_pos ha, List.filter_cons_of_neg (by simpa using ha)]
    · have hrest : (keys extra).filter (· ∉ keys m ++ [a]) = (keys extra).filter (· ∉ keys m) :=
        List.filter_congr fun k hk => by
          have hne : k ≠ a := fun e => hnew (e ▸ hk)
          simp [hne]
      rw [if_neg ha, hrest, List.filter_cons_of_pos (by simpa using ha), List.append_assoc]
      rfl

theorem get?_append (k : α) (m m' : List (α × β)) :
    get? k (m ++ m') = (get? k m).or (get? k m') := by
  induction m with
  | nil => rfl
  | cons p m ih =>
    obtain ⟨a, b⟩ := p
    by_cases h : a = k <;> simp [get?, h, ih]

theorem get?_of_mem {k : α} {v : β} {m : List (α × β)} (hn : (keys m).Nodup) (h : (k, v) ∈ m) :
    get? k m = some v := by
  induction m with
  | nil => cases h
  | cons p m ih =>
    obtain ⟨a, b⟩ := p
    obtain ⟨hnew, hrest⟩ := List.nodup_cons.1 hn
    rcases List.mem_cons.1 h with he | hm
    · cases he
      exact if_pos rfl
    · have hkey : k ∈ keys m := List.mem_map_of_mem hm
      have hne : a ≠ k := fun e => hnew (e ▸ hkey)
      rw [get?, if_neg hne, ih hrest hm]

/-- With distinct keys, a map is determined by its keys in their order and what they hold. -/
theorem eq_of_get? {m m' : List (α × β)} (hn : (keys m).Nodup) (hk : keys m = keys m')
    (h : ∀ k, get? k m = get? k m') : m = m' := by
  induction m generalizing m' with
  | nil => exact (List.map_eq_nil_iff.1 hk.symm).symm
  | cons p m ih =>
    obtain ⟨a, b⟩ := p
    match m', hk with
    | [], hk => cases hk
    | (a', b') :: m', hk =>
      obtain ⟨rfl, hrest⟩ : a = a' ∧ keys m = keys m' := List.cons.inj hk
      obtain ⟨hnew, hn⟩ := List.nodup_cons.1 hn
      have hb : b = b' := by simpa [get?] using h a
      subst hb
      refine congrArg _ (ih hn hrest fun k => ?_)
      by_cases hak : a = k
      · subst hak
        rw [get?_eq_none_iff.2 hnew, get?_eq_none_iff.2 (hrest ▸ hnew)]
      · simpa [get?, hak] using h k

end Playground.Assoc
