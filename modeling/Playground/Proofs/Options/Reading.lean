import Playground.Options.Basic
import Playground.Proofs.Except
import Playground.Proofs.Path.Segments

namespace Playground

namespace Checked

variable {α β : Type}

theorem under_eq_ok {key : Key} {x : Checked α} {a : α} (h : under key x = .ok a) : x = .ok a := by
  cases x with
  | error problems => cases h
  | ok a' =>
    cases h
    rfl

theorem both_eq_ok {x : Checked α} {y : Checked β} {p : α × β} (h : both x y = .ok p) :
    x = .ok p.1 ∧ y = .ok p.2 := by
  cases x with
  | error problems => cases y <;> cases h
  | ok a =>
    cases y with
    | error problems => cases h
    | ok b =>
      cases h
      exact ⟨rfl, rfl⟩

/-- What is read from a list is read item by item. -/
theorem each_eq_ok {f : α → Checked β} {as : List α} {bs : List β} (h : each f as = .ok bs) :
    ∀ b ∈ bs, ∃ a ∈ as, f a = .ok b := by
  induction as generalizing bs with
  | nil =>
    cases h
    exact fun b hb => nomatch hb
  | cons a as ih =>
    obtain ⟨p, hp, rfl⟩ := map_eq_ok h
    obtain ⟨hfirst, hrest⟩ := both_eq_ok hp
    intro b hb
    rcases List.mem_cons.1 hb with rfl | hb
    · exact ⟨a, List.mem_cons_self, hfirst⟩
    · obtain ⟨a', ha', hread⟩ := ih hrest b hb
      exact ⟨a', List.mem_cons_of_mem _ ha', hread⟩

end Checked

namespace Setting

variable {α : Type}

/-- A field is read from its entry, or it has its default. -/
theorem field_eq_ok {name : String} {default : α} {f : Value → Checked α} {fields : Fields} {a : α}
    (h : field name default f fields = .ok a) : a = default ∨ ∃ v, f v = .ok a := by
  unfold field at h
  split at h
  · cases h
    exact .inl rfl
  · next v _ => exact .inr ⟨v, Checked.under_eq_ok h⟩

theorem virtualPath_eq_ok {v : Value} {path : String} (h : virtualPath v = .ok path) :
    Path.IsVirtual path := by
  obtain ⟨s, -, hcheck⟩ := bind_eq_ok h
  unfold Path.IsVirtual
  split at hcheck
  · next path' hpath =>
    cases hcheck
    obtain rfl := Path.eq_of_checkVirtual hpath
    exact hpath
  · cases hcheck

/-- The keys of a map are read on their own. -/
theorem entries_eq_ok {key : Value → Checked String} {value : Value → Checked α} {v : Value}
    {pairs : List (String × α)} (h : entries key value v = .ok pairs) :
    ∀ name ∈ Assoc.keys pairs, ∃ k, key k = .ok name := by
  obtain ⟨fields, -, heach⟩ := bind_eq_ok h
  intro name hname
  obtain ⟨pair, hpair, rfl⟩ := List.mem_map.1 hname
  obtain ⟨p, -, hentry⟩ := Checked.each_eq_ok heach pair hpair
  exact ⟨keyValue p.1, Checked.under_eq_ok (Checked.under_eq_ok (Checked.both_eq_ok hentry).1)⟩

end Setting

/-- Options that were read from data, as all options of a compiler are. -/
def CompileOptions.IsRead (o : CompileOptions) : Prop := ∃ v, ofValue v = .ok o

namespace CompileOptions.IsRead

variable {o o' : CompileOptions}

/-- Without any settings a compiler has the options that an empty map is read to. -/
theorem default : IsRead {} := ⟨.map [], rfl⟩

/-- Overrides are read together with what they are merged into. -/
theorem merged {overrides : Value} (ho : o.IsRead) (h : o.merged overrides = .ok o') :
    o'.IsRead := by
  unfold CompileOptions.merged at h
  split at h
  · cases h
    exact ho
  · split at h
    · split at h
      · next hread =>
        cases h
        exact ⟨_, hread⟩
      · cases h
    · cases h

end CompileOptions.IsRead

end Playground
