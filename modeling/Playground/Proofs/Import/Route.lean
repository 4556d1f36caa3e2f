import Playground.Proofs.Import.Specifier
import Playground.Proofs.Path.Segments

namespace Playground

/-- The folders that a file lies in, from the outside in. -/
def Path.folders (path : String) : List (List Char) := (segments path).dropLast

theorem Path.parentChars_eq_joined (path : String) :
    parentChars path.toList = joined (folders path) := by
  rw [← joined_segments path]
  exact parentChars_joined fun name hname => slash_not_mem_of_mem_segments hname

namespace Import

/-- How many entries two lists share from their start on. -/
def sharedCount {α : Type} [DecidableEq α] : List α → List α → Nat
  | a :: as, b :: bs => if a = b then sharedCount as bs + 1 else 0
  | _, _ => 0

theorem take_sharedCount {α : Type} [DecidableEq α] (as bs : List α) :
    as.take (sharedCount as bs) = bs.take (sharedCount as bs) := by
  fun_induction sharedCount as bs with
  | case1 a as bs ih => simp [ih]
  | case2 a as b bs hne => rfl
  | case3 => rfl

theorem sharedCount_le {α : Type} [DecidableEq α] (as bs : List α) :
    sharedCount as bs ≤ bs.length := by
  fun_induction sharedCount as bs with
  | case1 a as bs ih => exact Nat.succ_le_succ ih
  | case2 a as b bs hne => exact Nat.zero_le _
  | case3 => exact Nat.zero_le _

/-- The way from one file to another: the folders that it leaves, then the segments that it
follows. -/
structure Route where
  left : List (List Char)
  followed : List (List Char)
  deriving DecidableEq, Repr

namespace Route

def between (f g : String) : Route :=
  let shared := sharedCount (Path.folders f) (Path.folders g)
  ⟨(Path.folders f).drop shared, (Path.segments g).drop shared⟩

/-- One step up. -/
def up : List Char := "../".toList

/-- The relative specifier of a way: a step up for each folder that it leaves. -/
def specifier (r : Route) : String :=
  let lead := if r.left = [] then "./".toList else (List.replicate r.left.length up).flatten
  String.ofList (lead ++ Path.joined r.followed)

/-- Behind a step up, a segment that starts with two dots is taken for one more step. -/
def IsMisread (r : Route) : Prop :=
  r.left ≠ [] ∧ ∃ name ∈ r.followed.head?, ['.', '.'] <+: name

instance (r : Route) : Decidable r.IsMisread := by
  unfold IsMisread
  infer_instance

end Route

theorem climb_up (dir rest : List Char) :
    climb dir (Route.up ++ rest) = climb (Path.parentChars dir) rest := by
  change climb dir ('.' :: '.' :: '/' :: rest) = _
  rw [climb]
  rfl

/-- Each step up leaves one folder. -/
theorem climb_ups {names : List (List Char)} (hnames : ∀ name ∈ names, '/' ∉ name) (n : Nat)
    (rest : List Char) :
    climb (Path.joined names) ((List.replicate n Route.up).flatten ++ rest) =
      climb (Path.joined (names.take (names.length - n))) rest := by
  induction n generalizing names with
  | zero => simp
  | succ n ih =>
    have houter : ∀ name ∈ names.dropLast, '/' ∉ name :=
      fun name hname => hnames name (List.dropLast_subset _ hname)
    have hlength : min (names.length - 1 - n) (names.length - 1) = names.length - (n + 1) := by
      omega
    rw [List.replicate_succ, List.flatten_cons, List.append_assoc, climb_up,
      Path.parentChars_joined hnames, ih houter, List.length_dropLast, List.dropLast_eq_take,
      List.take_take, hlength]

theorem climb_of_no_dots (dir : List Char) {rest : List Char} (h : ¬ ['.', '.'] <+: rest) :
    climb dir rest = (dir, rest) := by
  fun_cases climb dir rest with
  | case1 r => exact absurd ⟨r, rfl⟩ h
  | case2 => rfl

/-- A name behind the folders that it lies in, read from the root. -/
theorem rooted_joined {shared followed : List (List Char)} (hshared : ∀ name ∈ shared, name ≠ [])
    (hfollowed : followed ≠ []) :
    rooted (Path.joined shared) (Path.joined followed) =
      '.' :: '/' :: Path.joined (shared ++ followed) := by
  unfold rooted
  by_cases hnil : shared = []
  · subst hnil
    rfl
  · have hjoined : (Path.joined shared).isEmpty = false := by
      rw [List.isEmpty_eq_false_iff]
      exact mt (Path.joined_eq_nil_iff hshared).1 hnil
    rw [hjoined, Path.joined_append hnil hfollowed]
    rfl

/-- Joined segments start with two dots if the first of them does. -/
theorem dots_prefix_joined {name : List Char} (more : List (List Char))
    (hstep : Path.isStepSegment name = false) :
    ['.', '.'] <+: Path.joined (name :: more) ↔ ['.', '.'] <+: name := by
  cases more with
  | nil => rw [Path.joined_singleton]
  | cons next more =>
    rw [Path.joined, List.intercalate_cons_cons]
    rcases name with _ | ⟨c, _ | ⟨d, name⟩⟩
    · cases hstep
    · have hc : c ≠ '.' := by
        rintro rfl
        cases hstep
      simp [Ne.symm hc]
    · simp

theorem length_rooted (dir rest : List Char) :
    (rooted dir rest).length = (if dir.length = 0 then 2 else dir.length + 3) + rest.length := by
  cases dir with
  | nil => simp [rooted]; omega
  | cons d dir => simp [rooted]; omega

/-- Two dots that are taken for a step go, with the character behind them and perhaps a folder. -/
theorem length_rooted_climb_lt (dir : List Char) {rest : List Char} (h : ['.', '.'] <+: rest) :
    (rooted (climb dir rest).1 (climb dir rest).2).length < (rooted dir rest).length := by
  obtain ⟨r, rfl⟩ := h
  have hclimb : climb dir (['.', '.'] ++ r) = climb (Path.parentChars dir) (r.drop 1) := by
    rw [List.cons_append, List.singleton_append, climb]
  obtain ⟨hdir, hrest⟩ := climb_parts (Path.parentChars dir) (r.drop 1)
  have hdirLength := (hdir.trans (Path.parentChars_prefix dir)).length_le
  have hrestLength := hrest.length_le
  rw [List.length_drop] at hrestLength
  rw [hclimb, length_rooted, length_rooted, List.length_append]
  split
  · split <;> simp only [List.length_cons, List.length_nil] <;> omega
  · split <;> simp only [List.length_cons, List.length_nil] <;> omega

namespace Route

/-- What a way leaves and follows, beside the folders that both files lie in. -/
theorem exists_shared (f g : String) :
    ∃ shared, Path.folders f = shared ++ (between f g).left ∧
      Path.segments g = shared ++ (between f g).followed ∧ (between f g).followed ≠ [] := by
  have hlength := sharedCount_le (Path.folders f) (Path.folders g)
  have htake := take_sharedCount (Path.folders f) (Path.folders g)
  unfold between
  generalize sharedCount (Path.folders f) (Path.folders g) = n at hlength htake
  rw [Path.folders.eq_1 g, List.length_dropLast] at hlength
  have hpos : 0 < (Path.segments g).length := List.length_pos_iff.2 (Path.segments_ne_nil g)
  refine ⟨(Path.folders f).take n, (List.take_append_drop n _).symm, ?_, ?_⟩
  · rw [htake, Path.folders.eq_1 g, List.dropLast_eq_take, List.take_take, Nat.min_eq_left hlength]
    exact (List.take_append_drop n _).symm
  · intro hnil
    have hle := List.drop_eq_nil_iff.1 hnil
    omega

/-- A way is read as a climb to the folders that both files lie in, from where the segments are
followed. A way that leaves no folder is not climbed at all. -/
theorem resolveChars_specifier {f : String} {shared : List (List Char)} {r : Route}
    (hfolders : Path.folders f = shared ++ r.left) :
    resolveChars f.toList r.specifier.toList =
      if r.left = [] then rooted (Path.joined shared) (Path.joined r.followed)
      else rooted (climb (Path.joined shared) (Path.joined r.followed)).1
        (climb (Path.joined shared) (Path.joined r.followed)).2 := by
  have hslash : ∀ name ∈ Path.segments f, '/' ∉ name :=
    fun name hname => Path.slash_not_mem_of_mem_segments hname
  have hdir : Path.parentChars f.toList = Path.joined (shared ++ r.left) := by
    rw [Path.parentChars_eq_joined, hfolders]
  unfold specifier
  rw [String.toList_ofList]
  by_cases hleft : r.left = []
  · rw [if_pos hleft, if_pos hleft]
    change rooted (Path.parentChars f.toList) (Path.joined r.followed) = _
    rw [hdir, hleft, List.append_nil]
  · rw [if_neg hleft, if_neg hleft]
    obtain ⟨folder, more, hmore⟩ := List.exists_cons_of_ne_nil hleft
    have hlength : r.left.length = more.length + 1 := by rw [hmore, List.length_cons]
    have hclimb : climb (Path.parentChars f.toList)
        ((List.replicate r.left.length up).flatten ++ Path.joined r.followed) =
        climb (Path.joined shared) (Path.joined r.followed) := by
      have houter : ∀ name ∈ shared ++ r.left, '/' ∉ name := by
        rw [← hfolders]
        exact fun name hname => hslash name (List.dropLast_subset _ hname)
      rw [hdir, climb_ups houter, List.length_append, Nat.add_sub_cancel, List.take_left]
    rw [← hclimb, hlength, List.replicate_succ]
    rfl

end Route

/-- Every file can be imported from every other one by its relative specifier, unless the specifier
steps up to a name that starts with two dots. -/
theorem resolve_between_iff (f : String) {g : String} (hg : Path.IsVirtual g) :
    resolve f (Route.between f g).specifier = "./" ++ g ↔ ¬ (Route.between f g).IsMisread := by
  obtain ⟨shared, hfolders, hsegments, hfollowed⟩ := Route.exists_shared f g
  obtain ⟨name, more, hmore⟩ := List.exists_cons_of_ne_nil hfollowed
  have hstep : ∀ segment ∈ Path.segments g, Path.isStepSegment segment = false :=
    (Path.isVirtual_iff.1 hg).2
  have hnames : ∀ segment ∈ shared, segment ≠ [] := by
    rintro segment hmem rfl
    exact absurd (hstep [] (by simp [hsegments, hmem])) (by decide)
  have hname : Path.isStepSegment name = false := hstep name (by simp [hsegments, hmore])
  have hgoal : rooted (Path.joined shared) (Path.joined (Route.between f g).followed) =
      ("./" ++ g).toList := by
    rw [rooted_joined hnames hfollowed, ← hsegments, Path.joined_segments]
    simp
  have hdots : ['.', '.'] <+: Path.joined (Route.between f g).followed ↔ ['.', '.'] <+: name := by
    rw [hmore]
    exact dots_prefix_joined more hname
  have hmisread : (Route.between f g).IsMisread ↔
      (Route.between f g).left ≠ [] ∧ ['.', '.'] <+: name := by
    simp [Route.IsMisread, hmore]
  rw [resolve, ← String.toList_inj, String.toList_ofList, Route.resolveChars_specifier hfolders,
    ← hgoal, hmisread]
  by_cases hleft : (Route.between f g).left = []
  · simp [hleft]
  · simp only [hleft, if_false, ne_eq, not_false_eq_true, true_and]
    by_cases hname : ['.', '.'] <+: name
    · have hshorter := length_rooted_climb_lt (Path.joined shared) (hdots.2 hname)
      refine ⟨fun he => ?_, fun hn => absurd hname hn⟩
      rw [he] at hshorter
      exact absurd hshorter (Nat.lt_irrefl _)
    · rw [climb_of_no_dots _ (mt hdots.1 hname)]
      exact ⟨fun _ => hname, fun _ => rfl⟩

/-- Names with dots in front are read well behind a step up, as long as a single dot leads on to
them. -/
theorem resolve_between_iff_dottedNames :
    let route := Route.between "a/b/f.vue" "a/.c/..d.vue"
    Path.IsVirtual "a/.c/..d.vue" ∧ route.specifier = "../.c/..d.vue" ∧ ¬ route.IsMisread ∧
      resolve "a/b/f.vue" route.specifier = "./a/.c/..d.vue" := by
  intro route
  have hg : Path.IsVirtual "a/.c/..d.vue" := rfl
  have hread : ¬ route.IsMisread := by decide
  exact ⟨hg, by decide, hread, (resolve_between_iff "a/b/f.vue" hg).2 hread⟩

/-- The dots of a name and its first letter go with the step in front of it, so the import is read
as that of another file. -/
theorem resolve_between_misread :
    let route := Route.between "a/f.vue" "..b.vue"
    Path.IsVirtual "a/f.vue" ∧ Path.IsVirtual "..b.vue" ∧ route.specifier = "../..b.vue" ∧
      resolve "a/f.vue" route.specifier = "./.vue" ∧ "./.vue" ≠ "./" ++ "..b.vue" :=
  ⟨rfl, rfl, by decide, by decide +kernel, by decide⟩

end Import

end Playground
