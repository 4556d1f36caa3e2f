import Playground.Proofs.Compile.Conclusion
import Playground.Proofs.Store.Failures

namespace Playground

/-- Entries are found wherever they stand. -/
theorem Assoc.get?_perm {α β : Type} [DecidableEq α] {m m' : List (α × β)} (hperm : m.Perm m')
    (hkeys : (keys m).Nodup) (k : α) : get? k m' = get? k m := by
  induction hperm with
  | nil => rfl
  | cons p _ ih =>
    obtain ⟨a, b⟩ := p
    rw [get?, get?, ih (List.nodup_cons.1 hkeys).2]
  | swap p q m =>
    obtain ⟨a, b⟩ := p
    obtain ⟨a', b'⟩ := q
    have hne : a' ≠ a := by
      have hmem := (List.nodup_cons.1 hkeys).1
      exact fun he => hmem (by simp [he])
    simp only [get?]
    split
    · next ha => rw [if_neg (ha ▸ hne)]
    · rfl
  | trans h₁ _ ih₁ ih₂ =>
    have hkeys₁ : (keys _).Nodup := (h₁.map _).nodup_iff.1 hkeys
    rw [ih₂ hkeys₁, ih₁ hkeys]

namespace Store

/-- The files with these names have been compiled, each for itself. -/
structure HasCompiled (s : Store) (names : List String) (s' : Store) : Prop where
  compiler : s'.compiler = s.compiler
  keys : Assoc.keys s'.files = Assoc.keys s.files
  inside : ∀ name ∈ names, ∀ file report file', s.find? name = some file →
    s.compiler.Settles file report file' →
      s'.find? name = some file' ∧ Assoc.get? name s'.errors = some report.errors
  outside : ∀ name, name ∉ names → SameFor name s s'

theorem HasCompiled.nil (s : Store) : HasCompiled s [] s where
  compiler := rfl
  keys := rfl
  inside _ hname := nomatch hname
  outside name _ := .refl name s

/-- What is compiled first is left alone by the compiles of the others. -/
theorem HasCompiled.cons {s s₁ s₂ : Store} {name : String} {names : List String}
    (hfirst : HasCompiled s [name] s₁) (hrest : HasCompiled s₁ names s₂) (hname : name ∉ names) :
    HasCompiled s (name :: names) s₂ where
  compiler := hrest.compiler.trans hfirst.compiler
  keys := hrest.keys.trans hfirst.keys
  inside other hother file report file' hfile hsettles := by
    rcases List.mem_cons.1 hother with rfl | hmem
    · obtain ⟨hfound, herrors⟩ :=
        hfirst.inside other List.mem_cons_self file report file' hfile hsettles
      obtain ⟨hfind, hget⟩ := hrest.outside other hname
      exact ⟨hfind.trans hfound, hget.trans herrors⟩
    · have hne : other ∉ [name] := by
        rw [List.mem_singleton]
        exact fun he => hname (he ▸ hmem)
      have hfile₁ : s₁.find? other = some file := (hfirst.outside other hne).1.trans hfile
      rw [← hfirst.compiler] at hsettles
      exact hrest.inside other hmem file report file' hfile₁ hsettles
  outside other hother := by
    rw [List.mem_cons, not_or] at hother
    have hne : other ∉ [name] := by simpa using hother.1
    exact (hfirst.outside other hne).trans (hrest.outside other hother.2)

section Settled

variable {s s' : Store}

/-- A file that settles is compiled with the same report in every store that holds it. -/
theorem compile_of_settles {name : String} {file file' : VirtualFile} {report : Report}
    (hfile : s.find? name = some file) (hsettles : s.compiler.Settles file report file') :
    ∃ history, s.compile name = (.ok report, { s with
      files := Assoc.put name file' s.files
      errors := Assoc.put name report.errors s.errors
      history }) := by
  have hrun := hsettles s.history
  unfold compile
  rw [get_eq_ok_iff.2 hfile]
  rcases hx : (s.compiler.compileFile file).run s.history with ⟨r, history⟩
  rw [hx] at hrun
  obtain rfl := hrun
  exact ⟨history, by simp only [hx]⟩

theorem hasCompiled_compile {name : String} {file file' : VirtualFile} {report : Report}
    (hfile : s.find? name = some file) (hsettles : s.compiler.Settles file report file') :
    HasCompiled s [name] (s.compile name).2 where
  compiler := s.compiler_compile name
  keys := s.keys_compile name
  inside other hother file₁ report₁ file₁' hfile₁ hsettles₁ := by
    obtain rfl := List.mem_singleton.1 hother
    rw [hfile] at hfile₁
    cases hfile₁
    obtain ⟨rfl, rfl⟩ := hsettles.unique hsettles₁
    obtain ⟨history, hcompile⟩ := compile_of_settles hfile hsettles
    rw [hcompile]
    unfold find?
    rw [Assoc.get?_put, Assoc.get?_put, if_pos rfl, if_pos rfl]
    exact ⟨rfl, rfl⟩
  outside other hother := .compile (List.mem_singleton.not.1 hother) s

/-- What a compile reports depends on nothing in the store but the file. -/
theorem report_congr (hall : ∀ file, ∃ report file', s.compiler.Settles file report file')
    (hcompiler : s'.compiler = s.compiler) {name : String} (hfind : s'.find? name = s.find? name) :
    (s'.compile name).1 = (s.compile name).1 := by
  cases hfile : s.find? name with
  | none =>
    have hget : s.get name = .error (.unknown name) := get_eq_error_iff.2 ⟨hfile, rfl⟩
    have hget' : s'.get name = .error (.unknown name) := get_eq_error_iff.2 ⟨hfind.trans hfile, rfl⟩
    simp only [compile, hget, hget']
  | some file =>
    obtain ⟨report, file', hsettles⟩ := hall file
    obtain ⟨_, hcompile⟩ := compile_of_settles hfile hsettles
    obtain ⟨_, hcompile'⟩ := compile_of_settles (hfind.trans hfile) (hcompiler ▸ hsettles)
    rw [hcompile, hcompile']

/-- Files that settle are compiled one after the other as each of them alone. -/
theorem compileEach_of_settled (hall : ∀ file, ∃ report file', s.compiler.Settles file report file')
    {names : List String} (hnames : ∀ name ∈ names, name ∈ Assoc.keys s.files)
    (hdistinct : names.Nodup) :
    ∃ reports, (s.compileEach names).1 = .ok reports ∧
      reports.map .ok = names.map (fun name => (s.compile name).1) ∧
      HasCompiled s names (s.compileEach names).2 := by
  induction names generalizing s with
  | nil => exact ⟨[], rfl, rfl, .nil s⟩
  | cons name names ih =>
    obtain ⟨hname, hrest⟩ := List.nodup_cons.1 hdistinct
    obtain ⟨hmem, hothers⟩ := List.forall_mem_cons.1 hnames
    obtain ⟨file, hfile⟩ := Option.isSome_iff_exists.1 (Assoc.has_iff.2 hmem)
    obtain ⟨report, file', hsettles⟩ := hall file
    have hfirst := hasCompiled_compile hfile hsettles
    obtain ⟨history, hcompile⟩ := compile_of_settles hfile hsettles
    rcases hc : s.compile name with ⟨r, s₁⟩
    rw [hc] at hfirst hcompile
    obtain rfl : r = .ok report := congrArg Prod.fst hcompile
    obtain ⟨reports, hok, hreports, hcompiled⟩ := ih (s := s₁) (hfirst.compiler ▸ hall)
      (fun other hother => hfirst.keys ▸ hothers other hother) hrest
    have hsame : ∀ other ∈ names, (s₁.compile other).1 = (s.compile other).1 := by
      intro other hother
      have hne : other ∉ [name] := by
        rw [List.mem_singleton]
        exact fun he => hname (he ▸ hother)
      exact report_congr hall hfirst.compiler (hfirst.outside other hne).1
    rcases hr : s₁.compileEach names with ⟨r', s₂⟩
    rw [hr] at hok hcompiled
    obtain rfl := hok
    have heach : s.compileEach (name :: names) = (.ok (report :: reports), s₂) := by
      simp only [compileEach, hc, hr]
      rfl
    rw [heach]
    refine ⟨report :: reports, rfl, ?_, hfirst.cons hcompiled hname⟩
    rw [List.map_cons, List.map_cons, hreports, List.map_congr_left hsame, hc]

/-- A file is compiled to the same in two stores that hold it, whichever others they hold. -/
theorem HasCompiled.sameFor {s₁ s₁' : Store} {names names' : List String} {name : String}
    (hall : ∀ file, ∃ report file', s.compiler.Settles file report file')
    (hcompiled : HasCompiled s names s₁) (hcompiled' : HasCompiled s' names' s₁')
    (hcompiler : s'.compiler = s.compiler) (hmem : name ∈ names) (hmem' : name ∈ names')
    {file : VirtualFile} (hfile : s.find? name = some file) (hfile' : s'.find? name = some file) :
    SameFor name s₁ s₁' := by
  obtain ⟨report, result, hsettles⟩ := hall file
  obtain ⟨hfind, herrors⟩ := hcompiled.inside name hmem file report result hfile hsettles
  rw [← hcompiler] at hsettles
  obtain ⟨hfind', herrors'⟩ := hcompiled'.inside name hmem' file report result hfile' hsettles
  exact ⟨hfind'.trans hfind.symm, herrors'.trans herrors.symm⟩

/-- A file that has been compiled is compiled again with the same report. -/
theorem HasCompiled.report_eq {s₁ : Store} {names : List String} {name : String}
    (hall : ∀ file, ∃ report file', s.compiler.Settles file report file' ∧
      s.compiler.Settles file' report file')
    (hcompiled : HasCompiled s names s₁) (hmem : name ∈ names)
    (hname : name ∈ Assoc.keys s.files) : (s₁.compile name).1 = (s.compile name).1 := by
  obtain ⟨file, hfile⟩ := Option.isSome_iff_exists.1 (Assoc.has_iff.2 hname)
  obtain ⟨report, file', hsettles, hagain⟩ := hall file
  obtain ⟨hfind, -⟩ := hcompiled.inside name hmem file report file' hfile hsettles
  rw [← hcompiled.compiler] at hagain
  obtain ⟨_, hcompile⟩ := compile_of_settles hfile hsettles
  obtain ⟨_, hcompile'⟩ := compile_of_settles hfind hagain
  rw [hcompile, hcompile']

/-- A second compile of files that have been compiled leaves them and their errors alone. -/
theorem HasCompiled.again {s₁ s₂ : Store} {names : List String}
    (hall : ∀ file, ∃ report file', s.compiler.Settles file report file' ∧
      s.compiler.Settles file' report file')
    (hfirst : HasCompiled s names s₁) (hsecond : HasCompiled s₁ names s₂)
    (hnames : ∀ name ∈ names, name ∈ Assoc.keys s.files) (name : String) : SameFor name s₁ s₂ := by
  by_cases hmem : name ∈ names
  · obtain ⟨file, hfile⟩ := Option.isSome_iff_exists.1 (Assoc.has_iff.2 (hnames name hmem))
    obtain ⟨report, file', hsettles, hagain⟩ := hall file
    obtain ⟨hfind, herrors⟩ := hfirst.inside name hmem file report file' hfile hsettles
    rw [← hfirst.compiler] at hagain
    obtain ⟨hfind₂, herrors₂⟩ := hsecond.inside name hmem file' report file' hfind hagain
    exact ⟨hfind₂.trans hfind.symm, herrors₂.trans herrors.symm⟩
  · exact hsecond.outside name hmem

end Settled

/-- With services that answer by the request alone and refuse no name, a store compiles all its
files in their order, each as if it were compiled alone. Another order changes nothing for any file,
and a second time reports the same and changes nothing at all. -/
theorem afterAll_compileAll (compiler : Compiler) (mainFile : String) (operations : List Operation)
    (hpure : compiler.toolchain.IsPure) (hnamed : ¬ (empty compiler mainFile).RefusesNames) :
    let s := (empty compiler mainFile).afterAll operations
    let s₁ := s.compileAll.2
    ∃ reports, s.compileAll.1 = .ok reports ∧
      reports.map .ok = (Assoc.keys s.files).map (fun name => (s.compile name).1) ∧
      (∀ s' : Store, s'.compiler = compiler → s'.files.Perm s.files →
        (∃ reports', s'.compileAll.1 = .ok reports' ∧
          reports'.map .ok = (Assoc.keys s'.files).map fun name => (s.compile name).1) ∧
        ∀ name ∈ Assoc.keys s.files, SameFor name s₁ s'.compileAll.2) ∧
      s₁.compileAll.1 = .ok reports ∧ Assoc.keys s₁.compileAll.2.files = Assoc.keys s.files ∧
        ∀ name, SameFor name s₁ s₁.compileAll.2 := by
  intro s s₁
  have hs : s.Coherent :=
    afterAll_keeps Coherent.change (coherent_empty compiler mainFile) operations
  have hcompiler : s.compiler = compiler := (empty compiler mainFile).compiler_afterAll operations
  have hagain : ∀ file, ∃ report file', s.compiler.Settles file report file' ∧
      s.compiler.Settles file' report file' := by
    rw [hcompiler]
    exact Compiler.exists_settles hpure fun h name f hf => hnamed ⟨h, name, f, hf⟩
  have hall : ∀ file, ∃ report file', s.compiler.Settles file report file' := by
    intro file
    obtain ⟨report, file', hsettles, -⟩ := hagain file
    exact ⟨report, file', hsettles⟩
  obtain ⟨reports, hok, hreports, hcompiled⟩ :=
    compileEach_of_settled hall (fun _ hname => hname) hs.distinct
  refine ⟨reports, hok, hreports, ?_, ?_⟩
  · intro s' hcompiler' hperm
    have hsame : s'.compiler = s.compiler := hcompiler'.trans hcompiler.symm
    have hkeys : (Assoc.keys s'.files).Nodup := (hperm.map _).nodup_iff.2 hs.distinct
    have hfind : ∀ name, s'.find? name = s.find? name := Assoc.get?_perm hperm.symm hs.distinct
    obtain ⟨reports', hok', hreports', hcompiled'⟩ :=
      compileEach_of_settled (hsame ▸ hall) (fun _ hname => hname) hkeys
    refine ⟨⟨reports', hok', ?_⟩, fun name hname => ?_⟩
    · rw [hreports']
      exact List.map_congr_left fun name _ => report_congr hall hsame (hfind name)
    · obtain ⟨file, hfile⟩ := Option.isSome_iff_exists.1 (Assoc.has_iff.2 hname)
      have hname' : name ∈ Assoc.keys s'.files := (hperm.map _).mem_iff.2 hname
      exact hcompiled.sameFor hall hcompiled' hsame hname hname' hfile ((hfind name).trans hfile)
  · have hkept : Assoc.keys s₁.files = Assoc.keys s.files := hcompiled.keys
    have hkeys : (Assoc.keys s₁.files).Nodup := hkept ▸ hs.distinct
    obtain ⟨reports₂, hok₂, hreports₂, hcompiled₂⟩ :=
      compileEach_of_settled (hcompiled.compiler.symm ▸ hall) (fun _ hname => hname) hkeys
    have hreported : ∀ name ∈ Assoc.keys s.files, (s₁.compile name).1 = (s.compile name).1 :=
      fun name hname => hcompiled.report_eq hagain hname hname
    have heq : reports₂.map Except.ok = reports.map (Except.ok (ε := StoreError)) := by
      rw [hreports₂, hreports, hkept]
      exact List.map_congr_left hreported
    obtain rfl := (List.map_injective_iff.2 fun _ _ => Except.ok.inj) heq
    have hsecond : s₁.HasCompiled (Assoc.keys s.files) s₁.compileAll.2 := by
      rw [← hkept]
      exact hcompiled₂
    exact ⟨hok₂, hcompiled₂.keys.trans hkept, hcompiled.again hagain hsecond fun _ hname => hname⟩

/-- Services that answer by the request alone: each style comes back as it is. -/
def plainServices : ToolchainScript :=
  { parse := .ok { descriptor := { filename := "", script := some {}, styles := [{}] } }
    script := fun _ => .ok { content := "let n = 1" }
    template := fun _ => .ok { code := "" }
    ids := { fixed := some "a1" } }

/-- A component that was compiled and then renamed, in two orders beside a script and a style. -/
theorem afterAll_compileAll_renamed :
    let compiler : Compiler := { toolchain := plainServices.toolchain }
    let operations : List Operation :=
      [.add "App.vue" "<script>", .compile "App.vue", .add "b.ts" "let n = 1", .add "c.css" "p",
        .rename "App.vue" "d.vue"]
    let s := (empty compiler).afterAll operations
    compiler.toolchain.IsPure ∧ ¬ (empty compiler).RefusesNames ∧
      Assoc.keys s.files = ["d.vue", "b.ts", "c.css"] ∧
      ∀ name ∈ Assoc.keys s.files,
        SameFor name s.compileAll.2 { s with files := s.files.reverse }.compileAll.2 := by
  intro compiler operations s
  have hpure : compiler.toolchain.IsPure := by
    intro h h' call
    cases call <;> rfl
  have hnamed : ¬ (empty compiler).RefusesNames := by
    rintro ⟨h, name, f, hf⟩
    cases hf
  have hcompiler : s.compiler = compiler := (empty compiler).compiler_afterAll operations
  have hkeys : Assoc.keys s.files = ["d.vue", "b.ts", "c.css"] := by decide +kernel
  have horder : ∀ s' : Store, s'.compiler = compiler → s'.files.Perm s.files →
      ∀ name ∈ Assoc.keys s.files, SameFor name s.compileAll.2 s'.compileAll.2 := by
    obtain ⟨_, -, -, hall, -⟩ := afterAll_compileAll compiler defaultMain operations hpure hnamed
    exact fun s' hcompiler' hperm => (hall s' hcompiler' hperm).2
  have hperm (s : Store) : { s with files := s.files.reverse }.files.Perm s.files :=
    s.files.reverse_perm
  exact ⟨hpure, hnamed, hkeys, horder _ hcompiler (hperm s)⟩

end Store

end Playground
