import Playground.Proofs.Store.CompileAll
import Playground.Proofs.Store.LatestCompile

namespace Playground

namespace Assoc

variable {β : Type} {m : List (String × β)}

/-- A move of a key that is missing changes nothing. -/
theorem map_rename_of_not_mem {old : String} (new : String) (v : β) (hold : old ∉ keys m) :
    (m.map fun p => if p.1 = old then (new, v) else p) = m := by
  have hkept : ∀ p ∈ m, (if p.1 = old then (new, v) else p) = p := by
    intro p hp
    have hmem : p.1 ∈ keys m := List.mem_map_of_mem hp
    exact if_neg fun he : p.1 = old => hold (he ▸ hmem)
  rw [List.map_congr_left hkept, List.map_id']

/-- Writing a key that is there is a move of the key to itself. -/
theorem put_eq_map_rename {k : String} (v : β) (hk : k ∈ keys m) (hm : (keys m).Nodup) :
    put k v m = m.map fun p => if p.1 = k then (k, v) else p := by
  induction m with
  | nil => exact nomatch hk
  | cons p m ih =>
    obtain ⟨a, b⟩ := p
    obtain ⟨ha, hrest⟩ := List.nodup_cons.1 hm
    by_cases hak : a = k
    · subst hak
      rw [put, if_pos rfl, List.map_cons, if_pos rfl, map_rename_of_not_mem a v ha]
    · have hmem : k ∈ keys m := (List.mem_cons.1 hk).resolve_left (Ne.symm hak)
      rw [put, if_neg hak, List.map_cons, if_neg hak, ih hmem hrest]

/-- A key that moves on comes to where it would have come at once. -/
theorem map_rename_map_rename {old mid : String} (new : String) (v w : β)
    (hmid : mid ∈ keys m → mid = old) :
    (m.map fun p => if p.1 = old then (mid, v) else p).map
        (fun p => if p.1 = mid then (new, w) else p) =
      m.map fun p => if p.1 = old then (new, w) else p := by
  rw [List.map_map]
  refine List.map_congr_left fun p hp => ?_
  by_cases hold : p.1 = old
  · simp [hold]
  · have hne : p.1 ≠ mid := fun he => hold (he.trans (hmid (he ▸ List.mem_map_of_mem hp)))
    simp [hold, hne]

/-- A key that has moved away is missing. -/
theorem not_mem_keys_map_rename {old new : String} (v : β) (m : List (String × β))
    (hne : old ≠ new) : old ∉ keys (m.map fun p => if p.1 = old then (new, v) else p) := by
  intro hmem
  obtain ⟨q, hq, hname⟩ := List.mem_map.1 hmem
  obtain ⟨p, -, rfl⟩ := List.mem_map.1 hq
  by_cases hold : p.1 = old
  · rw [if_pos hold] at hname
    exact hne hname.symm
  · rw [if_neg hold] at hname
    exact hold hname

/-- A key that moves to itself with what it has changes nothing. -/
theorem map_rename_self {k : String} {v : β} (hv : get? k m = some v) (hm : (keys m).Nodup) :
    (m.map fun p => if p.1 = k then (k, v) else p) = m := by
  induction m with
  | nil => rfl
  | cons p m ih =>
    obtain ⟨a, b⟩ := p
    obtain ⟨ha, hrest⟩ := List.nodup_cons.1 hm
    by_cases hak : a = k
    · subst hak
      obtain rfl : b = v := by simpa [get?] using hv
      rw [List.map_cons, if_pos rfl, map_rename_of_not_mem a b ha]
    · have hv' : get? k m = some v := by simpa [get?, hak] using hv
      rw [List.map_cons, if_neg hak, ih hv' hrest]

end Assoc

/-- A compile that passed and put both modules in their place, whatever was there. -/
structure CompileRun.WritesModules (c : Compiler) (run : CompileRun) : Prop where
  compiled : run.report.outcome = .compiled
  modules : ∃ w history,
    c.Gives run.file.filename run.file.code run.past (.ok run.report) w history ∧
      w.js.isSome = true ∧ w.ssr.isSome = true

/-- What a compile leaves in the modules of a file that had none has been written by it. -/
theorem CompileRun.writesModules_of_empty {c : Compiler} {run : CompileRun} {new : VirtualFile}
    {history : List Call} (hempty : run.file.compiled = {})
    (hrun : (c.compileFile run.file).run run.past = (.ok (run.report, new), history))
    (hcompiled : run.report.outcome = .compiled) (hjs : new.compiled.js ≠ "")
    (hssr : new.compiled.ssr ≠ "") : run.WritesModules c := by
  obtain ⟨result, w, h', hc⟩ := c.exists_concludes run.file.filename run.file.code run.past
  have hgives := hrun.symm.trans (hc.gives run.file.compiled)
  cases result with
  | error f => cases hgives
  | ok report =>
    obtain ⟨hresult, -⟩ := Prod.mk.inj hgives
    obtain ⟨hreport, rfl⟩ := Prod.mk.inj (Except.ok.inj hresult)
    refine ⟨hcompiled, w, h', hreport ▸ hc.gives, ?_, ?_⟩
    · cases hslot : w.js with
      | none => exact absurd (by simp [Writes.onto, hslot, hempty]) hjs
      | some js => rfl
    · cases hslot : w.ssr with
      | none => exact absurd (by simp [Writes.onto, hslot, hempty]) hssr
      | some ssr => rfl

/-- With services that answer by the request alone, such a compile leaves the same artifact
whenever it is made and whatever was there. -/
theorem CompileRun.WritesModules.exists_settles {c : Compiler} {run : CompileRun}
    (hrun : run.WritesModules c) (hpure : c.toolchain.IsPure)
    (hv : Path.suffix run.file.filename = ".vue") :
    ∃ artifact : Artifact, ∀ old, c.Settles ⟨run.file.filename, run.file.code, old⟩ run.report
      ⟨run.file.filename, run.file.code, artifact⟩ := by
  obtain ⟨w, history, hgives, hjs, hssr⟩ := hrun.modules
  obtain ⟨result, w', h', hc⟩ :=
    c.exists_concludes run.file.filename run.file.code run.past
  obtain ⟨rfl, rfl⟩ := hgives.unique hc.gives
  obtain ⟨js, hjs⟩ := Option.isSome_iff_exists.1 hjs
  obtain ⟨ssr, hssr⟩ := Option.isSome_iff_exists.1 hssr
  obtain ⟨css, hcss⟩ := Option.isSome_iff_exists.1 (hc.css_isSome hv hrun.compiled)
  have honto (old : Artifact) : w'.onto old = ⟨js, ssr, css⟩ := by
    simp [Writes.onto, hjs, hssr, hcss]
  refine ⟨⟨js, ssr, css⟩, fun old h => ?_⟩
  obtain ⟨h₂, hc₂⟩ := hc.of_isPure hpure h
  rw [hc₂.gives old, honto]
  rfl

namespace Store

/-- Everything that a user sees of a store is the same. Errors are found under the names of their
files, in whatever order they came. -/
structure Restored (s s' : Store) : Prop where
  files : s'.files = s.files
  errors : ∀ name, Assoc.get? name s'.errors = Assoc.get? name s.errors
  mainFile : s'.mainFile = s.mainFile
  active : s'.active = s.active

section Rename

variable {s : Store} {old new : String} {file file' : VirtualFile} {report : Report}

/-- A rename that passes puts the compiled file in the place of the old one, and its errors take
the place of those that were there. -/
theorem rename_of_settles (hs : s.Coherent) (hold : s.find? old = some file)
    (hnew : new ∉ Assoc.keys s.files)
    (hsettles : s.compiler.Settles { file with filename := new } report file') :
    ∃ history, s.rename old new = (.ok report, { s with
      files := s.files.map fun p => if p.1 = old then (new, file') else p
      errors := Assoc.put new report.errors (Assoc.erase old s.errors)
      mainFile := if s.mainFile = old then new else s.mainFile
      active := if s.active = old then new else s.active
      history }) := by
  have hmoved := find?_renamed hold hnew
  obtain ⟨history, hcompile⟩ := compile_of_settles hmoved hsettles
  have hfiles : Assoc.put new file' (s.renamed old new file).files =
      s.files.map fun p => if p.1 = old then (new, file') else p := by
    rw [Assoc.put_eq_map_rename file' (mem_keys_of_find? hmoved) (hs.rename file hnew).distinct]
    exact Assoc.map_rename_map_rename new _ file' fun hmem => absurd hmem hnew
  refine ⟨history, ?_⟩
  rcases s.rename_cases old new with ⟨htaken, -⟩ | ⟨-, hnone, -⟩ | ⟨file₁, hfile₁, -, hr⟩
  · exact absurd htaken hnew
  · rw [hold] at hnone
    cases hnone
  · rw [hold] at hfile₁
    cases hfile₁
    rw [hr, hcompile, hfiles]
    rfl

/-- A pointer to a file goes along with both renames, and one to another file stays. -/
theorem rename_rename_pointer {name : String} (hne : name ≠ new) :
    (if (if name = old then new else name) = new then old
      else if name = old then new else name) = name := by
  by_cases hold : name = old
  · simp [hold]
  · simp [hold, hne]

/-- What is recorded on the way is dropped on the way back. -/
theorem rename_rename_errors {errors : List (String × List String)} {recorded : List String}
    (passing : List String) (hold : Assoc.get? old errors = some recorded)
    (hnew : Assoc.get? new errors = none) (name : String) :
    Assoc.get? name (Assoc.put old recorded (Assoc.erase new (Assoc.put new passing
      (Assoc.erase old errors)))) = Assoc.get? name errors := by
  rw [Assoc.get?_put, Assoc.get?_erase, Assoc.get?_put, Assoc.get?_erase]
  by_cases hname : old = name
  · rw [if_pos hname, ← hname, hold]
  · by_cases hname' : new = name
    · rw [if_neg hname, if_pos hname', ← hname', hnew]
    · rw [if_neg hname, if_neg hname', if_neg hname', if_neg hname]

/-- Two renames that pass restore the store, if the second one settles on what was there before the
first. -/
theorem restored_of_settles {back : Report} (hs : s.Coherent) (hold : s.find? old = some file)
    (hnew : new ∉ Assoc.keys s.files) (hmain : new ≠ s.mainFile)
    (hthere : s.compiler.Settles { file with filename := new } report file')
    (hback : s.compiler.Settles { file' with filename := old } back file)
    (hrecorded : Assoc.get? old s.errors = some back.errors) :
    ∃ s₁ s₂, s.rename old new = (.ok report, s₁) ∧ s₁.rename new old = (.ok back, s₂) ∧
      s.Restored s₂ := by
  obtain ⟨h₁, hfirst⟩ := rename_of_settles hs hold hnew hthere
  have hs₁ : (s.rename old new).2.Coherent := hs.perform (.rename old new)
  rw [hfirst] at hs₁
  have hne : old ≠ new := fun he => hnew (he ▸ mem_keys_of_find? hold)
  have hfound : Assoc.get? new (s.files.map fun p => if p.1 = old then (new, file') else p) =
      some file' := by
    rw [Assoc.get?_map_rename old file' hnew, show Assoc.get? old s.files = some file from hold]
    rfl
  have hfree := Assoc.not_mem_keys_map_rename file' s.files hne
  obtain ⟨h₂, hsecond⟩ := rename_of_settles hs₁ hfound hfree hback
  -- the active file is one of the files or the main file, so it is not the name in between
  have hactive : s.active ≠ new := by
    rcases hs.active with hmem | he
    · exact fun he => hnew (he ▸ hmem)
    · exact fun he' => hmain (he'.symm.trans he)
  have hunrecorded : Assoc.get? new s.errors = none :=
    Assoc.get?_eq_none_iff.2 fun hmem => hnew (hs.recorded new hmem)
  refine ⟨_, _, hfirst, hsecond, ?_, ?_, ?_, ?_⟩
  · change (s.files.map _).map _ = s.files
    rw [Assoc.map_rename_map_rename old file' file fun hmem => absurd hmem hnew]
    exact Assoc.map_rename_self hold hs.distinct
  · exact rename_rename_errors report.errors hrecorded hunrecorded
  · exact rename_rename_pointer (Ne.symm hmain)
  · exact rename_rename_pointer hactive

end Rename

/-- A file that is found where its latest compile left it is what that compile settles on, if the
compile was of the code that the file has. -/
theorem Shows.settles {s : Store} {name : String} {run : CompileRun} {file : VirtualFile}
    (hshows : s.Shows name run) (hs : s.Coherent) (hpure : s.compiler.toolchain.IsPure)
    (hfile : s.find? name = some file) (hcode : run.file.code = file.code)
    (hv : Path.suffix name = ".vue") (hrun : run.WritesModules s.compiler) (old : Artifact) :
    s.compiler.Settles ⟨name, file.code, old⟩ run.report file := by
  obtain ⟨file₁, new, history, hfile₁, hresult, hkept⟩ := hshows.kept
  rw [hfile] at hfile₁
  cases hfile₁
  have hname := hshows.named
  obtain ⟨artifact, hsettles⟩ := hrun.exists_settles hpure (hname ▸ hv)
  -- the artifact that the file has is the one that its compile left
  have hnew : new = ⟨run.file.filename, run.file.code, artifact⟩ := by
    have hlatest := hsettles run.file.compiled run.past
    rw [show VirtualFile.mk run.file.filename run.file.code run.file.compiled = run.file from rfl,
      hresult] at hlatest
    cases hlatest
    rfl
  have hsame : file = ⟨name, file.code, artifact⟩ := by
    have hfilename := hs.filename_eq hfile
    rw [hnew] at hkept
    rw [← hfilename, ← show file.compiled = artifact from hkept]
  have hold := hsettles old
  rw [hname, hcode, ← hsame] at hold
  exact hold

/-- With services that answer by the request alone and refuse no name, a component can be renamed
there and back. If its latest compile was of the code that it has and wrote both of its modules,
then both renames pass, and the store is as it was, whatever the file became under the name in
between. -/
theorem rename_back (compiler : Compiler) (mainFile : String) (operations : List Operation)
    (hpure : compiler.toolchain.IsPure) (hnamed : ¬ (empty compiler mainFile).RefusesNames) :
    let s := (empty compiler mainFile).afterAll operations
    let latest := (empty compiler mainFile).latestCompiles operations
    ∀ a b run file, Path.suffix a = ".vue" → s.find? a = some file → latest a = some run →
      run.file.code = file.code → run.WritesModules compiler →
      b ∉ Assoc.keys s.files → b ≠ s.mainFile →
        ∃ report s₁ s₂, s.rename a b = (.ok report, s₁) ∧ s₁.rename b a = (.ok run.report, s₂) ∧
          s.Restored s₂ := by
  intro s latest a b run file hv hfile hlatest hcode hrun hb hbmain
  have hs : s.Coherent :=
    afterAll_keeps Coherent.change (coherent_empty compiler mainFile) operations
  have hcompiler : s.compiler = compiler := (empty compiler mainFile).compiler_afterAll operations
  have hshows : s.Shows a run := shows_latestCompiles hnamed operations a run hlatest
  obtain ⟨report, there, hthere, -⟩ := Compiler.exists_settles hpure
    (fun h name f hf => hnamed ⟨h, name, f, hf⟩) { file with filename := b }
  rw [← hcompiler] at hthere hpure hrun
  have hsource := s.compiler.compileFile_keeps_source { file with filename := b } []
    (Prod.ext (hthere []) rfl)
  have hback := hshows.settles hs hpure hfile hcode hv hrun there.compiled
  rw [← show there.code = file.code from hsource.2] at hback
  exact ⟨report, restored_of_settles hs hfile hb hbmain hthere hback hshows.errors⟩

/-- A component that is compiled beside a script that is not. -/
def plainOperations : List Operation :=
  [.add "App.vue" "<script>", .add "b.ts" "let n = 1", .compile "App.vue"]

def plainRun : CompileRun := ⟨⟨"App.vue", "<script>", {}⟩, [], ⟨"App.vue", .compiled, [], []⟩⟩

/-- The main file becomes a style on its way, so its source stands in the place of its styles. -/
theorem rename_back_throughStyle :
    let compiler : Compiler := { toolchain := plainServices.toolchain }
    let s := (empty compiler).afterAll plainOperations
    (compiler.toolchain.IsPure ∧ ¬ (empty compiler).RefusesNames) ∧
      (empty compiler).latestCompiles plainOperations "App.vue" = some plainRun ∧
      plainRun.WritesModules compiler ∧ "c.css" ∉ Assoc.keys s.files ∧ "c.css" ≠ s.mainFile ∧
      ((s.rename "App.vue" "c.css").2.find? "c.css").map (·.compiled.css) = some "<script>" ∧
      ∃ report s₁ s₂, s.rename "App.vue" "c.css" = (.ok report, s₁) ∧
        s₁.rename "c.css" "App.vue" = (.ok plainRun.report, s₂) ∧ s.Restored s₂ := by
  have hlatest : (empty { toolchain := plainServices.toolchain }).latestCompiles plainOperations
      "App.vue" = some plainRun := by rfl
  intro compiler s
  have hpure : compiler.toolchain.IsPure := by
    intro h h' call
    cases call <;> rfl
  have hnamed : ¬ (empty compiler).RefusesNames := by
    rintro ⟨h, name, f, hf⟩
    cases hf
  have hrun : plainRun.WritesModules compiler := by
    have hreport : ((compiler.compileFile plainRun.file).run []).1.toOption.map (·.1) =
        some plainRun.report := by decide +kernel
    have hmodules : ∀ result, ((compiler.compileFile plainRun.file).run []).1.toOption =
        some result → result.2.compiled.js ≠ "" ∧ result.2.compiled.ssr ≠ "" := by
      decide +kernel
    rcases hx : (compiler.compileFile plainRun.file).run [] with ⟨f | ⟨report, new⟩, history⟩
    · rw [hx] at hreport
      cases hreport
    · rw [hx] at hreport hmodules
      obtain rfl : report = plainRun.report := Option.some.inj hreport
      obtain ⟨hjs, hssr⟩ := hmodules _ rfl
      exact CompileRun.writesModules_of_empty rfl hx rfl hjs hssr
  have hcode : (s.find? "App.vue").map (·.code) = some plainRun.file.code := by decide +kernel
  have hfree : "c.css" ∉ Assoc.keys s.files := by decide +kernel
  have hmain : "c.css" ≠ s.mainFile := by decide
  refine ⟨⟨hpure, hnamed⟩, hlatest, hrun, hfree, hmain, by decide +kernel, ?_⟩
  obtain ⟨file, hfile, hcode⟩ := Option.map_eq_some_iff.1 hcode
  exact rename_back compiler defaultMain plainOperations hpure hnamed "App.vue" "c.css" plainRun
    file (by decide) hfile hlatest hcode.symm hrun hfree hmain

end Store

end Playground
