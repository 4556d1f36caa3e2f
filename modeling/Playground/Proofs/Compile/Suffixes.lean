import Playground.Proofs.Compile.Conclusion
import Playground.Proofs.Compile.TypeStripping
import Playground.Proofs.Disk.Listing

namespace Playground

theorem FileKind.ofSuffix_ne_inert_iff {suffix : String} :
    ofSuffix suffix ≠ .inert ↔ suffix ∈ [".vue", ".js", ".ts", ".css"] := by
  unfold ofSuffix
  split_ifs with hc hs hv
  · simp [hc]
  · rcases hs with rfl | rfl <;> simp
  · simp [hv]
  · simp_all

namespace SourceTree

section Suffix

variable {place : List String} {name : String}

/-- The suffix of a virtual path is that of the last name on it. -/
theorem suffix_virtualPath (hlast : place.getLast? = some name) (hname : '/' ∉ name.toList) :
    Path.suffix (virtualPath place) = String.ofList (Path.nameSuffix name.toList) := by
  obtain ⟨init, rfl⟩ := List.getLast?_eq_some_iff.1 hlast
  rw [Path.suffix, toList_virtualPath, List.map_append, List.map_singleton,
    Path.lastSegment_joined hname]

/-- Both notions of a suffix see the same sources. -/
theorem isSource_iff_suffix_virtualPath (hlast : place.getLast? = some name)
    (hname : '/' ∉ name.toList) :
    isSource place = true ↔ Path.suffix (virtualPath place) ∈ [".vue", ".js", ".ts", ".css"] := by
  rw [isSource_iff hlast, suffix_virtualPath hlast hname]
  have hmem : String.ofList (Path.nameSuffix name.toList) ∈ [".vue", ".js", ".ts", ".css"] ↔
      ∃ suffix ∈ suffixes, Path.nameSuffix name.toList = suffix := by
    simp [suffixes, ← String.toList_inj]
  rw [hmem, IsSourceName, exists_comm]
  refine exists_congr fun suffix => ?_
  rw [exists_and_left]
  refine and_congr_right fun hsuffix => ?_
  obtain ⟨ext, rfl, hext, -⟩ := exists_ext_of_mem_suffixes hsuffix
  exact (Path.nameSuffix_eq_iff hext).symm

/-- The only names whose suffixes differ are those with a dot at the end, and none of them is a
source. -/
theorem hostSuffix_eq (hlast : place.getLast? = some name) (hname : '/' ∉ name.toList)
    (hsource : isSource place = true) (start : String) (folder : List String) :
    HostPath.suffix ⟨start, folder ++ place⟩ = Path.suffix (virtualPath place) := by
  obtain ⟨stem, suffix, hsuffix, -, hstem⟩ := (isSource_iff hlast).1 hsource
  obtain ⟨ext, rfl, hext, hne⟩ := exists_ext_of_mem_suffixes hsuffix
  have hdot : name.toList.getLast? ≠ some '.' := by
    intro he
    rw [hstem, List.getLast?_append_of_ne_nil _ (List.cons_ne_nil _ _),
      List.getLast?_cons_of_ne_nil hne] at he
    exact hext (List.mem_of_getLast? he)
  rw [suffix_virtualPath hlast hname, HostPath.suffix, HostPath.name, ← HostPath.nameSuffix_eq hdot]
  obtain ⟨init, rfl⟩ := List.getLast?_eq_some_iff.1 hlast
  simp

end Suffix

end SourceTree

namespace Compiler

theorem isTypedName_iff {filename : String} :
    isTypedName filename = true ↔ ".ts".toList <:+ filename.toList := by
  rw [isTypedName, String.endsWith_eq_endsWith_toSlice, String.Slice.endsWith_string_iff]
  simp

/-- A script module is a typed one by its end exactly if it is one by its suffix. -/
theorem isTypedName_iff_suffix {file : VirtualFile} (hk : file.kind = .script) :
    isTypedName file.filename = true ↔ file.suffix = ".ts" := by
  have hts : ".ts".toList = ['.', 't', 's'] := by decide
  rw [isTypedName_iff, hts]
  constructor
  · intro hend
    refine (FileKind.ofSuffix_eq_script_iff.1 hk).resolve_left fun hjs => ?_
    have hjs : ['.', 'j', 's'] <:+ file.filename.toList :=
      Path.ext_suffix_of_suffix_eq (by decide) hjs
    have hsame := List.suffix_of_suffix_length_le hjs hend (by decide)
    exact absurd hsame (by decide)
  · exact Path.ext_suffix_of_suffix_eq (by decide)

/-- The code of a script with its refs transformed, where the services do that. -/
def transformedCode (c : Compiler) (file : VirtualFile) : ExceptT Failure Session String :=
  if c.toolchain.transformsRefs then do
    if ← c.toolchain.demand (.shouldTransform file.code) then
      c.toolchain.demand (.transform file.code file.filename)
    else pure file.code
  else pure file.code

/-- A script is left with its imports anchored, or as it was if a service raised. -/
def scriptEnd (file : VirtualFile) : Except Failure String → Report × VirtualFile
  | .error f => aborted file [f.awaited.trace]
  | .ok code =>
    let text := Import.anchor file.filename code
    (⟨file.filename, .compiled, [], []⟩,
      { file with compiled := { file.compiled with js := text, ssr := text } })

section Script

variable (c : Compiler) (file : VirtualFile) (h : List Call)

theorem transformedCode_stripsNothing :
    StripsNothing h ((c.transformedCode file).run.run h).2 := by
  unfold transformedCode
  split
  · rw [run_bind, run_demand]
    cases c.toolchain.respond h (.shouldTransform file.code) with
    | error f => exact ⟨[_], rfl, by simp⟩
    | ok wanted =>
      cases wanted with
      | false => exact ⟨[_], rfl, by simp⟩
      | true => exact ⟨[_, _], List.append_assoc h [_] [_], by simp⟩
  · exact ⟨[], (List.append_nil h).symm, by simp⟩

theorem scriptFile_eq : c.scriptFile file = do
    let code ← c.transformedCode file
    let code ←
      if isTypedName file.filename then c.toolchain.demand (.stripTypes code) else pure code
    return Import.anchor file.filename code := by
  unfold scriptFile transformedCode
  dsimp only
  split
  · rw [bind_assoc]
    refine bind_congr fun wanted => ?_
    cases wanted <;> split <;> simp
  · rw [pure_bind]

/-- Types are stripped last, from what the transform of refs has left, and only in a file whose
suffix says so. -/
theorem compileFile_script_eq (hb : Text.allBlank file.code = false) (hk : file.kind = .script) :
    (c.compileFile file).run h =
      match (c.transformedCode file).run.run h with
      | (.error f, h₁) => (.ok (scriptEnd file (.error f)), h₁)
      | (.ok code, h₁) =>
        if file.suffix = ".ts" then
          (.ok (scriptEnd file (c.toolchain.respond h₁ (.stripTypes code))), h₁ ++ [.stripTypes code])
        else (.ok (scriptEnd file (.ok code)), h₁) := by
  rw [c.compileFile_of_script file h hb hk, scriptFile_eq, run_bind]
  rcases (c.transformedCode file).run.run h with ⟨f | code, h₁⟩
  · rfl
  by_cases hts : file.suffix = ".ts"
  · have hstrip := run_demand c.toolchain (.stripTypes code) h₁
    simp only [hts, (isTypedName_iff_suffix hk).2 hts, if_true, run_bind]
    cases hr : c.toolchain.respond h₁ (.stripTypes code) with
    | error f =>
      rw [hr] at hstrip
      rw [hstrip]
      rfl
    | ok text =>
      rw [hr] at hstrip
      rw [hstrip]
      rfl
  · simp only [hts, mt (isTypedName_iff_suffix hk).1 hts, Bool.false_eq_true, if_false]
    rfl

/-- Only blank files and those of an unknown kind are skipped. -/
theorem not_skipped (hb : Text.allBlank file.code = false) (hk : file.kind ≠ .inert)
    {report : Report} {file' : VirtualFile}
    (hrun : ((c.compileFile file).run h).1 = .ok (report, file')) : report.outcome ≠ .skipped := by
  obtain ⟨result, w, h', hc⟩ := c.exists_concludes file.filename file.code h
  rw [hc.gives file.compiled] at hrun
  cases hc with
  | skipped hskip => exact absurd (hskip.resolve_left (by simp [hb])) hk
  | refused => cases hrun
  | _ =>
    cases hrun
    exact nofun

end Script

end Compiler

/-- What is read from a folder is what a compile takes up, by suffixes that both see alike, and the
end of a name tells typed scripts from others just as the suffix does. So nothing that is read and
not blank is skipped. -/
theorem suffixes_agree {d : Disk} (hd : d.WellFormed) {root : HostPath} {folder : List String}
    (hfolder : d.folderAt root = .ok (some folder)) (c : Compiler) :
    (∀ place bytes, (folder ++ place, bytes) ∈ d.files →
      let path := SourceTree.virtualPath place
      ((place, bytes) ∈ SourceTree.sourcesBelow d folder ↔
        Path.suffix path ∈ [".vue", ".js", ".ts", ".css"]) ∧
      (FileKind.ofSuffix (Path.suffix path) ≠ .inert ↔
        Path.suffix path ∈ [".vue", ".js", ".ts", ".css"]) ∧
      ((place, bytes) ∈ SourceTree.sourcesBelow d folder →
        (root.join ⟨"", place⟩).suffix = Path.suffix path)) ∧
    (∀ (file : VirtualFile) (h : List Call), Text.allBlank file.code = false →
      file.kind = .script →
      StripsNothing h ((c.transformedCode file).run.run h).2 ∧
      (c.compileFile file).run h =
        match (c.transformedCode file).run.run h with
        | (.error f, h₁) => (.ok (Compiler.scriptEnd file (.error f)), h₁)
        | (.ok code, h₁) =>
          if file.suffix = ".ts" then
            (.ok (Compiler.scriptEnd file (c.toolchain.respond h₁ (.stripTypes code))),
              h₁ ++ [.stripTypes code])
          else (.ok (Compiler.scriptEnd file (.ok code)), h₁)) ∧
    ∀ sources, SourceTree.read d root = .ok sources → ∀ key text, (key, text) ∈ sources →
      Text.allBlank text = false → ∀ old h report file',
        ((c.compileFile ⟨key, text, old⟩).run h).1 = .ok (report, file') →
          report.outcome ≠ .skipped := by
  have hbelow := Disk.isFolder_of_folderAt hfolder
  have hselected {place : List String} {bytes : List Nat}
      (hfile : (folder ++ place, bytes) ∈ d.files) :
      ((place, bytes) ∈ SourceTree.sourcesBelow d folder ↔ SourceTree.isSource place = true) ∧
      ∃ name, place.getLast? = some name ∧ '/' ∉ name.toList := by
    have hne := SourceTree.ne_nil_of_file hd hbelow hfile
    have hlast := List.getLast?_eq_some_getLast hne
    refine ⟨?_, _, hlast, ?_⟩
    · rw [SourceTree.mem_sourcesBelow_iff hd hbelow, SourceTree.isSource_iff hlast]
      exact ⟨fun hsource => by simpa [hlast] using hsource.named,
        fun hnamed => ⟨hfile, _, hlast, hnamed⟩⟩
    · exact (hd.named _ hfile _ (List.mem_append_right _ (List.getLast_mem hne))).2.2.2
  refine ⟨fun place bytes hfile => ?_, fun file h hb hk => ?_, ?_⟩
  · obtain ⟨hmem, name, hlast, hname⟩ := hselected hfile
    refine ⟨?_, FileKind.ofSuffix_ne_inert_iff, fun hsource => ?_⟩
    · rw [hmem, SourceTree.isSource_iff_suffix_virtualPath hlast hname]
    · exact SourceTree.hostSuffix_eq hlast hname (hmem.1 hsource) root.start root.parts
  · exact ⟨c.transformedCode_stripsNothing file h, c.compileFile_script_eq file h hb hk⟩
  · intro sources hread key text hmem hb old h report file' hrun
    obtain ⟨place, bytes, hsource, rfl, -⟩ :=
      (SourceTree.mem_read_iff hd hfolder hread key text).1 hmem
    obtain ⟨hselect, name, hlast, hname⟩ := hselected hsource.file
    refine c.not_skipped ⟨SourceTree.virtualPath place, text, old⟩ h hb ?_ hrun
    refine FileKind.ofSuffix_ne_inert_iff.2 ?_
    exact (SourceTree.isSource_iff_suffix_virtualPath hlast hname).1
      (hselect.1 ((SourceTree.mem_sourcesBelow_iff hd hbelow).2 hsource))

/-- Names that start and end with dots, and a folder that is named like a source. -/
def dottedTree : Disk :=
  { files := [(["src", "..ts"], [0x61]), (["src", ".ts"], [0x61]), (["src", "a.ts."], [0x61]),
      (["src", "a.js", "b"], [0x61])] }

theorem suffixes_agree_dottedTree :
    let d := dottedTree
    let c : Compiler := { toolchain := signingServices.toolchain }
    let file : VirtualFile := ⟨"..ts", "a", {}⟩
    d.WellFormed ∧ d.folderAt (.ofText "src") = .ok (some ["src"]) ∧
      (∀ place ∈ [[".ts"], ["a.ts."], ["a.js", "b"]],
        (place, [0x61]) ∉ SourceTree.sourcesBelow d ["src"]) ∧
      (["..ts"], [0x61]) ∈ SourceTree.sourcesBelow d ["src"] ∧
      ((HostPath.ofText "src").join ⟨"", ["..ts"]⟩).suffix = file.suffix ∧
      (c.compileFile file).run [] =
        (.ok (Compiler.scriptEnd file (.ok "a// js")), [.stripTypes "a"]) := by
  intro d c file
  have hd : d.WellFormed := ⟨by decide, by decide⟩
  have hfolder : d.folderAt (.ofText "src") = .ok (some ["src"]) := by decide
  obtain ⟨hplaces, hscripts, -⟩ := suffixes_agree hd hfolder c
  have hsource : (["..ts"], [0x61]) ∈ SourceTree.sourcesBelow d ["src"] :=
    (hplaces ["..ts"] [0x61] (by decide)).1.2 (by decide)
  refine ⟨hd, hfolder, fun place hplace => ?_, hsource, ?_, ?_⟩
  · simp only [List.mem_cons, List.not_mem_nil, or_false] at hplace
    rcases hplace with rfl | rfl | rfl <;>
      exact (hplaces _ [0x61] (by decide)).1.not.2 (by decide)
  · exact (hplaces ["..ts"] [0x61] (by decide)).2.2 hsource
  · have htransformed : (c.transformedCode file).run.run [] = (.ok "a", []) := rfl
    have hsuffix : file.suffix = ".ts" := by decide
    have hstripped : signingServices.strip.run "a" = .ok "a// js" := by decide +kernel
    have hstrip : c.toolchain.respond [] (.stripTypes "a") = .ok "a// js" :=
      congrArg (Except.mapError Failure.awaited) hstripped
    have hrun := (hscripts file [] (by decide) (by decide)).2
    rw [htransformed] at hrun
    dsimp only at hrun
    rw [if_pos hsuffix, hstrip] at hrun
    exact hrun

end Playground
