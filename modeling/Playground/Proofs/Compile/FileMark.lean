import Playground.Proofs.Compile.Assembly
import Playground.Proofs.Import.Tail
import Playground.Proofs.Json.Escape

namespace Playground

/-- What both modules of a component end with: the name of its file, and the export. -/
def fileMark (filename : String) : String :=
  componentName ++ ".__file = " ++ Json.literal filename ++ "\nexport default " ++ componentName

theorem exportTail_eq (filename : String) :
    Compiler.exportTail filename = "\n" ++ fileMark filename := by
  simp only [Compiler.exportTail, fileMark, String.append_assoc]

def beforeName : List Char := "__sfc__.__file = ".toList

def behindName : List Char := "\nexport default __sfc__".toList

theorem toList_fileMark (filename : String) :
    (fileMark filename).toList = beforeName ++ '"' ::
      ((Text.points filename.toList).flatMap Json.escapePoint ++ '"' :: behindName) := by
  have hbefore : componentName.toList ++ ".__file = ".toList = beforeName := by decide
  have hbehind : "\nexport default ".toList ++ componentName.toList = behindName := by decide
  rw [fileMark, String.toList_append, String.toList_append, String.toList_append,
    String.toList_append, hbefore, Json.literal, String.toList_ofList, Json.literalChars,
    List.append_assoc, List.append_assoc, hbehind, List.cons_append, List.cons_append,
    List.append_assoc, List.singleton_append]

theorem startsWord_fileMark (filename : String) :
    ∃ c rest, (fileMark filename).toList = c :: rest ∧ Import.Occurrence.StartsWord c := by
  rw [toList_fileMark]
  exact ⟨'_', _, rfl, by decide, by decide, by decide⟩

/-- A printable character that neither escapes nor the words of the mark have is in it as often as in
the name. -/
theorem count_fileMark {c : Char} (hc : c ∉ Json.escapeChars)
    (hplain : 0x20 ≤ c.toNat ∧ c.toNat ≤ 0x7E) (hbefore : c ∉ beforeName) (hbehind : c ∉ behindName)
    (filename : String) : (fileMark filename).toList.count c = filename.toList.count c := by
  have hliteral := Json.count_literalChars hc hplain filename.toList
  rw [Json.literalChars, List.cons_append] at hliteral
  rw [toList_fileMark, List.count_append, List.count_eq_zero.2 hbefore, Nat.zero_add, ← hliteral,
    List.count_cons, List.count_cons, List.count_append, List.count_append, List.count_cons,
    List.count_singleton, List.count_eq_zero.2 hbehind, Nat.zero_add]

theorem apostrophe_not_mem_fileMark {filename : String} (hname : '\'' ∉ filename.toList) :
    '\'' ∉ (fileMark filename).toList := by
  rw [← List.count_eq_zero] at hname ⊢
  rwa [count_fileMark (by decide) (by decide) (by decide) (by decide)]

/-- The literal stands behind a sign and a space. -/
theorem beforeName_ne {front b : List Char} (hb : ∀ c ∈ b, Text.isBlank c = true) :
    front ++ 'm' :: b ≠ beforeName := by
  intro h
  have hreverse := congrArg List.reverse h
  have hsign : beforeName.reverse = [' '] ++ '=' :: beforeName.reverse.drop 2 := by decide
  rw [hsign, List.reverse_append, List.reverse_cons, List.append_assoc, List.singleton_append]
    at hreverse
  have hm := Import.eq_of_append_stop_eq (fun c hc => hb c (List.mem_reverse.1 hc))
    (List.forall_mem_singleton.2 (by decide)) (by decide) (by decide) hreverse
  exact absurd hm.2.1 (by decide)

/-- No mark that a dot follows has a blank before it. The marks in the literal are escaped, and the
one at its end has a line end behind it. -/
theorem isBlank_before_mark {points : List Nat} {inside rest : List Char} {c : Char}
    (h : points.flatMap Json.escapePoint ++ '"' :: behindName = inside ++ '"' :: '.' :: rest)
    (hc : ('"' :: inside).getLast? = some c) : Text.isBlank c = false := by
  rcases Import.mark_cases h with ⟨behind, hinside, -⟩ | ⟨behind, -, hend⟩
  · rcases List.eq_nil_or_concat inside with rfl | ⟨inside, d, rfl⟩
    · cases hc
      decide
    · rw [List.concat_eq_append] at hc hinside
      rw [← List.cons_append, List.getLast?_concat] at hc
      cases hc
      refine Bool.eq_false_iff.2 fun hblank => ?_
      refine Json.not_infix_blank_mark hblank points ⟨inside, behind, ?_⟩
      rw [hinside]
      simp
  · cases behind with
    | nil => exact absurd (List.cons.inj (List.cons.inj hend).2).1 (by decide)
    | cons d behind =>
      have hmark : '"' ∈ behindName := by
        rw [(List.cons.inj hend).2]
        simp
      exact absurd hmark (by decide)

/-- In a name without an apostrophe the mark opens no specifier, whatever else the name is. -/
theorem not_opensRelative_fileMark {filename : String} (hname : '\'' ∉ filename.toList) :
    ¬ Import.OpensRelative (fileMark filename).toList := by
  rintro ⟨front, b, q, rest, ⟨hne, hblank⟩, hq, h⟩
  have hmark : q = '"' := by
    refine (by simpa [Import.isQuote] using hq : q = '\'' ∨ q = '"').resolve_left ?_
    rintro rfl
    refine apostrophe_not_mem_fileMark hname ?_
    rw [h]
    simp
  subst hmark
  rw [toList_fileMark] at h
  have hwhole : beforeName ++ '"' :: ((Text.points filename.toList).flatMap Json.escapePoint ++
      '"' :: behindName) = (front ++ 'm' :: b) ++ '"' :: '.' :: rest := by simp [h]
  obtain ⟨inside, hfront, hliteral⟩ := Import.mark_behind (by decide) hwhole
  cases inside with
  | nil => exact beforeName_ne hblank (by simpa using hfront)
  | cons c inside =>
    rw [List.cons_append] at hliteral
    obtain ⟨rfl, hinside⟩ := List.cons.inj hliteral
    obtain ⟨before, d, rfl⟩ := (List.eq_nil_or_concat b).resolve_left hne
    have hlast : (beforeName ++ '"' :: inside).getLast? = some d := by
      rw [← hfront, List.concat_eq_append, ← List.cons_append, ← List.append_assoc,
        List.getLast?_concat]
    rw [List.getLast?_append_of_ne_nil _ (List.cons_ne_nil _ _)] at hlast
    exact Bool.eq_false_iff.1 (isBlank_before_mark hinside hlast) (hblank d (by simp))

/-- The white space at the start of a module ends before the mark. -/
theorem stripStart_exportTail (code filename : String) :
    Text.stripStart (code ++ Compiler.exportTail filename) =
      Text.stripStart (code ++ "\n") ++ fileMark filename := by
  obtain ⟨c, rest, hmark, hc⟩ := startsWord_fileMark filename
  have hstop : (c :: rest).dropWhile Text.isBlank = c :: rest := by
    rw [List.dropWhile_cons_of_neg (by simp [hc.notBlank])]
  rw [exportTail_eq, ← String.append_assoc, ← String.toList_inj, String.toList_append,
    Text.stripStart, Text.stripStart, String.toList_ofList, String.toList_ofList, Text.trimStart,
    Text.trimStart, String.toList_append, hmark, List.dropWhile_append]
  split
  · next hblank => rw [hstop, List.isEmpty_iff.1 hblank, List.nil_append]
  · rfl

theorem isAbove_stripStart (code : String) :
    Import.Occurrence.IsAbove (Text.stripStart (code ++ "\n")).toList := by
  rw [Text.stripStart, String.toList_ofList, Text.trimStart, String.toList_append]
  obtain ⟨blanks, hcode⟩ := List.dropWhile_suffix Text.isBlank (l := code.toList ++ "\n".toList)
  have hlines : Import.Occurrence.IsAbove (code.toList ++ "\n".toList) := .inr ⟨_, rfl⟩
  rw [← hcode] at hlines
  exact hlines.of_append

namespace Compiler

/-- Two texts with the mark of their file as the modules of a component. The server module always
ends with it. In the client module, where imports are read from the root, it stays as it is exactly
when the file is at the root or no relative import that is found ends in it, as in a name without an
apostrophe. -/
def IsMarked (filename client server : String) (old new : Artifact) : Prop :=
  let mark := fileMark filename
  let body := Text.stripStart (client ++ "\n")
  if client = "" ∧ server = "" then new.js = old.js ∧ new.ssr = old.ssr
  else
    new.ssr = Text.stripStart (server ++ "\n") ++ mark ∧
      (new.js = Import.anchor filename body ++ mark ↔ '/' ∉ filename.toList ∨
        ∀ span ∈ Import.findRelative (body ++ mark), span.2.1 ≤ body.toList.length) ∧
      ('\'' ∉ filename.toList → new.js = Import.anchor filename body ++ mark)

theorem IsAssembled.isMarked {filename client server : String} {old new : Artifact}
    (hname : Path.IsVirtual filename) (h : IsAssembled filename client server old new) :
    IsMarked filename client server old new := by
  unfold IsAssembled at h
  unfold IsMarked
  dsimp only
  split at h
  · next hempty => rwa [if_pos hempty]
  · next hempty =>
    obtain ⟨hjs, hssr⟩ := h
    rw [← exportTail_eq_literal, stripStart_exportTail] at hjs hssr
    have hbody := isAbove_stripStart client
    have hmark := startsWord_fileMark filename
    have hslashes : (fileMark filename).toList.count '/' = filename.toList.count '/' :=
      count_fileMark (by decide) (by decide) (by decide) (by decide) filename
    have hmarked := Import.anchor_append_eq_iff hbody hmark (Path.parentChars_ne_nil hname)
      hslashes.le
    rw [if_neg hempty, hjs, hssr]
    refine ⟨rfl, hmarked, fun hquote => hmarked.2 (.inr ?_)⟩
    exact Import.findRelative_le_of_not_opensRelative hbody hmark
      (not_opensRelative_fileMark hquote)

/-- What the modules of a component that compiles end with. -/
theorem compileFile_marks (c : Compiler) (file : VirtualFile) (h : List Call)
    (hname : Path.IsVirtual file.filename) (hv : file.suffix = ".vue") {report : Report}
    {file' : VirtualFile} {h' : List Call}
    (hrun : (c.compileFile file).run h = (.ok (report, file'), h'))
    (hcompiled : report.outcome = .compiled) :
    ∃ id d texts, c.ComponentGives file h id d texts ∧
      let scope := if d.hasScopedStyle then scopeLine id else ""
      IsMarked file.filename (texts.clientText ++ scope) (texts.serverText ++ scope)
        file.compiled file'.compiled := by
  obtain ⟨id, builds, sheet, -, hid, hstages, -, rfl⟩ :=
    c.stages_of_compiled file h hv hrun hcompiled
  obtain ⟨parsed, script, server, template, _, _, hparse, herrors, hscript, htemplate, hhold⟩ :=
    stages_give hstages
  refine ⟨id, parsed.descriptor, ⟨script.code, server, template⟩,
    .intro hid hparse herrors hscript htemplate, ?_⟩
  exact (isAssembled_assemble hhold file.filename file.compiled).isMarked hname

/-- Services for a component with no blocks. -/
def withoutBlocks : Compiler :=
  let services : ToolchainScript :=
    { parse := .ok { descriptor := { filename := "" } }
      script := fun _ => .ok { content := "" }
      template := fun _ => .ok { code := "" }
      ids := { fixed := some "a1" } }
  { toolchain := services.toolchain }

/-- Marks of literals in a name are escaped, so what looks like an import there is none. -/
theorem compileFile_marks_quotedName :
    let file : VirtualFile := ⟨"docs/import x from \"./y\".vue", "<style></style>", {}⟩
    let run := (withoutBlocks.compileFile file).run []
    let compiled := (file.after run.1).compiled
    Path.IsVirtual file.filename ∧ file.suffix = ".vue" ∧
      run.1.toOption.map (·.1.outcome) = some .compiled ∧
      compiled.js = "const __sfc__ = \x7b\x7d\n" ++ fileMark file.filename ∧
      ∃ id d texts, withoutBlocks.ComponentGives file [] id d texts ∧
        let scope := if d.hasScopedStyle then scopeLine id else ""
        IsMarked file.filename (texts.clientText ++ scope) (texts.serverText ++ scope)
          file.compiled compiled := by
  intro file run compiled
  have hname : Path.IsVirtual file.filename := Path.isVirtual_iff.2 (by decide +kernel)
  have hv : file.suffix = ".vue" := by decide
  have houtcome : run.1.toOption.map (·.1.outcome) = some .compiled := by decide +kernel
  refine ⟨hname, hv, houtcome, by decide +kernel, ?_⟩
  have hcompiled : compiled = (file.after run.1).compiled := rfl
  rcases hrun : run with ⟨f | ⟨report, file'⟩, h'⟩
  · rw [hrun] at houtcome
    cases houtcome
  · rw [hrun] at houtcome hcompiled
    rw [hcompiled]
    exact compileFile_marks withoutBlocks file [] hname hv hrun (Option.some.inj houtcome)

/-- What looks like an import in a name is read from the root in the client module, which then names
another file than the server module. -/
theorem compileFile_respells_mark :
    let file : VirtualFile := ⟨"docs/import x from './y'.vue", "<style></style>", {}⟩
    let run := (withoutBlocks.compileFile file).run []
    let compiled := (file.after run.1).compiled
    let start := "const __sfc__ = \x7b\x7d\n"
    Path.IsVirtual file.filename ∧ file.suffix = ".vue" ∧
      run.1.toOption.map (·.1.outcome) = some .compiled ∧
      compiled.ssr = start ++ fileMark file.filename ∧
      compiled.js = start ++ fileMark "docs/import x from './docs/import x from './y'.vue" ∧
      ¬ (fileMark file.filename).toList <:+ compiled.js.toList := by
  intro file run compiled start
  have hjs : compiled.js =
      start ++ fileMark "docs/import x from './docs/import x from './y'.vue" := by decide +kernel
  refine ⟨Path.isVirtual_iff.2 (by decide +kernel), by decide, by decide +kernel,
    by decide +kernel, hjs, ?_⟩
  rw [hjs]
  decide +kernel

end Compiler

end Playground
