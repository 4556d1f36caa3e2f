import Playground.Compile.Template
import Playground.Proofs.Import.Grammar
import Playground.Proofs.Session
import Playground.Proofs.Text.Lines
import Playground.Toolchain.Scripted

namespace Playground

namespace Text

/-- What has no line feed of its own and starts with a line ends on that line. -/
theorem prefix_of_prefix_line {start line rest : List Char} (hstart : '\n' ∉ start)
    (hrest : ∀ c ∈ rest.head?, c = '\n') (h : start <+: line ++ rest) : start <+: line := by
  rcases List.prefix_or_prefix_of_prefix h (List.prefix_append line rest) with hin | ⟨more, rfl⟩
  · exact hin
  · cases more with
    | nil => simp
    | cons c more =>
      obtain ⟨rest', rfl⟩ := (List.prefix_append_right_inj line).1 h
      exact absurd (hrest c rfl) fun hc => hstart (by simp [hc])

end Text

/-- What every exported line starts with. -/
def exportMark : List Char := ['e', 'x', 'p', 'o', 'r', 't', ' ']

def renderWords : List (List Char) :=
  [['f', 'u', 'n', 'c', 't', 'i', 'o', 'n'], ['c', 'o', 'n', 's', 't']]

def renderNames : List (List Char) :=
  [['r', 'e', 'n', 'd', 'e', 'r'], ['s', 's', 'r', 'R', 'e', 'n', 'd', 'e', 'r']]

/-- A line that starts like the export of a render function, whatever its name goes on with. -/
def OpensRender (line : List Char) : Prop :=
  ∃ word ∈ renderWords, ∃ name ∈ renderNames, exportMark ++ (word ++ ' ' :: name) <+: line

theorem renderExport?_eq_some_iff {s word rest : List Char} :
    renderExport? s = some (word, rest) ↔ word ∈ renderWords ∧ ∃ name ∈ renderNames,
      s = '\n' :: (exportMark ++ (word ++ ' ' :: (name ++ rest))) := by
  constructor
  · intro h
    rcases Option.or_eq_some_iff.1 h with h | ⟨-, h⟩
    all_goals
      dsimp only at h
      split at h
      · next hstart =>
        obtain ⟨tail, rfl⟩ := List.isPrefixOf_iff_prefix.1 hstart
        rw [List.drop_left] at h
        split at h
        · next hname =>
          obtain ⟨rest', rfl⟩ := List.isPrefixOf_iff_prefix.1 hname
          cases h
          exact ⟨by simp [renderWords], _, List.mem_cons_self, by simp [exportMark]⟩
        split at h
        · next hname =>
          obtain ⟨rest', rfl⟩ := List.isPrefixOf_iff_prefix.1 hname
          cases h
          exact ⟨by simp [renderWords], _, List.mem_cons_of_mem _ List.mem_cons_self,
            by simp [exportMark]⟩
        · cases h
      · cases h
  · rintro ⟨hword, name, hname, rfl⟩
    simp only [renderWords, renderNames, List.mem_cons, List.not_mem_nil, or_false] at hword hname
    rcases hword with rfl | rfl <;> rcases hname with rfl | rfl <;>
      simp [renderExport?, exportMark]

/-- A declaration does not start like one that is exported. -/
theorem word_append_ne {word : List Char} (hword : word ∈ renderWords) (rest rest' : List Char) :
    word ++ rest ≠ exportMark ++ rest' := by
  simp only [renderWords, List.mem_cons, List.not_mem_nil, or_false] at hword
  intro h
  rcases hword with rfl | rfl <;> exact absurd (List.cons.inj h).1 (by decide)

/-- Nothing is taken out of a line that does not open a render function. -/
theorem renderExport?_eq_none {line rest : List Char} (hline : ¬ OpensRender line)
    (hrest : ∀ c ∈ rest.head?, c = '\n') : renderExport? ('\n' :: (line ++ rest)) = none := by
  refine Option.eq_none_iff_forall_ne_some.2 fun ⟨word, behind⟩ hsome => hline ?_
  obtain ⟨hword, name, hname, htext⟩ := renderExport?_eq_some_iff.1 hsome
  refine ⟨word, hword, name, hname, Text.prefix_of_prefix_line ?_ hrest ⟨behind, ?_⟩⟩
  · simp only [renderWords, renderNames, List.mem_cons, List.not_mem_nil, or_false] at hword hname
    rcases hword with rfl | rfl <;> rcases hname with rfl | rfl <;> decide
  · rw [(List.cons.inj htext).2]
    simp

section Inline

variable {name : List Char}

theorem inlineRender_line {line : List Char} (hline : '\n' ∉ line) (rest : List Char) :
    inlineRender name (line ++ rest) = line ++ inlineRender name rest := by
  induction line with
  | nil => rfl
  | cons c line ih =>
    obtain ⟨hc, hline⟩ := not_or.1 (mt List.mem_cons.2 hline)
    have hnone : renderExport? (c :: (line ++ rest)) = none := by
      refine Option.eq_none_iff_forall_ne_some.2 fun ⟨word, behind⟩ hsome => hc ?_
      obtain ⟨-, _, -, htext⟩ := renderExport?_eq_some_iff.1 hsome
      exact (List.cons.inj htext).1.symm
    rw [List.cons_append, inlineRender, hnone]
    dsimp only
    rw [ih hline, List.cons_append]

theorem head?_flatMap_lines (lines : List (List Char)) :
    ∀ c ∈ (lines.flatMap ('\n' :: ·)).head?, c = '\n' := by
  cases lines <;> simp

/-- A line that opens no render function is left as it is. -/
theorem inlineRender_passes {line : List Char} {lines : List (List Char)} (hfeed : '\n' ∉ line)
    (hline : ¬ OpensRender line) :
    inlineRender name ((line :: lines).flatMap ('\n' :: ·)) =
      '\n' :: line ++ inlineRender name (lines.flatMap ('\n' :: ·)) := by
  rw [List.flatMap_cons, List.cons_append, inlineRender,
    renderExport?_eq_none hline (head?_flatMap_lines lines)]
  dsimp only
  rw [inlineRender_line hfeed, List.cons_append]

/-- The first line that opens a render function is the one that is changed. -/
theorem inlineRender_takes (name : List Char) {word known : List Char} (hword : word ∈ renderWords)
    (hknown : known ∈ renderNames) (rest : List Char) :
    inlineRender name ('\n' :: (exportMark ++ (word ++ ' ' :: (known ++ rest)))) =
      '\n' :: (word ++ ' ' :: (name ++ rest)) := by
  rw [inlineRender, renderExport?_eq_some_iff.2 ⟨hword, known, hknown, rfl⟩]
  simp

end Inline

/-- A line that exports a render function: `export`, a word for functions, blanks, one of the names
of render functions, and what stands behind it. -/
structure RenderEntry where
  word : List Char
  gap : List Char
  name : List Char
  rest : List Char
  word_mem : word ∈ renderWords
  gap_ne_nil : gap ≠ []
  gap_blank : ∀ c ∈ gap, Text.isBlank c = true
  name_mem : name ∈ renderNames

namespace RenderEntry

def text (e : RenderEntry) : List Char := exportMark ++ (e.word ++ (e.gap ++ (e.name ++ e.rest)))

/-- The same line without its export, and with the function named for a build. -/
def inlined (target : Target) (e : RenderEntry) : List Char :=
  e.word ++ (e.gap ++ (target.renderName.toList ++ e.rest))

/-- The pattern for the export has one space before the name and takes no other gap. -/
theorem opensRender_text_iff (e : RenderEntry) : OpensRender e.text ↔ e.gap = [' '] := by
  have hwords : renderWords.all (·.all fun c => !Text.isBlank c) = true := by decide
  rw [List.all_eq_true] at hwords
  have hnames {name : List Char} (hname : name ∈ renderNames) :
      ∃ c r, name = c :: r ∧ Text.isBlank c = false := by
    simp only [renderNames, List.mem_cons, List.not_mem_nil, or_false] at hname
    rcases hname with rfl | rfl <;> exact ⟨_, _, rfl, by decide⟩
  constructor
  · rintro ⟨word, hword, name, hname, more, h⟩
    rw [text, List.append_assoc] at h
    have hline := List.append_cancel_left h
    obtain ⟨blank, gap, hgap⟩ := List.exists_cons_of_ne_nil e.gap_ne_nil
    obtain ⟨c, r, rfl, hc⟩ := hnames hname
    obtain ⟨c', r', hname', hc'⟩ := hnames e.name_mem
    have hblank : ∀ c ∈ blank :: gap, Text.isBlank c = true := hgap ▸ e.gap_blank
    rw [hgap, hname', List.append_assoc] at hline
    obtain ⟨-, rfl, hbehind⟩ := Import.eq_of_append_stop_eq (List.all_eq_true.1 (hwords word hword))
      (List.all_eq_true.1 (hwords e.word e.word_mem)) (by decide) (by simp [hblank blank]) hline
    have hrun := Import.eq_of_append_stop_eq (x := []) nofun
      (fun c hc => hblank c (List.mem_cons_of_mem _ hc)) hc hc' hbehind
    rw [hgap, ← hrun.1]
  · intro hgap
    exact ⟨e.word, e.word_mem, e.name, e.name_mem, e.rest, by simp [text, hgap]⟩

end RenderEntry

/-- The lines behind the first one are looked through, and only a line that is spelled with one space
and has none before it that opens a render function is inlined. -/
theorem inlineRender_lines_iff (target : Target) (entry : RenderEntry)
    {passed after : List (List Char)} (hlines : ∀ line ∈ passed, '\n' ∉ line)
    (hentry : '\n' ∉ entry.text) :
    inlineRender target.renderName.toList ((passed ++ entry.text :: after).flatMap ('\n' :: ·)) =
        (passed ++ entry.inlined target :: after).flatMap ('\n' :: ·) ↔
      entry.gap = [' '] ∧ ∀ line ∈ passed, ¬ OpensRender line := by
  induction passed with
  | nil =>
    rw [List.nil_append, List.nil_append, and_iff_left (List.forall_mem_nil _)]
    by_cases hgap : entry.gap = [' ']
    · refine iff_of_true ?_ hgap
      have htakes := inlineRender_takes target.renderName.toList entry.word_mem
        entry.name_mem (entry.rest ++ after.flatMap ('\n' :: ·))
      simpa [RenderEntry.text, RenderEntry.inlined, hgap] using htakes
    · refine iff_of_false (fun h => ?_) hgap
      rw [inlineRender_passes hentry (mt entry.opensRender_text_iff.1 hgap)] at h
      simp only [RenderEntry.text, RenderEntry.inlined, List.flatMap_cons, List.cons_append,
        List.append_assoc] at h
      exact word_append_ne entry.word_mem _ _ (List.cons.inj h).2.symm
  | cons line passed ih =>
    obtain ⟨hline, hlines⟩ := List.forall_mem_cons.1 hlines
    rw [List.forall_mem_cons, List.cons_append, List.cons_append]
    by_cases hopens : OpensRender line
    · refine iff_of_false (fun h => ?_) fun h => h.2.1 hopens
      obtain ⟨word, hword, name, hname, more, rfl⟩ := hopens
      have htakes := inlineRender_takes target.renderName.toList hword hname
        (more ++ (passed ++ entry.text :: after).flatMap ('\n' :: ·))
      simp only [List.flatMap_cons, List.append_assoc, List.cons_append] at h htakes
      rw [htakes] at h
      exact word_append_ne hword _ _ (List.cons.inj h).2
    · rw [inlineRender_passes hline hopens, List.flatMap_cons, List.append_cancel_left_eq,
        ih hlines, and_iff_right hopens]

/-- The code of a template stage: a render function and what attaches it to the component. -/
def attached (target : Target) (code : List Char) : String :=
  "\n" ++ String.ofList code ++ "\n" ++ componentName ++ "." ++ target.renderName ++ " = " ++
    target.renderName

theorem attached_inj {target : Target} {code code' : List Char} :
    attached target code = attached target code' ↔ code = code' := by
  unfold attached
  simp [← String.toList_inj]

theorem attachRender_eq_iff (target : Target) (entry : RenderEntry)
    {before after : List (List Char)} (hlines : ∀ line ∈ before ++ entry.text :: after, '\n' ∉ line)
    {code : String} (hcode : code.toList = Text.joinLines (before ++ entry.text :: after)) :
    attachRender target code =
        attached target (Text.joinLines (before ++ entry.inlined target :: after)) ↔
      before ≠ [] ∧ entry.gap = [' '] ∧ ∀ line ∈ before.tail, ¬ OpensRender line := by
  have hrender : attachRender target code =
      attached target (inlineRender target.renderName.toList code.toList) := rfl
  rw [hrender, attached_inj, hcode]
  cases before with
  | nil =>
    have hentry : '\n' ∉ entry.text := hlines _ (List.mem_append_right _ List.mem_cons_self)
    refine iff_of_false (fun h => ?_) fun h => h.1 rfl
    rw [List.nil_append, List.nil_append, Text.joinLines_cons, Text.joinLines_cons,
      inlineRender_line hentry] at h
    simp only [RenderEntry.text, RenderEntry.inlined, List.append_assoc] at h
    exact word_append_ne entry.word_mem _ _ h.symm
  | cons first passed =>
    rw [List.cons_append] at hlines
    obtain ⟨hfirst, hlines⟩ := List.forall_mem_cons.1 hlines
    obtain ⟨hpassed, hrest⟩ := List.forall_mem_append.1 hlines
    rw [List.cons_append, List.cons_append, Text.joinLines_cons, Text.joinLines_cons,
      inlineRender_line hfirst, List.append_cancel_left_eq,
      inlineRender_lines_iff target entry hpassed (hrest _ List.mem_cons_self), List.tail_cons,
      and_iff_right (List.cons_ne_nil first passed)]

/-- The code of a template that compiles has its render function attached before types are stripped.
A line that exports the render function becomes the plain one of the build, and all others stay,
exactly when it is not the first line, has a single space before the name, and no line behind the
first one and before it starts like an export of a render function. -/
theorem compileTemplate_inlines_iff {t : Toolchain} {o : CompileOptions} {d : Descriptor}
    {template : Block} {id : String} {bindings : Option Bindings} {typed : Bool} (target : Target)
    {h : List Call} {compiled : CompiledBlock}
    (hcompiled : t.respond h
      (.compileTemplate (templateRequest o d template id bindings target typed)) = .ok compiled)
    (hgood : compiled.errors = []) (entry : RenderEntry) {before after : List (List Char)}
    (hlines : ∀ line ∈ before ++ entry.text :: after, '\n' ∉ line)
    (hcode : compiled.code.toList = Text.joinLines (before ++ entry.text :: after)) :
    ∃ code : String,
      (compileTemplate t o d template id bindings target typed).run.run h =
        (let h₁ := h ++ [.compileTemplate (templateRequest o d template id bindings target typed)]
        if d.hasTypedPrimary then (Stage.ask t (.stripTypes code)).run.run h₁ else (.ok code, h₁)) ∧
      (code = attached target (Text.joinLines (before ++ entry.inlined target :: after)) ↔
        before ≠ [] ∧ entry.gap = [' '] ∧ ∀ line ∈ before.tail, ¬ OpensRender line) := by
  refine ⟨attachRender target compiled.code, ?_, attachRender_eq_iff target entry hlines hcode⟩
  unfold compileTemplate
  rw [run_bind, run_stageAsk, hcompiled]
  dsimp only [Except.mapError]
  rw [hgood]
  dsimp only
  split <;> rfl

/-- Services that compile every template to a module of these lines. -/
def renderServices (lines : List (List Char)) : ToolchainScript :=
  { parse := .ok { descriptor := { filename := "App.vue" } }
    script := fun _ => .ok { content := "" }
    template := fun _ => .ok { code := String.ofList (Text.joinLines lines) } }

def renderStage (lines : List (List Char)) (target : Target) : Stage String :=
  compileTemplate (renderServices lines).toolchain {} { filename := "App.vue" } {} "a1" none target
    false

def ssrEntry : RenderEntry where
  word := "const".toList
  gap := [' ']
  name := "ssrRender".toList
  rest := " = () => renderItem".toList
  word_mem := by decide
  gap_ne_nil := by decide
  gap_blank := List.forall_mem_singleton.2 (by decide)
  name_mem := by decide

/-- A helper behind the entry keeps its export, though its name starts like that of the entry. -/
theorem compileTemplate_inlines_iff_helperBehind :
    let top := "import item from 'a'".toList
    let helper := "export const renderItem = item".toList
    ((renderStage [top, ssrEntry.text, helper] .client).run.run []).1.toOption =
      some ("\nimport item from 'a'\nconst render = () => renderItem\n" ++
        "export const renderItem = item\n__sfc__.render = render") := by
  intro top helper
  obtain ⟨code, hrun, hiff⟩ := @compileTemplate_inlines_iff
    (renderServices [top, ssrEntry.text, helper]).toolchain {} { filename := "App.vue" } {} "a1" none
    false .client [] ⟨_, []⟩ rfl rfl ssrEntry [top] [helper] (by decide) String.toList_ofList
  have hcode := hiff.2 ⟨by simp, rfl, by simp⟩
  rw [renderStage, hrun, hcode]
  decide

/-- An entry in the first line keeps its export, and a helper before the entry loses its own in the
place of the entry. -/
theorem renderStage_keeps_export :
    let top := "import item from 'a'".toList
    let helper := "export const renderItem = item".toList
    ((renderStage [ssrEntry.text] .ssr).run.run []).1.toOption =
        some (attached .ssr ssrEntry.text) ∧
      ssrEntry.text ≠ ssrEntry.inlined .ssr ∧
      ((renderStage [top, helper, ssrEntry.text] .ssr).run.run []).1.toOption =
        some (attached .ssr
          (Text.joinLines [top, "const ssrRenderItem = item".toList, ssrEntry.text])) := by
  decide +kernel

end Playground
