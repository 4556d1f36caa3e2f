import Mathlib.Data.List.TakeWhile
import Playground.Proofs.Compile.Precedence
import Playground.Proofs.Compile.Requests
import Playground.Toolchain.Miniature

namespace Playground

namespace Text

theorem trim_append_of_blank {blank : List Char} (hblank : ∀ c ∈ blank, isBlank c = true)
    (s : List Char) : trim (s ++ blank) = trim s := by
  have hend (r : List Char) : trimEnd (r ++ blank) = trimEnd r := by
    unfold trimEnd
    rw [List.reverse_append,
      List.dropWhile_append_of_pos fun c hc => hblank c (List.mem_reverse.1 hc)]
  have hstart : trimStart (s ++ blank) =
      if (trimStart s).isEmpty then trimStart blank else trimStart s ++ blank :=
    List.dropWhile_append
  unfold trim
  rw [hstart]
  split
  · next hall =>
    rw [List.isEmpty_iff.1 hall, trimStart_eq_nil_iff.2 (List.all_eq_true.2 hblank)]
  · exact hend _

theorem join_lines {codes : List String} (hcodes : codes ≠ []) :
    String.join (codes.map (· ++ "\n")) = "\n".intercalate codes ++ "\n" := by
  induction codes with
  | nil => exact absurd rfl hcodes
  | cons code codes ih =>
    cases codes with
    | nil => simp
    | cons next codes =>
      rw [List.map_cons, String.join_cons, ih (List.cons_ne_nil next codes),
        String.intercalate_cons_cons, String.append_assoc, String.append_assoc, String.append_assoc]

/-- It does not matter for a trimmed text whether its last line has an end. -/
theorem strip_join_lines (codes : List String) :
    strip (String.join (codes.map (· ++ "\n"))) = strip ("\n".intercalate codes) := by
  by_cases hcodes : codes = []
  · rw [hcodes]
    simp
  · have hend : ∀ c ∈ "\n".toList, isBlank c = true := by
      intro c hc
      obtain rfl : c = '\n' := by simpa using hc
      decide
    unfold strip
    rw [join_lines hcodes, String.toList_append, trim_append_of_blank hend]

end Text

/-- What the style service answers to blocks that it is asked for one after the other. -/
def styleAnswers (t : Toolchain) (o : CompileOptions) (d : Descriptor) (id : String)
    (h : List Call) (styles : List StyleBlock) : List (Except Failure CompiledBlock) :=
  styles.mapIdx fun n style =>
    t.respond (h ++ (styles.take n).map fun s => .compileStyle (styleRequest o d id s))
      (.compileStyle (styleRequest o d id style))

/-- The code of a block that the service has nothing to say against. -/
def goodCode? : Except Failure CompiledBlock → Option String
  | .ok ⟨code, []⟩ => some code
  | _ => none

/-- The messages of a block are shown unless the first of them is about what the host lacks. -/
def isShown (messages : List String) : Bool :=
  messages.head?.all fun m => !Text.contains ignoredMark m

/-- The sheet that the answers to all blocks make up. -/
def StyleSheet.ofAnswers (answers : List (Except Failure CompiledBlock)) : StyleSheet :=
  let css := Text.strip ("\n".intercalate (answers.filterMap goodCode?))
  { css := if css = "" then noStyles else css
    errors := ((answers.map styleMessages).filter isShown).flatten }

/-- The codes of the good blocks, each with a line end, and the messages that are shown of the
others. -/
def styleParts (answers : List (Except Failure CompiledBlock)) : List String × List String :=
  ((answers.filterMap goodCode?).map (· ++ "\n"),
    ((answers.map styleMessages).filter isShown).flatten)

theorem reportedMessages_eq (messages : List String) :
    reportedMessages messages = if isShown messages then messages else [] := by
  cases messages with
  | nil => rfl
  | cons m ms => cases hm : Text.contains ignoredMark m <;> simp [reportedMessages, isShown, hm]

/-- Each answer adds its own code or its own messages, whatever the others are. -/
theorem styleParts_cons (answer : Except Failure CompiledBlock)
    (answers : List (Except Failure CompiledBlock)) :
    styleParts (answer :: answers) = match styleMessages answer, answer with
      | [], .ok compiled =>
        ((compiled.code ++ "\n") :: (styleParts answers).1, (styleParts answers).2)
      | messages, _ =>
        ((styleParts answers).1, reportedMessages messages ++ (styleParts answers).2) := by
  rcases answer with f | ⟨code, _ | ⟨e, es⟩⟩
  · simp only [styleParts, styleMessages, goodCode?, reportedMessages_eq, List.filterMap_cons,
      List.map_cons, List.filter_cons]
    split <;> rfl
  · rfl
  · simp only [styleParts, styleMessages, goodCode?, reportedMessages_eq, List.filterMap_cons,
      List.map_cons, List.filter_cons]
    split <;> rfl

theorem goodCode?_isSome_iff {answer : Except Failure CompiledBlock} :
    (goodCode? answer).isSome = true ↔ styleMessages answer = [] := by
  rcases answer with f | ⟨code, _ | ⟨e, es⟩⟩ <;> simp [goodCode?, styleMessages]

section Blocks

variable {t : Toolchain} {o : CompileOptions} {d : Descriptor} {id : String}

theorem styleAnswers_cons (style : StyleBlock) (styles : List StyleBlock) (h : List Call) :
    styleAnswers t o d id h (style :: styles) =
      t.respond h (.compileStyle (styleRequest o d id style)) ::
        styleAnswers t o d id (h ++ [.compileStyle (styleRequest o d id style)]) styles := by
  simp [styleAnswers, List.mapIdx_cons]

theorem run_compileStyleBlocks {styles : List StyleBlock}
    (hplain : ∀ s ∈ styles, s.cssModule.isOn = false) (h : List Call) :
    ((compileStyleBlocks t o d id styles).run.run h).1 =
      .ok (styleParts (styleAnswers t o d id h styles)) := by
  induction styles generalizing h with
  | nil => rfl
  | cons style styles ih =>
    obtain ⟨hstyle, hplain⟩ := List.forall_mem_cons.1 hplain
    have hrest := ih hplain (h ++ [.compileStyle (styleRequest o d id style)])
    rw [styleAnswers_cons, styleParts_cons]
    simp only [compileStyleBlocks, hstyle, Bool.false_eq_true, if_false]
    rw [run_lift_bind, run_ask, run_bind]
    dsimp only
    rcases hrun : (compileStyleBlocks t o d id styles).run.run
      (h ++ [.compileStyle (styleRequest o d id style)]) with ⟨result, h'⟩
    rw [hrun] at hrest
    obtain rfl := hrest
    rw [hrun]
    rfl

theorem run_compileStyles (hplain : ∀ s ∈ d.styles, s.cssModule.isOn = false) (h : List Call) :
    (compileStyles t o d id).run.run h =
      (.ok (.ofAnswers (styleAnswers t o d id h d.styles)),
        h ++ d.styles.map fun s => .compileStyle (styleRequest o d id s)) := by
  have hall : (d.styles.takeWhile fun s => !s.cssModule.isOn) = d.styles :=
    List.takeWhile_eq_self_iff.2 fun s hs => by rw [hplain s hs]; rfl
  refine Prod.ext ?_ (by rw [history_compileStyles, hall])
  have hblocks : ((compileStyleBlocks t o d id d.styles).run.run h).1 =
      .ok (styleParts (styleAnswers t o d id h d.styles)) := run_compileStyleBlocks hplain h
  unfold compileStyles
  rw [run_bind]
  rcases hrun : (compileStyleBlocks t o d id d.styles).run.run h with ⟨result, h'⟩
  rw [hrun] at hblocks
  obtain rfl := hblocks
  dsimp only [styleParts]
  rw [Text.strip_join_lines]
  simp only [String.isEmpty_iff]
  rfl

/-- A service whose answers depend on the block alone gives each block its answer. -/
theorem styleAnswers_eq_map {answer : StyleBlock → Except Failure CompiledBlock}
    {styles : List StyleBlock}
    (hown : ∀ s ∈ styles, ∀ h, t.respond h (.compileStyle (styleRequest o d id s)) = answer s)
    (h : List Call) : styleAnswers t o d id h styles = styles.map answer := by
  induction styles generalizing h with
  | nil => rfl
  | cons style styles ih =>
    obtain ⟨hstyle, hown⟩ := List.forall_mem_cons.1 hown
    rw [styleAnswers_cons, hstyle h, ih hown, List.map_cons]

end Blocks

/-- Without the answers that have messages the sheet holds the same css and no errors. -/
theorem ofAnswers_filter (answers : List (Except Failure CompiledBlock)) :
    StyleSheet.ofAnswers (answers.filter fun a => (goodCode? a).isSome) =
      ⟨(StyleSheet.ofAnswers answers).css, []⟩ := by
  have hcodes : (answers.filter fun a => (goodCode? a).isSome).filterMap goodCode? =
      answers.filterMap goodCode? := by
    rw [List.filterMap_filter]
    refine congrArg (answers.filterMap ·) (funext fun a => ?_)
    cases goodCode? a <;> rfl
  have herrors : (((answers.filter fun a => (goodCode? a).isSome).map styleMessages).filter
      isShown).flatten = [] := by
    refine List.flatten_eq_nil_iff.2 fun messages hmessages => ?_
    obtain ⟨a, ha, rfl⟩ := List.mem_map.1 (List.mem_filter.1 hmessages).1
    exact goodCode?_isSome_iff.1 (List.mem_filter.1 ha).2
  unfold StyleSheet.ofAnswers
  rw [hcodes, herrors]

/-- The style stage stops at the first module, having asked for the blocks before it, and is stopped
by nothing else. Without a module it asks for every block in its order, and the sheet holds the codes
of the blocks that pass and the messages of the others. If the service judges each block for itself,
the same css comes out without the blocks that fail, and no errors. -/
theorem compileStyles_aggregates (t : Toolchain) (o : CompileOptions) (d : Descriptor) (id : String)
    (h : List Call) :
    let run := (compileStyles t o d id).run.run h
    let answers := styleAnswers t o d id h d.styles
    run.2 = h ++ (d.styles.takeWhile fun s => !s.cssModule.isOn).map
      (fun s => .compileStyle (styleRequest o d id s)) ∧
    (run.1 = .error (.reported .found) ↔ ∃ s ∈ d.styles, s.cssModule.isOn = true) ∧
    ((∀ s ∈ d.styles, s.cssModule.isOn = false) →
      run = (.ok (.ofAnswers answers),
        h ++ d.styles.map fun s => .compileStyle (styleRequest o d id s)) ∧
      ∀ answer : StyleBlock → Except Failure CompiledBlock,
        (∀ s ∈ d.styles, ∀ h', t.respond h' (.compileStyle (styleRequest o d id s)) = answer s) →
        let passing := d.styles.filter fun s => (goodCode? (answer s)).isSome
        ∀ h', ((compileStyles t o { d with styles := passing } id).run.run h').1 =
          .ok ⟨(StyleSheet.ofAnswers answers).css, []⟩) := by
  intro run answers
  refine ⟨history_compileStyles h, ?_, fun hplain => ⟨run_compileStyles hplain h, ?_⟩⟩
  · have hfault : fault? (compileStyles t o d id) h =
        if d.styles.any (·.cssModule.isOn) then some .found else none := by
      unfold compileStyles
      rw [fault?_bind_of_none fun _ _ => rfl, Compiler.fault?_compileStyleBlocks]
    rw [← fault?_eq_some_iff, hfault]
    simp
  · intro answer hown passing h'
    have hsome : ∀ s ∈ passing, s ∈ d.styles := fun s hs => (List.mem_filter.1 hs).1
    rw [run_compileStyles (d := { d with styles := passing })
      (fun s hs => hplain s (hsome s hs)) h']
    have hanswers : answers = d.styles.map answer := styleAnswers_eq_map hown h
    have hpassing : styleAnswers t o { d with styles := passing } id h' passing =
        answers.filter fun a => (goodCode? a).isSome := by
      rw [hanswers, List.filter_map]
      exact styleAnswers_eq_map (fun s hs => hown s (hsome s hs)) h'
    dsimp only
    rw [hpassing, ofAnswers_filter]

/-- Two blocks that pass, and between them one that the service finds fault with, one that it cannot
compile on its host, and one that it breaks on. -/
def mixedStyles : Descriptor :=
  { filename := "App.vue"
    styles := [{ content := "p" }, { content := "broken" }, { content := "url" },
      { content := "explode" }, { content := "q" }] }

theorem compileStyles_aggregates_mixedStyles :
    let t := ({ broken := some .style } : Miniature).toolchain
    let answer (s : StyleBlock) := t.respond [] (.compileStyle (styleRequest {} mixedStyles "a1" s))
    let passing := mixedStyles.styles.filter fun s => (goodCode? (answer s)).isSome
    (∀ s ∈ mixedStyles.styles, s.cssModule.isOn = false) ∧
      (∀ s ∈ mixedStyles.styles, ∀ h,
        t.respond h (.compileStyle (styleRequest {} mixedStyles "a1" s)) = answer s) ∧
      ((compileStyles t {} mixedStyles "a1").run.run []).1 =
        .ok ⟨"p\nq", ["Unexpected token", "RuntimeError: style compiler crashed"]⟩ ∧
      ((compileStyles t {} { mixedStyles with styles := passing } "a1").run.run []).1 =
        .ok ⟨"p\nq", []⟩ := by
  intro t answer passing
  have hplain : ∀ s ∈ mixedStyles.styles, s.cssModule.isOn = false := by decide
  have hown : ∀ s ∈ mixedStyles.styles, ∀ h,
      t.respond h (.compileStyle (styleRequest {} mixedStyles "a1" s)) = answer s :=
    fun _ _ _ => rfl
  have hsheet : StyleSheet.ofAnswers (styleAnswers t {} mixedStyles "a1" [] mixedStyles.styles) =
      ⟨"p\nq", ["Unexpected token", "RuntimeError: style compiler crashed"]⟩ := by decide +kernel
  obtain ⟨hrun, hpassing⟩ := (compileStyles_aggregates t {} mixedStyles "a1" []).2.2 hplain
  refine ⟨hplain, hown, ?_, ?_⟩
  · rw [hrun, hsheet]
  · have hkept := hpassing answer hown []
    rwa [hsheet] at hkept

end Playground
