import Playground.Proofs.Compile.Assembly
import Playground.Proofs.Json.Escape

namespace Playground

namespace Json

theorem head?_escapePoint_iff {n : Nat} : (escapePoint n).head? = some '/' ↔ n = 0x2F := by
  constructor
  · intro h
    exact mem_escapePoint (by decide) (List.mem_of_mem_head? h)
  · rintro rfl
    rfl

theorem head?_flatMap_escapePoint_iff {ns : List Nat} :
    (ns.flatMap escapePoint).head? = some '/' ↔ ns.head? = some 0x2F := by
  cases ns with
  | nil => simp
  | cons n ns =>
    rw [List.flatMap_cons, List.head?_append_of_ne_nil _ (escapePoint_ne_nil n),
      head?_escapePoint_iff, List.head?_cons, Option.some.injEq]

theorem noPair_flatMap_escapePoint {ns : List Nat} :
    NoPair '*' '/' (ns.flatMap escapePoint) ↔ NoPair 0x2A 0x2F ns := by
  induction ns with
  | nil => simp
  | cons n ns ih =>
    rw [List.flatMap_cons]
    by_cases hn : n = 0x2A
    · subst hn
      have hstar : escapePoint 0x2A = ['*'] := rfl
      rw [hstar, List.singleton_append, noPair_cons, noPair_cons, ih, head?_flatMap_escapePoint_iff]
      simp only [true_and]
    · have hstar : '*' ∉ escapePoint n := fun h => hn (mem_escapePoint (by decide) h)
      rw [noPair_append_of_not_mem hstar, noPair_cons_of_ne hn, ih]

theorem noPair_literalChars {s : List Char} :
    NoPair '*' '/' (literalChars s) ↔ NoPair 0x2A 0x2F (Text.points s) := by
  rw [literalChars, List.cons_append, noPair_cons_of_ne (by decide),
    noPair_append_cons (by decide) (by decide), noPair_flatMap_escapePoint]
  exact and_iff_left noPair_nil

/-- In a map of texts that is written down, the end of a comment stands where a text holds it. -/
theorem noPair_renderTexts {entries : List (String × String)} (hne : entries ≠ []) :
    NoPair '*' '/' (renderTexts entries).toList ↔
      ∀ p ∈ entries, NoPair 0x2A 0x2F (Text.points p.1.toList) ∧
        NoPair 0x2A 0x2F (Text.points p.2.toList) := by
  have hline : ∀ p : String × String,
      NoPair '*' '/' ("  " ++ literal p.1 ++ ": " ++ literal p.2).toList ↔
        NoPair 0x2A 0x2F (Text.points p.1.toList) ∧
          NoPair 0x2A 0x2F (Text.points p.2.toList) := by
    intro p
    have hchars : ("  " ++ literal p.1 ++ ": " ++ literal p.2).toList =
        ' ' :: ' ' :: (literalChars p.1.toList ++ ':' :: ' ' :: literalChars p.2.toList) := by
      simp [literal]
    rw [hchars, noPair_cons_of_ne (by decide), noPair_cons_of_ne (by decide),
      noPair_append_cons (by decide) (by decide), noPair_cons_of_ne (by decide),
      noPair_literalChars, noPair_literalChars]
  have hchars : (renderTexts entries).toList =
      '\x7b' :: '\n' :: ([',', '\n'].intercalate
        (entries.map fun p => ("  " ++ literal p.1 ++ ": " ++ literal p.2).toList) ++
          '\n' :: ['\x7d']) := by
    have hempty : entries.isEmpty = false := by simpa using hne
    rw [renderTexts, hempty]
    simp [String.toList_intercalate, Function.comp_def]
  rw [hchars, noPair_cons_of_ne (by decide), noPair_cons_of_ne (by decide),
    noPair_append_cons (by decide) (by decide),
    noPair_intercalate (by decide) (by decide) (by decide), List.forall_mem_map]
  have hend : NoPair '*' '/' ['\x7d'] := (noPair_cons_of_ne (by decide)).2 noPair_nil
  exact (and_iff_left hend).trans (forall₂_congr fun p _ => hline p)

end Json

/-- The first end of a comment in a note and the text behind it is the one that the note ends
with. -/
def ClosesItself (note rest : String) : Prop :=
  ∃ before, note.toList = before ++ ['*', '/'] ∧
    cutAtWord ['*', '/'] (note ++ rest).toList = some (before, rest.toList)

/-- Whether a text, code point by code point, holds the end of a comment. -/
def HoldsCommentEnd (s : String) : Prop := [0x2A, 0x2F] <:+: Text.points s.toList

instance (s : String) : Decidable (HoldsCommentEnd s) :=
  inferInstanceAs (Decidable ([0x2A, 0x2F] <:+: Text.points s.toList))

theorem closesItself_iff {start text rest : String} (hstart : NoPair '*' '/' start.toList) :
    ClosesItself (start ++ " " ++ text ++ " */") rest ↔ NoPair '*' '/' text.toList := by
  have hnote : (start ++ " " ++ text ++ " */").toList =
      (start.toList ++ ' ' :: (text.toList ++ [' '])) ++ ['*', '/'] := by
    simp
  have hclean : NoPair '*' '/' (start.toList ++ ' ' :: (text.toList ++ [' '])) ↔
      NoPair '*' '/' text.toList := by
    rw [noPair_append_cons (by decide) (by decide), noPair_append_cons (by decide) (by decide),
      and_iff_right hstart]
    exact and_iff_left noPair_nil
  have hall : (start ++ " " ++ text ++ " */" ++ rest).toList =
      (start.toList ++ ' ' :: (text.toList ++ [' '])) ++ '*' :: '/' :: rest.toList := by
    rw [String.toList_append, hnote, List.append_assoc]
    rfl
  unfold ClosesItself
  rw [← hclean, ← cutAtWord_pair (by decide : '*' ≠ '/') _ rest.toList, hall, hnote]
  constructor
  · rintro ⟨before, hbefore, hfirst⟩
    obtain rfl := List.append_cancel_right hbefore
    exact hfirst
  · exact fun hfirst => ⟨_, rfl, hfirst⟩

theorem Variant.closesItself_degradedNote_iff (error rest : String) :
    ClosesItself (degradedNote error) rest ↔ ¬ ['*', '/'] <:+: Text.firstLine error.toList := by
  have hnote : degradedNote error =
      "/* SSR compile error:" ++ " " ++ String.ofList (Text.firstLine error.toList) ++ " */" := rfl
  rw [hnote, closesItself_iff (noPair_iff.2 (by decide)), noPair_iff, String.toList_ofList]

theorem ScriptCode.closesItself_bindingsNote_iff (p : String × String) (bindings : Bindings)
    (rest : String) :
    ClosesItself (bindingsNote (some (p :: bindings))) rest ↔
      ∀ q ∈ p :: bindings, ¬ HoldsCommentEnd q.1 ∧ ¬ HoldsCommentEnd q.2 := by
  have hnote : bindingsNote (some (p :: bindings)) =
      "\n/* Analyzed bindings:" ++ " " ++ Json.renderTexts (p :: bindings) ++ " */" := rfl
  rw [hnote, closesItself_iff (noPair_iff.2 (by decide)),
    Json.noPair_renderTexts (List.cons_ne_nil p bindings)]
  exact forall₂_congr fun q _ => and_congr noPair_iff noPair_iff

theorem Text.toList_around (start stop : String) (text : List Char) :
    (start ++ String.ofList text ++ stop).toList = start.toList ++ text ++ stop.toList := by
  rw [String.toList_append, String.toList_append, String.toList_ofList]

theorem Variant.toList_degradedNote (error : String) :
    (degradedNote error).toList =
      "/* SSR compile error: ".toList ++ Text.firstLine error.toList ++ " */".toList :=
  Text.toList_around _ _ _

theorem Text.any_firstLine (s : List Char) : (Text.firstLine s).any Text.isLineEnd = false := by
  unfold Text.firstLine
  cases hlines : Text.lines s with
  | nil => rfl
  | cons line lines =>
    rw [List.any_eq_false]
    intro c hc
    exact Bool.eq_false_iff.1 (Text.lines_not_end (hlines ▸ List.mem_cons_self) c hc)

/-- The note of a failure is on one line. -/
theorem Variant.degradedNote_no_lineEnd (error : String) :
    ∀ c ∈ (degradedNote error).toList, Text.isLineEnd c = false := by
  have hstart : "/* SSR compile error: ".toList.any Text.isLineEnd = false := by decide
  have hend : " */".toList.any Text.isLineEnd = false := by decide
  have hnote : (degradedNote error).toList.any Text.isLineEnd = false := by
    rw [toList_degradedNote, List.any_append, List.any_append, hstart, Text.any_firstLine, hend]
    rfl
  intro c hc
  exact Bool.eq_false_iff.2 (List.any_eq_false.1 hnote c hc)

theorem Variant.code_foldl_append (fragments : List String) (v : Variant) :
    (fragments.foldl (fun v code => v.append code) v).code = v.code ++ String.join fragments := by
  induction fragments generalizing v with
  | nil => simp
  | cons code fragments ih =>
    rw [List.foldl_cons, ih, Variant.code_append, String.append_assoc, String.join_cons]

/-- What a pipeline writes into its comments stays in them as long as it does not hold the end of a
comment itself: the note of a failure is one line that closes itself if the first line of the error
holds none, and that of the bindings closes itself if no name and no kind holds one. -/
theorem notes_closeThemselves_iff (v : Variant) (error : String) (fragments : List String)
    (p : String × String) (bindings : Bindings) (rest : String) :
    let note := Variant.degradedNote error
    let code := (fragments.foldl (fun v code => v.append code) (v.degrade error)).code
    (code = note ++ String.join fragments ∧ "/* SSR compile error: ".toList <+: note.toList ∧
      (∀ c ∈ note.toList, Text.isLineEnd c = false) ∧
      (ClosesItself note (String.join fragments) ↔
        ¬ ['*', '/'] <:+: Text.firstLine error.toList)) ∧
    (ClosesItself (ScriptCode.bindingsNote (some (p :: bindings))) rest ↔
      ∀ q ∈ p :: bindings, ¬ HoldsCommentEnd q.1 ∧ ¬ HoldsCommentEnd q.2) := by
  intro note code
  have hcode : code = note ++ String.join fragments := by
    have happended := Variant.code_foldl_append fragments (v.degrade error)
    rw [Variant.code_degrade] at happended
    exact happended
  have hstart : "/* SSR compile error: ".toList <+: note.toList := by
    have hnote : note.toList = _ := Variant.toList_degradedNote error
    rw [hnote, List.append_assoc]
    exact List.prefix_append _ _
  exact ⟨⟨hcode, hstart, Variant.degradedNote_no_lineEnd error,
    Variant.closesItself_degradedNote_iff error _⟩,
    ScriptCode.closesItself_bindingsNote_iff p bindings rest⟩

/-- Services that put the end of a comment into a name and into a failure. -/
def endingComments : Compiler :=
  let services : ToolchainScript :=
    { parse := .ok { descriptor := { filename := "", scriptSetup := some {} } }
      script := fun ssr =>
        if ssr then .error { kind := "ValueError", argument := some "unexpected */" }
        else .ok { content := "a", bindings := some [("a*/b", "setup-const")] }
      template := fun _ => .ok { code := "" }
      ids := { fixed := some "a1" } }
  { toolchain := services.toolchain }

/-- The note in the module for the server does not close itself, and neither does the one in the
code of the script for the client. -/
theorem notes_leftOpen_endingComments :
    let file : VirtualFile := ⟨"App.vue", "<script setup>", {}⟩
    let compiled := (file.after ((endingComments.compileFile file).run []).1).compiled
    let failure := Variant.degradedNote "ValueError: unexpected */"
    let named := "\n__sfc__.__file = \"App.vue\"\nexport default __sfc__"
    let d : Descriptor := { filename := "App.vue", scriptSetup := some {} }
    let bound := [("a*/b", "setup-const")]
    let note := ScriptCode.bindingsNote (some bound)
    (compiled.ssr = failure ++ named ∧ ¬ ClosesItself failure named) ∧
      ((compileScript endingComments.toolchain {} d "a1" .client false).run.run []).1 =
        .ok ⟨note ++ "\n" ++ "a", some bound⟩ ∧
      ¬ ClosesItself note ("\n" ++ "a") := by
  intro file compiled failure named d bound note
  refine ⟨⟨by decide +kernel, fun h => ?_⟩, by decide +kernel, fun h => ?_⟩
  · exact (Variant.closesItself_degradedNote_iff _ _).1 h (by decide)
  · exact ((ScriptCode.closesItself_bindingsNote_iff _ _ _).1 h _ List.mem_cons_self).1 (by decide)

end Playground
