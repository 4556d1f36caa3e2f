import Playground.Proofs.Compile.Conduct
import Playground.Proofs.Compile.Contained
import Playground.Proofs.Compile.StyleAggregation
import Playground.Proofs.Compile.Suffixes
import Playground.Proofs.Compile.Trace

namespace Playground

/-- The errors that an answer reports instead of raising them. -/
def Call.reported : (call : Call) → call.Answer → List Diagnostic
  | .parse .., parsed => parsed.errors
  | .compileTemplate _, compiled => compiled.errors
  | .compileStyle _, compiled => compiled.errors
  | _, _ => []

/-- What an answer has against the code: the trace of what it raised, or the texts of what it
reports. -/
def Call.messages (seen : Failure → Failure) (call : Call) :
    Except Failure call.Answer → List String
  | .error f => [(seen f).trace]
  | .ok answer => (call.reported answer).map (·.text)

/-- A call whose answer has something against the code, with its messages. -/
abbrev Telling := Call × List String

/-- What the answers to these calls have against the code, after a history. -/
def Toolchain.told (t : Toolchain) (seen : Failure → Failure) (h : List Call) :
    List Call → List Telling
  | [] => []
  | call :: calls =>
    let messages := call.messages seen (t.respond h call)
    (if messages = [] then [] else [(call, messages)]) ++ t.told seen (h ++ [call]) calls

/-- What a compile reports as errors of its styles. -/
def styleErrors (told : List Telling) : List String :=
  (((told.filter fun telling => telling.1.isStyle).map (·.2)).filter isShown).flatten

/-- What a compile reports as warnings: of each stage that failed the first message. -/
def firstMessages (told : List Telling) : List String :=
  (told.filter fun telling => !telling.1.isStyle).map fun telling => telling.2.headD ""

/-- What a compile itself has against a component. -/
def ownMessages : List String :=
  [LanguageFault.preprocessor.message, LanguageFault.scriptLanguage.message, styleModuleMessage]

section Told

variable (t : Toolchain) (seen : Failure → Failure) (h : List Call)

theorem told_append (first rest : List Call) :
    t.told seen h (first ++ rest) = t.told seen h first ++ t.told seen (h ++ first) rest := by
  induction first generalizing h with
  | nil => rw [List.nil_append, List.append_nil]; rfl
  | cons call calls ih =>
    rw [List.cons_append, Toolchain.told, ih, Toolchain.told, List.append_assoc h,
      List.append_assoc]
    rfl

theorem told_singleton (call : Call) : t.told seen h [call] =
    if call.messages seen (t.respond h call) = [] then []
    else [(call, call.messages seen (t.respond h call))] := by
  rw [Toolchain.told, Toolchain.told, List.append_nil]

theorem styleErrors_append (first rest : List Telling) :
    styleErrors (first ++ rest) = styleErrors first ++ styleErrors rest := by
  simp [styleErrors]

theorem firstMessages_append (first rest : List Telling) :
    firstMessages (first ++ rest) = firstMessages first ++ firstMessages rest := by
  simp [firstMessages]

end Told

/-- What is said by that which stops a part of a compile. -/
def Halt.said {ε : Type} (say : ε → List String) : Halt ε → List String
  | .reported errors => say errors
  | .raised failure => [failure.trace]

/-- A run that is stopped by an answer and by nothing else: up to there no answer has anything
against the code. -/
def Tells (t : Toolchain) (seen : Failure → Failure) {ε α : Type} (say : ε → List String)
    (x : ExceptT ε Session α) (h : List Call) : Prop :=
  ∃ calls, (x.run.run h).2 = h ++ calls ∧
    match (x.run.run h).1 with
    | .ok _ => t.told seen h calls = []
    | .error e => ∃ call, call.isStyle = false ∧ t.told seen h calls = [(call, say e)]

namespace Tells

variable {t : Toolchain} {seen : Failure → Failure} {ε α β : Type} {say : ε → List String}
  {h : List Call}

theorem pure (a : α) : Tells t seen say (Pure.pure a : ExceptT ε Session α) h :=
  ⟨[], (List.append_nil h).symm, rfl⟩

theorem bind {x : ExceptT ε Session α} {f : α → ExceptT ε Session β} (hx : Tells t seen say x h)
    (hf : ∀ a h₁, x.run.run h = (.ok a, h₁) → Tells t seen say (f a) h₁) :
    Tells t seen say (x >>= f) h := by
  obtain ⟨calls, hcalls, htold⟩ := hx
  unfold Tells
  rw [run_bind]
  rcases hr : x.run.run h with ⟨e | a, h₁⟩
  · rw [hr] at hcalls htold
    exact ⟨calls, hcalls, htold⟩
  · rw [hr] at hcalls htold
    obtain ⟨calls', hcalls', htold'⟩ := hf a h₁ hr
    obtain rfl : h₁ = h ++ calls := hcalls
    refine ⟨calls ++ calls', by rw [← List.append_assoc]; exact hcalls', ?_⟩
    have hnone : t.told seen h calls = [] := htold
    rw [told_append, hnone, List.nil_append]
    exact htold'

/-- A run of one call. It is stopped exactly if the answer has something against the code. -/
theorem of_run {x : ExceptT ε Session α} (call : Call) (hstyle : call.isStyle = false)
    (hrun : (x.run.run h).2 = h ++ [call])
    (hmessages : match (x.run.run h).1 with
      | .ok _ => call.messages seen (t.respond h call) = []
      | .error e => call.messages seen (t.respond h call) = say e ∧ say e ≠ []) :
    Tells t seen say x h := by
  refine ⟨[call], hrun, ?_⟩
  rw [told_singleton]
  rcases hr : (x.run.run h).1 with e | a
  · rw [hr] at hmessages
    obtain ⟨hsay, hne⟩ := hmessages
    exact ⟨call, hstyle, by rw [hsay, if_neg hne]⟩
  · rw [hr] at hmessages
    exact if_pos hmessages

theorem stageAsk {call : Call} (hstyle : call.isStyle = false)
    (hsilent : ∀ a, t.respond h call = .ok a → call.reported a = []) :
    Tells t id (Halt.said StageErrors.toList) (Stage.ask t call) h := by
  refine of_run call hstyle (by rw [run_stageAsk]) ?_
  rw [run_stageAsk]
  cases hr : t.respond h call with
  | error f => exact ⟨rfl, List.cons_ne_nil _ _⟩
  | ok a => exact congrArg (List.map (·.text)) (hsilent a hr)

theorem demand {call : Call} (hstyle : call.isStyle = false)
    (hsilent : ∀ a, call.reported a = []) :
    Tells t Failure.awaited (fun f => [f.awaited.trace]) (t.demand call) h := by
  refine of_run call hstyle (by rw [run_demand]) ?_
  rw [run_demand]
  cases hr : t.respond h call with
  | error f => exact ⟨rfl, List.cons_ne_nil _ _⟩
  | ok a => exact congrArg (List.map (·.text)) (hsilent a)

section Stages

variable {o : CompileOptions} {d : Descriptor} {scope : String} {target : Target} {typed : Bool}

theorem compileScript (h : List Call) :
    Tells t id (Halt.said StageErrors.toList) (compileScript t o d scope target typed) h := by
  unfold Playground.compileScript
  cases d.primaryScript with
  | none => exact pure _
  | some script =>
    refine bind (stageAsk rfl fun _ _ => rfl) fun compiled h₁ _ => ?_
    refine bind (stageAsk rfl fun _ _ => rfl) fun body h₂ _ => ?_
    dsimp only
    split
    · exact bind (stageAsk rfl fun _ _ => rfl) fun _ _ _ => pure _
    · exact pure _

/-- A template is stopped by what its service raises or reports, or by what stripping raises. -/
theorem compileTemplate (template : Block) (bindings : Option Bindings) (h : List Call) :
    Tells t id (Halt.said StageErrors.toList)
      (compileTemplate t o d template scope bindings target typed) h := by
  let call := Call.compileTemplate (templateRequest o d template scope bindings target typed)
  cases hr : t.respond h call with
  | error f =>
    refine bind (stageAsk rfl fun a ha => ?_) fun a h₁ hrun => ?_
    · rw [hr] at ha
      cases ha
    · rw [run_stageAsk, hr] at hrun
      cases hrun
  | ok compiled =>
    cases herrors : compiled.errors with
    | cons e es =>
      have hrun :
          (Playground.compileTemplate t o d template scope bindings target typed).run.run h =
            (.error (.reported ⟨e.text, es.map (·.text)⟩), h ++ [call]) := by
        unfold Playground.compileTemplate
        rw [run_bind, run_stageAsk, hr]
        simp only [Except.mapError, herrors]
        rfl
      refine of_run call rfl (by rw [hrun]) ?_
      rw [hrun, hr]
      exact ⟨congrArg (List.map Diagnostic.text) herrors, List.cons_ne_nil _ _⟩
    | nil =>
      refine bind (stageAsk rfl fun a ha => ?_) fun a h₁ hrun => ?_
      · rw [hr] at ha
        cases ha
        exact herrors
      · rw [run_stageAsk, hr] at hrun
        cases hrun
        rw [herrors]
        dsimp only
        split
        · exact stageAsk rfl fun _ _ => rfl
        · exact pure _

end Stages

theorem parse (c : Compiler) (filename code : String) (h : List Call) :
    Tells c.toolchain id (Halt.said id) (c.parse filename code) h := by
  have hrun := c.run_parse filename code h
  refine of_run (.parse code filename true) rfl (by rw [hrun]) ?_
  rw [hrun]
  cases c.toolchain.respond h (.parse code filename true) with
  | error f => exact ⟨rfl, List.cons_ne_nil _ _⟩
  | ok parsed =>
    by_cases herrors : parsed.errors = []
    · simp only [herrors, if_true]
      exact congrArg (List.map (·.text)) herrors
    · simp only [herrors, if_false]
      exact ⟨rfl, mt List.map_eq_nil_iff.1 herrors⟩

theorem scriptFile (c : Compiler) (file : VirtualFile) (h : List Call) :
    Tells c.toolchain Failure.awaited (fun f => [f.awaited.trace]) (c.scriptFile file) h := by
  rw [c.scriptFile_eq]
  refine bind ?_ fun code h₁ _ => ?_
  · unfold Compiler.transformedCode
    split
    · refine bind (demand rfl fun _ => rfl) fun wanted h₁ _ => ?_
      split
      · exact demand rfl fun _ => rfl
      · exact pure _
    · exact pure _
  · split
    · exact bind (demand rfl fun _ => rfl) fun _ _ _ => pure _
    · exact bind (pure _) fun _ _ _ => pure _

end Tells

/-- What a part of a component comes to, errors and warnings: what was found before, and what the
answers to its calls have against the code. It is stopped by the last of these answers, or by a
message of its own. -/
inductive Accounted (sofar : List String × List String) (told : List Telling) :
    Except (Halt (List String)) (List String × List String) → Prop
  | ended : Accounted sofar told
      (.ok (sofar.1 ++ styleErrors told, sofar.2 ++ firstMessages told))
  | answered {earlier : List Telling} {call : Call} {errors : List String}
      (htold : told = earlier ++ [(call, errors)]) :
      Accounted sofar told (.error (.reported errors))
  | refused {message : String} (hown : message ∈ ownMessages) :
      Accounted sofar told (.error (.reported [message]))

theorem Accounted.eq_of_ok {sofar found : List String × List String} {told : List Telling}
    (hended : Accounted sofar told (.ok found)) :
    found = (sofar.1 ++ styleErrors told, sofar.2 ++ firstMessages told) := by
  cases hended
  rfl

/-- Parts that run one after the other are accounted for together. -/
theorem Accounted.after {sofar found : List String × List String} {told later : List Telling}
    {result : Except (Halt (List String)) (List String × List String)}
    (hfirst : Accounted sofar told (.ok found)) (hlater : Accounted found later result) :
    Accounted sofar (told ++ later) result := by
  rw [hfirst.eq_of_ok] at hlater
  cases hlater with
  | ended =>
    have hended := @Accounted.ended sofar (told ++ later)
    rwa [styleErrors_append, firstMessages_append, ← List.append_assoc,
      ← List.append_assoc] at hended
  | answered htold => exact .answered (by rw [htold, List.append_assoc])
  | refused hown => exact .refused hown

/-- A part of a component that is accounted for by what its calls are told. -/
def Accounts (t : Toolchain) (sofar : List String × List String) {α : Type} (x : Pipeline α)
    (found : α → List String × List String) (h : List Call) : Prop :=
  ∃ calls, (x.run.run h).2 = h ++ calls ∧
    Accounted sofar (t.told id h calls) ((x.run.run h).1.map found)

theorem accounted_nothing (sofar : List String × List String) : Accounted sofar [] (.ok sofar) := by
  have hended := @Accounted.ended sofar []
  simpa [styleErrors, firstMessages] using hended

namespace Accounts

variable {t : Toolchain} {sofar : List String × List String} {α β : Type}
  {found : α → List String × List String} {found' : β → List String × List String} {h : List Call}

theorem pure {a : α} (ha : found a = sofar) : Accounts t sofar (Pure.pure a) found h := by
  refine ⟨[], (List.append_nil h).symm, ?_⟩
  rw [← ha]
  exact accounted_nothing (found a)

theorem bind {x : Pipeline α} {f : α → Pipeline β} (hx : Accounts t sofar x found h)
    (hf : ∀ a h₁, x.run.run h = (.ok a, h₁) → Accounts t (found a) (f a) found' h₁) :
    Accounts t sofar (x >>= f) found' h := by
  obtain ⟨calls, hcalls, haccounted⟩ := hx
  unfold Accounts
  rw [run_bind]
  rcases hr : x.run.run h with ⟨errors | a, h₁⟩
  · rw [hr] at hcalls haccounted
    refine ⟨calls, hcalls, ?_⟩
    cases haccounted with
    | answered htold => exact .answered htold
    | refused hown => exact .refused hown
  · rw [hr] at hcalls haccounted
    obtain rfl : h₁ = h ++ calls := hcalls
    obtain ⟨calls', hcalls', haccounted'⟩ := hf a _ hr
    refine ⟨calls ++ calls', by rw [← List.append_assoc]; exact hcalls', ?_⟩
    rw [told_append]
    exact haccounted.after haccounted'

theorem of_tells {x : Pipeline α} (hx : Tells t id (Halt.said id) x h) (hcontained : Contained x) :
    Accounts t sofar x (fun _ => sofar) h := by
  obtain ⟨calls, hcalls, htold⟩ := hx
  refine ⟨calls, hcalls, ?_⟩
  rcases hcontained.ends h with ⟨errors, h', hr⟩ | ⟨a, h', hr⟩
  · rw [hr] at htold ⊢
    obtain ⟨call, -, htold⟩ := htold
    exact .answered (htold.trans (List.nil_append _).symm)
  · rw [hr] at htold ⊢
    rw [show t.told id h calls = [] from htold]
    exact accounted_nothing sofar

theorem ofStage {stage : Stage α} (hstage : Tells t id (Halt.said StageErrors.toList) stage h)
    (hcontained : Contained stage) :
    Accounts t sofar (Pipeline.ofStage stage) (fun _ => sofar) h := by
  refine of_tells ?_ (Pipeline.contained_ofStage hcontained)
  obtain ⟨calls, hcalls, htold⟩ := hstage
  refine ⟨calls, by rw [Pipeline.ofStage, run_adapt]; exact hcalls, ?_⟩
  rw [Pipeline.ofStage, run_adapt]
  rcases hr : (stage.run.run h).1 with (errors | failure) | a <;> rw [hr] at htold <;> exact htold

/-- The first message of a failed stage. -/
def firstOf (result : Except StageErrors α) : List String :=
  match result with
  | .ok _ => []
  | .error e => [e.first]

/-- A stage for the server warns of its failure. -/
theorem server {stage : Stage α} {g : Except StageErrors α → β}
    (hstage : Tells t id (Halt.said StageErrors.toList) stage h) (hcontained : Contained stage)
    (hg : ∀ result, found' (g result) = (sofar.1, sofar.2 ++ firstOf result)) :
    Accounts t sofar (do let result ← Pipeline.outcome stage; return g result) found' h := by
  obtain ⟨calls, hcalls, htold⟩ := hstage
  obtain ⟨result, h', hr⟩ := hcontained.exists_run h
  have hrun : (do let result ← Pipeline.outcome stage; return g result : Pipeline β).run.run h =
      (.ok (g result), h') := by
    rw [run_bind, Pipeline.run_outcome hr]
    rfl
  rw [hr] at hcalls htold
  refine ⟨calls, by rw [hrun]; exact hcalls, ?_⟩
  have hended := @Accounted.ended sofar (t.told id h calls)
  suffices hfound : found' (g result) = (sofar.1 ++ styleErrors (t.told id h calls),
      sofar.2 ++ firstMessages (t.told id h calls)) by
    rw [hrun]
    rw [← hfound] at hended
    exact hended
  rw [hg]
  cases result with
  | error e =>
    obtain ⟨call, hstyle, htold⟩ := htold
    rw [htold]
    simp [styleErrors, firstMessages, hstyle, firstOf, Halt.said, StageErrors.toList]
  | ok a =>
    rw [show t.told id h calls = [] from htold]
    simp [styleErrors, firstMessages, firstOf]

section Parts

variable (c : Compiler) (d : Descriptor) (scope filename code : String) (h : List Call)

theorem checkLanguages : Accounts t sofar (Compiler.checkLanguages d) (fun _ => sofar) h := by
  unfold Compiler.checkLanguages
  cases d.languageFault with
  | none => exact pure rfl
  | some fault => exact ⟨[], (List.append_nil h).symm, .refused (by cases fault <;> decide)⟩

theorem scriptPart : Accounts c.toolchain ([], []) (c.scriptPart d scope)
    (fun part => ([], part.1.warnings)) h := by
  have hcontained := fun target =>
    contained_compileScript c.toolchain c.options d scope target d.isTyped
  refine bind (ofStage (Tells.compileScript h) (hcontained .client)) fun script h₁ _ => ?_
  dsimp only
  split
  · refine server (Tells.compileScript h₁) (hcontained .ssr) fun result => ?_
    cases result <;> rfl
  · exact pure rfl

theorem templatePart (bindings : Option Bindings) (builds : Builds) :
    Accounts c.toolchain ([], builds.warnings) (c.templatePart d scope bindings builds)
      (fun builds' => ([], builds'.warnings)) h := by
  unfold Compiler.templatePart
  cases hneeds : c.needsTemplate d with
  | false => exact pure rfl
  | true =>
    obtain ⟨template, htemplate⟩ := Compiler.exists_template_of_needsTemplate hneeds
    have hcontained := fun target =>
      contained_compileTemplate c.toolchain c.options d scope template bindings target d.isTyped
    simp only [Bool.not_true, Bool.false_eq_true, if_false,
      templateStage_of_some c.toolchain c.options d scope htemplate]
    refine bind (ofStage (Tells.compileTemplate template bindings h) (hcontained .client))
      fun client h₁ _ => ?_
    refine server (Tells.compileTemplate template bindings h₁) (hcontained .ssr) fun result => ?_
    cases result with
    | error e => rfl
    | ok code => exact congrArg ([], ·) (List.append_nil _).symm

/-- The answers to all blocks make up the errors of the styles, and no warnings. -/
theorem told_styles (t : Toolchain) (o : CompileOptions) (styles : List StyleBlock)
    {told : List Telling}
    (htold : t.told id h (styles.map fun s => .compileStyle (styleRequest o d scope s)) = told) :
    styleErrors told =
        (((styleAnswers t o d scope h styles).map styleMessages).filter isShown).flatten ∧
      firstMessages told = [] := by
  induction styles generalizing h told with
  | nil =>
    rw [← htold]
    exact ⟨rfl, rfl⟩
  | cons style styles ih =>
    obtain ⟨hrest, hnone⟩ := ih (h ++ [.compileStyle (styleRequest o d scope style)]) rfl
    have hmessages (answer : Except Failure CompiledBlock) :
        Call.messages id (.compileStyle (styleRequest o d scope style)) answer =
          styleMessages answer := by
      cases answer <;> rfl
    rw [← htold, List.map_cons, Toolchain.told, styleErrors_append, firstMessages_append, hrest,
      hnone, styleAnswers_cons, List.map_cons, hmessages]
    generalize t.respond h (.compileStyle (styleRequest o d scope style)) = answer
    by_cases hsilent : styleMessages answer = []
    · rw [if_pos hsilent, hsilent]
      exact ⟨rfl, rfl⟩
    · rw [if_neg hsilent, List.filter_cons]
      refine ⟨?_, rfl⟩
      cases hshown : isShown (styleMessages answer) <;> simp [styleErrors, Call.isStyle, hshown]

theorem styleStage (warnings : List String) : Accounts c.toolchain ([], warnings)
    (c.styleStage d scope) (fun sheet => (sheet.errors, warnings)) h := by
  unfold Compiler.styleStage
  by_cases hplain : ∀ s ∈ d.styles, s.cssModule.isOn = false
  · have hrun : (compileStyles c.toolchain c.options d scope).run.run h = _ :=
      run_compileStyles hplain h
    refine ⟨_, by rw [run_adapt, hrun], ?_⟩
    rw [run_adapt, hrun]
    generalize htold : c.toolchain.told id h _ = told
    obtain ⟨herrors, hwarnings⟩ := told_styles d scope h c.toolchain c.options d.styles htold
    have hended := @Accounted.ended ([], warnings) told
    rw [herrors, hwarnings, List.append_nil, List.nil_append] at hended
    exact hended
  · have hmodule : d.styles.any (·.cssModule.isOn) = true := by simpa using hplain
    have hfault := Compiler.fault?_compileStyles c scope d h
    rw [Objection.styleModule, if_pos hmodule, fault?_eq_some_iff] at hfault
    refine ⟨_, by rw [run_adapt, history_compileStyles], ?_⟩
    rw [hfault]
    exact .refused (by decide)

theorem stages : Accounts c.toolchain ([], []) (c.stages scope filename code)
    (fun result => (result.2.errors, result.1.warnings)) h := by
  rw [Compiler.stages_eq]
  refine bind (of_tells (Tells.parse c filename code h) (c.contained_parse filename code))
    fun d h₁ _ => ?_
  refine bind (checkLanguages d h₁) fun _ h₂ _ => ?_
  refine bind (scriptPart c d scope h₂) fun part h₃ _ => ?_
  refine bind (templatePart c d scope h₃ part.2 part.1) fun builds h₄ _ => ?_
  refine bind (styleStage c d scope h₄ builds.warnings) fun sheet h₅ _ => ?_
  exact pure (by dsimp only; split <;> rfl)

end Parts

end Accounts

end Playground
