import Playground.Proofs.Compile.Assembly
import Playground.Proofs.Compile.Requests

namespace Playground

namespace Compiler

/-- The parser gives a descriptor of the component and finds no fault in it. -/
def Parses (c : Compiler) (filename code : String) (h : List Call) (d : Descriptor) : Prop :=
  ∃ parsed, c.toolchain.respond h (.parse code filename true) = .ok parsed ∧ parsed.errors = [] ∧
    parsed.descriptor = d

/-- The script part of a component comes through: it is parsed, its languages are known, and its
script compiles for the client. -/
structure ScriptPasses (c : Compiler) (id filename code : String) (h : List Call) (d : Descriptor)
    (script : ScriptCode) : Prop where
  parses : c.Parses filename code h d
  languages : d.languageFault = none
  client : ((compileScript c.toolchain c.options d id .client d.isTyped).run.run
    (h ++ [.parse code filename true])).1 = .ok script

/-- What the template service is asked with: nothing where the template is left out, and nothing for
the server after a failure for the client. -/
inductive TemplateSettings (c : Compiler) (d : Descriptor) (id : String)
    (bindings : Option Bindings) : List Fields → Prop
  | leftOut (hneeds : c.needsTemplate d = false) : TemplateSettings c d id bindings []
  | asked {template : Block} {targets : List Target} (htemplate : d.template = some template)
      (hneeds : c.needsTemplate d = true)
      (htargets : targets = [.client] ∨ targets = [.client, .ssr]) :
      TemplateSettings c d id bindings
        (targets.map fun target =>
          templateRequest c.options d template id bindings target d.isTyped)

section Parts

variable {c : Compiler} {d : Descriptor} {id filename code : String} {h h' : List Call}

theorem Parses.unique {d' : Descriptor} (hd : c.Parses filename code h d)
    (hd' : c.Parses filename code h d') : d = d' := by
  obtain ⟨parsed, hanswer, -, rfl⟩ := hd
  obtain ⟨parsed', hanswer', -, rfl⟩ := hd'
  rw [hanswer] at hanswer'
  cases hanswer'
  rfl

theorem ScriptPasses.unique {d' : Descriptor} {script script' : ScriptCode}
    (hpasses : c.ScriptPasses id filename code h d script)
    (hpasses' : c.ScriptPasses id filename code h d' script') : d = d' ∧ script = script' := by
  obtain rfl := hpasses.parses.unique hpasses'.parses
  exact ⟨rfl, Except.ok.inj (hpasses.client.symm.trans hpasses'.client)⟩

/-- The style stage, as a component runs it at its end. -/
def styleStage (c : Compiler) (d : Descriptor) (id : String) : Pipeline StyleSheet :=
  (compileStyles c.toolchain c.options d id).adapt (Halt.map fun _ => [styleModuleMessage])

/-- The stages behind the script part. -/
def laterStages (c : Compiler) (d : Descriptor) (id : String) (bindings : Option Bindings)
    (builds : Builds) : Pipeline (Builds × StyleSheet) := do
  let builds ← c.templatePart d id bindings builds
  let builds := if d.hasScopedStyle then builds.addBoth (scopeLine id) else builds
  let sheet ← c.styleStage d id
  return (builds, sheet)

variable (c id filename code) in
theorem stages_eq : c.stages id filename code = (do
    let d ← c.parse filename code
    checkLanguages d
    let (builds, bindings) ← c.scriptPart d id
    c.laterStages d id bindings builds) := rfl

theorem Parses.run (hparses : c.Parses filename code h d) :
    (c.parse filename code).run.run h = (.ok d, h ++ [.parse code filename true]) := by
  obtain ⟨parsed, hanswer, herrors, rfl⟩ := hparses
  rw [run_parse, hanswer]
  simp only [herrors, if_true]

variable (id) in
theorem stages_of_fault {fault : LanguageFault} (hparses : c.Parses filename code h d)
    (hfault : d.languageFault = some fault) :
    (c.stages id filename code).run.run h =
      (.error (.reported [fault.message]), h ++ [.parse code filename true]) := by
  rw [stages_eq, run_bind, hparses.run]
  simp only [checkLanguages, hfault]
  rfl

end Parts

end Compiler

end Playground
