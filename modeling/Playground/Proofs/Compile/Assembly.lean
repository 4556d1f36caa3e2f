import Playground.Proofs.Compile.Outcome

namespace Playground

namespace Variant

@[simp] theorem code_append (code : String) (v : Variant) :
    (v.append code).code = v.code ++ code := by
  simp [append, Variant.code]

@[simp] theorem code_degrade (error : String) (v : Variant) :
    (v.degrade error).code = degradedNote error := by
  simp [degrade, code]

end Variant

/-- The comment that a failed stage for the server leaves: the first line of its first error. -/
def failureComment (e : StageErrors) : String :=
  "/* SSR compile error: " ++ String.ofList ((Text.lines e.first.toList).headD []) ++ " */"

/-- The server text after a stage. The code of the stage goes to the end, and the comment of its
failure takes the place of all that came before. -/
def serverTextAfter (before : String) : Except StageErrors String → String
  | .ok code => before ++ code
  | .error e => failureComment e

namespace Builds

/-- The texts that both builds have come to. -/
def Hold (b : Builds) (client server : String) : Prop :=
  b.client.code = client ∧ b.ssr.code = server

namespace Hold

variable {b : Builds} {client server : String}

theorem empty : Hold {} "" "" := ⟨rfl, rfl⟩

theorem addClient (hb : b.Hold client server) (code : String) :
    (b.addClient code).Hold (client ++ code) server := by
  obtain ⟨rfl, rfl⟩ := hb
  exact ⟨Variant.code_append code b.client, rfl⟩

theorem addSsr (hb : b.Hold client server) (code : String) :
    (b.addSsr code).Hold client (server ++ code) := by
  obtain ⟨rfl, rfl⟩ := hb
  exact ⟨rfl, Variant.code_append code b.ssr⟩

theorem addBoth (hb : b.Hold client server) (code : String) :
    (b.addBoth code).Hold (client ++ code) (server ++ code) :=
  (hb.addClient code).addSsr code

theorem addSsrResult (hb : b.Hold client server) (result : Except StageErrors String) :
    (b.addSsrResult result).Hold client (serverTextAfter server result) := by
  cases result with
  | ok code => exact hb.addSsr code
  | error e => exact ⟨hb.1, Variant.code_degrade e.first b.ssr⟩

end Hold

end Builds

/-- What the stages of a component gave for its modules. Only a setup script is compiled for the
server apart, and not every template is compiled. -/
structure StageTexts where
  script : String
  serverScript : Option (Except StageErrors String)
  template : Option (String × Except StageErrors String)

namespace StageTexts

def clientText (t : StageTexts) : String :=
  match t.template with
  | none => t.script
  | some (code, _) => t.script ++ code

def serverScriptText (t : StageTexts) : String :=
  match t.serverScript with
  | none => t.script
  | some result => serverTextAfter "" result

def serverText (t : StageTexts) : String :=
  match t.template with
  | none => t.serverScriptText
  | some (_, result) => serverTextAfter t.serverScriptText result

end StageTexts

namespace Compiler

/-- A run of the script stage, once for the client and with a setup script once more for the
server. -/
inductive ScriptGives (c : Compiler) (d : Descriptor) (id : String) (h : List Call) :
    ScriptCode → Option (Except StageErrors String) → List Call → Prop
  | shared {script : ScriptCode} {h' : List Call} (hsetup : d.scriptSetup = none)
      (hclient : (compileScript c.toolchain c.options d id .client d.isTyped).run.run h =
        (.ok script, h')) :
      ScriptGives c d id h script none h'
  | apart {script : ScriptCode} {server : Except StageErrors ScriptCode} {h₁ h' : List Call}
      (hsetup : d.scriptSetup ≠ none)
      (hclient : (compileScript c.toolchain c.options d id .client d.isTyped).run.run h =
        (.ok script, h₁))
      (hserver : (compileScript c.toolchain c.options d id .ssr d.isTyped).run.run h₁ =
        (server.mapError .reported, h')) :
      ScriptGives c d id h script (some (server.map (·.code))) h'

/-- A run of the template stage, which is left out or is for both builds. -/
inductive TemplateGives (c : Compiler) (d : Descriptor) (id : String) (bindings : Option Bindings)
    (h : List Call) : Option (String × Except StageErrors String) → List Call → Prop
  | leftOut (hneeds : c.needsTemplate d = false) : TemplateGives c d id bindings h none h
  | compiled {template : Block} {client : String} {server : Except StageErrors String}
      {h₁ h' : List Call} (htemplate : d.template = some template)
      (hneeds : c.needsTemplate d = true)
      (hclient : (compileTemplate c.toolchain c.options d template id bindings .client
        d.isTyped).run.run h = (.ok client, h₁))
      (hserver : (compileTemplate c.toolchain c.options d template id bindings .ssr
        d.isTyped).run.run h₁ = (server.mapError .reported, h')) :
      TemplateGives c d id bindings h (some (client, server)) h'

/-- A component whose services answered so that its stages gave these texts, one after the other. -/
inductive ComponentGives (c : Compiler) (file : VirtualFile) (h : List Call) :
    String → Descriptor → StageTexts → Prop
  | intro {id : String} {parsed : Parsed} {script : ScriptCode}
      {server : Option (Except StageErrors String)}
      {template : Option (String × Except StageErrors String)} {h₁ h₂ : List Call}
      (hid : c.toolchain.respond h (.scopeId file.filename) = .ok id)
      (hparse : c.toolchain.respond (h ++ [.scopeId file.filename])
        (.parse file.code file.filename true) = .ok parsed) (herrors : parsed.errors = [])
      (hscript : c.ScriptGives parsed.descriptor id
        (h ++ [.scopeId file.filename] ++ [.parse file.code file.filename true]) script server h₁)
      (htemplate : c.TemplateGives parsed.descriptor id script.bindings h₁ template h₂) :
      ComponentGives c file h id parsed.descriptor ⟨script.code, server, template⟩

section Runs

variable {c : Compiler} {d : Descriptor} {id : String} {h h' : List Call}

theorem scriptPart_gives {builds : Builds} {bindings : Option Bindings}
    (hrun : (c.scriptPart d id).run.run h = (.ok (builds, bindings), h')) :
    ∃ script server, c.ScriptGives d id h script server h' ∧ bindings = script.bindings ∧
      builds.Hold script.code (StageTexts.serverScriptText ⟨script.code, server, none⟩) := by
  unfold scriptPart at hrun
  obtain ⟨script, h₁, hstage, hrest⟩ := run_bind_eq_ok hrun
  have hclient := run_adapt_eq_ok hstage
  have hstart : (Builds.addClient script.code {}).Hold script.code "" := by
    simpa using Builds.Hold.empty.addClient script.code
  dsimp only at hrest
  split at hrest
  · next hsetup =>
    obtain ⟨server, h₂, hserver⟩ :=
      (contained_compileScript c.toolchain c.options d id .ssr d.isTyped).exists_run h₁
    rw [run_bind, Pipeline.run_outcome hserver] at hrest
    cases hrest
    exact ⟨script, _, .apart (Option.isSome_iff_ne_none.1 hsetup) hclient hserver, rfl,
      hstart.addSsrResult _⟩
  · next hsetup =>
    cases hrest
    refine ⟨script, none, .shared (by simpa using hsetup) hclient, rfl, ?_⟩
    -- the code for the client goes into both builds
    have hshared := hstart.addSsr script.code
    rwa [String.empty_append] at hshared

theorem templatePart_gives {bindings : Option Bindings} {builds builds' : Builds}
    {script : String} {server : Option (Except StageErrors String)}
    (hbuilds : builds.Hold script (StageTexts.serverScriptText ⟨script, server, none⟩))
    (hrun : (c.templatePart d id bindings builds).run.run h = (.ok builds', h')) :
    ∃ template, c.TemplateGives d id bindings h template h' ∧
      builds'.Hold (StageTexts.clientText ⟨script, server, template⟩)
        (StageTexts.serverText ⟨script, server, template⟩) := by
  unfold templatePart at hrun
  cases hneeds : c.needsTemplate d with
  | false =>
    simp only [hneeds] at hrun
    cases hrun
    exact ⟨none, .leftOut hneeds, hbuilds⟩
  | true =>
    obtain ⟨template, htemplate⟩ := exists_template_of_needsTemplate hneeds
    simp only [hneeds, templateStage_of_some c.toolchain c.options d id htemplate] at hrun
    obtain ⟨client, h₁, hstage, hrest⟩ := run_bind_eq_ok hrun
    have hclient := run_adapt_eq_ok hstage
    obtain ⟨server, h₂, hserver⟩ := (contained_compileTemplate c.toolchain c.options d id template
      bindings .ssr d.isTyped).exists_run h₁
    rw [run_bind, Pipeline.run_outcome hserver] at hrest
    cases hrest
    exact ⟨some (client, _), .compiled htemplate hneeds hclient hserver,
      (hbuilds.addClient client).addSsrResult _⟩

/-- The stages of a component end with both modules put together, but for what every module ends
with. -/
theorem stages_give {filename code : String} {builds : Builds} {sheet : StyleSheet}
    (hrun : (c.stages id filename code).run.run h = (.ok (builds, sheet), h')) :
    ∃ parsed script server template h₁ h₂,
      c.toolchain.respond h (.parse code filename true) = .ok parsed ∧ parsed.errors = [] ∧
      c.ScriptGives parsed.descriptor id (h ++ [.parse code filename true]) script server h₁ ∧
      c.TemplateGives parsed.descriptor id script.bindings h₁ template h₂ ∧
      let texts : StageTexts := ⟨script.code, server, template⟩
      let scope := if parsed.descriptor.hasScopedStyle then scopeLine id else ""
      builds.Hold (texts.clientText ++ scope) (texts.serverText ++ scope) := by
  unfold stages at hrun
  obtain ⟨d, hd, hparse, hrest⟩ := run_bind_eq_ok hrun
  obtain ⟨parsed, hanswer, herrors, rfl, rfl⟩ := parse_ok hparse
  obtain ⟨_, hl, hlanguages, hrest⟩ := run_bind_eq_ok hrest
  obtain rfl := checkLanguages_ok hlanguages
  obtain ⟨⟨builds₁, bindings⟩, h₁, hscriptRun, hrest⟩ := run_bind_eq_ok hrest
  obtain ⟨script, server, hscript, rfl, hhold₁⟩ := scriptPart_gives hscriptRun
  obtain ⟨builds₂, h₂, htemplateRun, hrest⟩ := run_bind_eq_ok hrest
  obtain ⟨template, htemplate, hhold₂⟩ := templatePart_gives hhold₁ htemplateRun
  obtain ⟨sheet', h₃, -, hend⟩ := run_bind_eq_ok hrest
  cases hend
  refine ⟨parsed, script, server, template, h₁, h₂, hanswer, herrors, hscript, htemplate, ?_⟩
  dsimp only
  split
  · exact hhold₂.addBoth (scopeLine id)
  · simpa using hhold₂

end Runs

theorem scopeLine_eq (id : String) :
    scopeLine id = "\n__sfc__.__scopeId = " ++ Json.literal ("data-v-" ++ id) := by
  have hname : "\n" ++ componentName ++ ".__scopeId = " = "\n__sfc__.__scopeId = " := by decide
  rw [scopeLine, hname, scopeAttribute]

theorem exportTail_eq_literal (filename : String) : exportTail filename =
    "\n__sfc__.__file = " ++ Json.literal filename ++ "\nexport default __sfc__" := by
  have hbefore : "\n" ++ componentName ++ ".__file = " = "\n__sfc__.__file = " := by decide
  have hbehind : "\nexport default " ++ componentName = "\nexport default __sfc__" := by decide
  rw [exportTail, hbefore, String.append_assoc, hbehind]

/-- Two texts with what every module ends with, as the modules of a component. Only in the client
module the imports are read from the root. Two texts that are empty leave the old modules. -/
def IsAssembled (filename client server : String) (old new : Artifact) : Prop :=
  let tail := "\n__sfc__.__file = " ++ Json.literal filename ++ "\nexport default __sfc__"
  if client = "" ∧ server = "" then new.js = old.js ∧ new.ssr = old.ssr
  else
    new.js = Import.anchor filename (Text.stripStart (client ++ tail)) ∧
      new.ssr = Text.stripStart (server ++ tail)

theorem isAssembled_assemble {builds : Builds} {client server : String}
    (hbuilds : builds.Hold client server) (filename : String) (old : Artifact) :
    IsAssembled filename client server old (assemble filename builds old) := by
  obtain ⟨hclient, hserver⟩ := hbuilds.addBoth (exportTail filename)
  obtain ⟨rfl, rfl⟩ := hbuilds
  unfold IsAssembled assemble
  rw [← exportTail_eq_literal]
  by_cases hempty : builds.client.code = "" ∧ builds.ssr.code = ""
  · have hcode : (builds.client.hasCode || builds.ssr.hasCode) = false := by
      simp [Variant.hasCode, hempty]
    rw [if_pos hempty, hcode]
    exact ⟨rfl, rfl⟩
  · have hcode : (builds.client.hasCode || builds.ssr.hasCode) = true := by
      rw [Decidable.not_and_iff_not_or_not] at hempty
      simpa [Variant.hasCode] using hempty
    rw [if_neg hempty, hcode, ← hclient, ← hserver]
    exact ⟨rfl, rfl⟩

/-- The two modules of a component that compiles, put together from what its stages gave. The client
module is the code of the client stages. In the server module a failed stage for the server leaves a
comment in the place of what came before it, and what comes after goes on behind the comment. The
scope id goes to the end of both exactly if a style is scoped. -/
theorem compileFile_assembles (c : Compiler) (file : VirtualFile) (h : List Call)
    (hv : file.suffix = ".vue") {report : Report} {file' : VirtualFile} {h' : List Call}
    (hrun : (c.compileFile file).run h = (.ok (report, file'), h'))
    (hcompiled : report.outcome = .compiled) :
    ∃ id d texts, c.ComponentGives file h id d texts ∧
      let scope := if d.styles.any (·.isScoped) then
        "\n__sfc__.__scopeId = " ++ Json.literal ("data-v-" ++ id) else ""
      IsAssembled file.filename (texts.clientText ++ scope) (texts.serverText ++ scope)
        file.compiled file'.compiled := by
  obtain ⟨id, builds, sheet, -, hid, hstages, -, rfl⟩ :=
    c.stages_of_compiled file h hv hrun hcompiled
  obtain ⟨parsed, script, server, template, _, _, hparse, herrors, hscript, htemplate, hhold⟩ :=
    stages_give hstages
  refine ⟨id, parsed.descriptor, ⟨script.code, server, template⟩,
    .intro hid hparse herrors hscript htemplate, ?_⟩
  rw [scopeLine_eq] at hhold
  exact isAssembled_assemble hhold file.filename file.compiled

/-- A setup script that passes for the client alone, a template that is compiled apart for both, and
a scoped style. -/
def withoutServerScript : Compiler :=
  let d : Descriptor :=
    { filename := "", template := some {}, scriptSetup := some {}
      styles := [{ isScoped := true }] }
  let fault : Failure := { kind := "ValueError", argument := some "first\r\nsecond" }
  let services : ToolchainScript :=
    { parse := .ok { descriptor := d }
      script := fun ssr => if ssr then .error fault else .ok { content := "\n import a from './a'" }
      template := fun ssr => .ok { code := if ssr then "import c from './c'" else "b" }
      ids := { fixed := some "a1" } }
  { toolchain := services.toolchain, options := { script := { inlineTemplate := some false } } }

/-- The compile warns of the script and puts the modules together all the same. -/
theorem compileFile_assembles_withoutServerScript :
    let file : VirtualFile := ⟨"pages/App.vue", "<script setup>", {}⟩
    let run := (withoutServerScript.compileFile file).run []
    let compiled := (file.after run.1).compiled
    let tail := "\n__sfc__.__scopeId = \"data-v-a1\"\n__sfc__.__file = \"pages/App.vue\"" ++
      "\nexport default __sfc__"
    file.suffix = ".vue" ∧ run.1.toOption.map (·.1.outcome) = some .compiled ∧
      run.1.toOption.map (·.1.warnings) = some ["ValueError: first\nsecond"] ∧
      compiled.js = "import a from './pages/a'\nb\n__sfc__.render = render" ++ tail ∧
      compiled.ssr = "/* SSR compile error: ValueError: first */\nimport c from './c'\n" ++
        "__sfc__.ssrRender = ssrRender" ++ tail ∧
      ∃ id d texts, withoutServerScript.ComponentGives file [] id d texts ∧
        let scope := if d.styles.any (·.isScoped) then
          "\n__sfc__.__scopeId = " ++ Json.literal ("data-v-" ++ id) else ""
        IsAssembled file.filename (texts.clientText ++ scope) (texts.serverText ++ scope)
          file.compiled compiled := by
  intro file run compiled tail
  have hv : file.suffix = ".vue" := by decide
  have houtcome : run.1.toOption.map (·.1.outcome) = some .compiled := by decide +kernel
  refine ⟨hv, houtcome, by decide +kernel, by decide +kernel, by decide +kernel, ?_⟩
  have hcompiled : compiled = (file.after run.1).compiled := rfl
  rcases hrun : run with ⟨f | ⟨report, file'⟩, h'⟩
  · rw [hrun] at houtcome
    cases houtcome
  · rw [hrun] at houtcome hcompiled
    rw [hcompiled]
    exact compileFile_assembles withoutServerScript file [] hv hrun (Option.some.inj houtcome)

end Compiler

end Playground
