import Playground.Proofs.Compile.Conduct
import Playground.Proofs.Compile.TypeStripping

namespace Playground

/-- A script that declares a language other than the typed one. An empty declaration is none. -/
def Block.HasForeignLang (b : Block) : Prop := ∃ lang, b.lang = some lang ∧ lang ≠ "" ∧ lang ≠ "ts"

namespace Descriptor

/-- A template or a style is in a language of its own. -/
def HasPreprocessor (d : Descriptor) : Prop :=
  (∃ b, d.template = some b ∧ b.hasLang = true) ∨ ∃ s ∈ d.styles, s.hasLang = true

/-- One of the scripts that are there is in a foreign language. -/
def HasForeignScript (d : Descriptor) : Prop :=
  ∃ b, (d.script = some b ∨ d.scriptSetup = some b) ∧ b.HasForeignLang

/-- The plain script is typed. It speaks for the setup script then, which is not looked at. -/
def HasTypedPlain (d : Descriptor) : Prop := ∃ b, d.script = some b ∧ b.lang = some "ts"

variable {d : Descriptor}

theorem hasForeignScript_iff :
    d.HasForeignScript ↔
      ∃ lang, (declaredLang d.script = some lang ∨ declaredLang d.scriptSetup = some lang) ∧
        lang ≠ "ts" := by
  simp only [declaredLang_eq_some_iff]
  constructor
  · rintro ⟨b, hplain | hsetup, lang, hlang, hne, hts⟩
    · exact ⟨lang, .inl ⟨b, hplain, hlang, hne⟩, hts⟩
    · exact ⟨lang, .inr ⟨b, hsetup, hlang, hne⟩, hts⟩
  · rintro ⟨lang, ⟨b, hplain, hlang, hne⟩ | ⟨b, hsetup, hlang, hne⟩, hts⟩
    · exact ⟨b, .inl hplain, lang, hlang, hne, hts⟩
    · exact ⟨b, .inr hsetup, lang, hlang, hne, hts⟩

theorem hasTypedPlain_iff : d.HasTypedPlain ↔ declaredLang d.script = some "ts" := by
  rw [declaredLang_eq_some_iff]
  simp [HasTypedPlain]

/-- A language is looked for in the plain script, and in the setup script only if that has none. -/
theorem exists_scriptLang_iff :
    (∃ lang, d.scriptLang = some lang ∧ lang ≠ "ts") ↔
      d.HasForeignScript ∧ ¬ d.HasTypedPlain := by
  rw [hasForeignScript_iff, hasTypedPlain_iff]
  unfold scriptLang
  cases declaredLang d.script with
  | none => simp
  | some plain =>
    by_cases hplain : plain = "ts" <;> simp [hplain]

theorem hasPreprocessor_iff :
    d.HasPreprocessor ↔
      ((declaredLang d.template).isSome ||
        d.styles.any fun s => (declaredLang s.toBlock).isSome) = true := by
  simp [HasPreprocessor, Compiler.declaredLang_isSome, Option.any_eq_true]

/-- The check finds a preprocessor first, then a script that is not typed, or nothing. -/
theorem languageFault_cases (d : Descriptor) :
    (d.HasPreprocessor ∧ d.languageFault = some .preprocessor) ∨
    (¬ d.HasPreprocessor ∧ (d.HasForeignScript ∧ ¬ d.HasTypedPlain) ∧
      d.languageFault = some .scriptLanguage) ∨
    (¬ d.HasPreprocessor ∧ ¬ (d.HasForeignScript ∧ ¬ d.HasTypedPlain) ∧
      d.languageFault = none) := by
  unfold languageFault
  rw [← exists_scriptLang_iff]
  by_cases hpre : d.HasPreprocessor
  · exact .inl ⟨hpre, if_pos (hasPreprocessor_iff.1 hpre)⟩
  · rw [if_neg (mt hasPreprocessor_iff.2 hpre)]
    rcases d.scriptLang with _ | lang
    · exact .inr (.inr ⟨hpre, by simp, rfl⟩)
    · by_cases hts : lang = "ts"
      · exact .inr (.inr ⟨hpre, by simp [hts], if_pos hts⟩)
      · exact .inr (.inl ⟨hpre, ⟨lang, rfl, hts⟩, if_neg hts⟩)

end Descriptor

namespace Compiler

variable {c : Compiler} {file : VirtualFile} {h : List Call} {d : Descriptor}

/-- A component in an unsupported language is aborted when it has been parsed, and nothing else is
asked. -/
theorem compileFile_of_languageFault {id : String} {fault : LanguageFault}
    (hb : Text.allBlank file.code = false) (hv : file.suffix = ".vue")
    (hid : c.toolchain.respond h (.scopeId file.filename) = .ok id)
    (hparses : c.Parses file.filename file.code (h ++ [.scopeId file.filename]) d)
    (hfault : d.languageFault = some fault) :
    (c.compileFile file).run h =
      (.ok (⟨file.filename, .aborted, [fault.message], []⟩, file),
        h ++ [.scopeId file.filename, .parse file.code file.filename true]) := by
  rw [c.compileFile_of_component file h hb (FileKind.ofSuffix_eq_component_iff.2 hv)]
  simp only [hid, stages_of_fault id hparses hfault, aborted, List.append_assoc,
    List.singleton_append]

/-- A component that compiles was parsed, and its languages were found to be supported. -/
theorem languages_of_compiled {report : Report} {file' : VirtualFile} {h' : List Call}
    (hv : file.suffix = ".vue") (hrun : (c.compileFile file).run h = (.ok (report, file'), h'))
    (hcompiled : report.outcome = .compiled) :
    ∃ d, c.Parses file.filename file.code (h ++ [.scopeId file.filename]) d ∧
      d.languageFault = none := by
  obtain ⟨id, builds, sheet, -, -, hstages, -, -⟩ :=
    c.stages_of_compiled file h hv hrun hcompiled
  obtain ⟨parsed, -, -, -, -, -, hanswer, herrors, -⟩ := stages_give hstages
  have hparses : c.Parses file.filename file.code (h ++ [.scopeId file.filename])
    parsed.descriptor := ⟨parsed, hanswer, herrors, rfl⟩
  refine ⟨parsed.descriptor, hparses, Option.eq_none_iff_forall_ne_some.2 fun fault hfault => ?_⟩
  rw [stages_of_fault id hparses hfault] at hstages
  cases hstages

end Compiler

/-- Which languages a component is refused for. A template or a style may have none. A script may be
typed, and where the plain script is, the setup script is not looked at; only where the plain script
declares nothing, the language of the setup script counts. A component that is refused is aborted
with the message before any stage is asked, and what compiles was not refused. -/
theorem Descriptor.languageFault_iff (d : Descriptor) :
    (d.languageFault = some .preprocessor ↔ d.HasPreprocessor) ∧
    (d.languageFault = some .scriptLanguage ↔
      ¬ d.HasPreprocessor ∧ d.HasForeignScript ∧ ¬ d.HasTypedPlain) ∧
    (d.languageFault = none ↔
      ¬ d.HasPreprocessor ∧ (d.HasForeignScript → d.HasTypedPlain)) ∧
    ∀ (c : Compiler) (file : VirtualFile) (h : List Call), file.suffix = ".vue" →
      c.Parses file.filename file.code (h ++ [.scopeId file.filename]) d →
      (∀ fault id, d.languageFault = some fault → Text.allBlank file.code = false →
        c.toolchain.respond h (.scopeId file.filename) = .ok id →
        (c.compileFile file).run h =
          (.ok (⟨file.filename, .aborted, [fault.message], []⟩, file),
            h ++ [.scopeId file.filename, .parse file.code file.filename true])) ∧
      ∀ report file' h', (c.compileFile file).run h = (.ok (report, file'), h') →
        report.outcome = .compiled → d.languageFault = none := by
  have hscript : ¬ (d.HasForeignScript ∧ ¬ d.HasTypedPlain) ↔
      (d.HasForeignScript → d.HasTypedPlain) := by rw [not_and, Classical.not_not]
  have hfaults : (d.languageFault = some .preprocessor ↔ d.HasPreprocessor) ∧
      (d.languageFault = some .scriptLanguage ↔
        ¬ d.HasPreprocessor ∧ d.HasForeignScript ∧ ¬ d.HasTypedPlain) ∧
      (d.languageFault = none ↔
        ¬ d.HasPreprocessor ∧ (d.HasForeignScript → d.HasTypedPlain)) := by
    rw [← hscript]
    rcases d.languageFault_cases with ⟨hpre, hf⟩ | ⟨hpre, hforeign, hf⟩ | ⟨hpre, hforeign, hf⟩
    · simp [hpre, hf]
    · simp [hpre, hforeign, hf]
    · simp only [hpre, hforeign, hf]
      simp
  refine ⟨hfaults.1, hfaults.2.1, hfaults.2.2, fun c file h hv hparses => ⟨?_, ?_⟩⟩
  · exact fun fault id hfault hb hid =>
      Compiler.compileFile_of_languageFault hb hv hid hparses hfault
  · intro report file' h' hrun hcompiled
    obtain ⟨d', hparses', hnone⟩ := Compiler.languages_of_compiled hv hrun hcompiled
    rw [hparses.unique hparses']
    exact hnone

/-- Services whose parser finds two scripts in these languages in every source. -/
def twoScripts (plain setup : Option String) : Compiler :=
  let d : Descriptor :=
    { filename := "", script := some { lang := plain }, scriptSetup := some { lang := setup } }
  let services : ToolchainScript :=
    { parse := .ok { descriptor := d }
      script := fun _ => .ok { content := "x = 1" }
      template := fun _ => .ok { code := "" }
      ids := { fixed := some "a1" } }
  { toolchain := services.toolchain }

theorem Descriptor.languageFault_iff_emptyPlain :
    let c := twoScripts (some "") (some "coffee")
    let file : VirtualFile := ⟨"App.vue", "<script>", {}⟩
    let d : Descriptor :=
      { filename := "App.vue", source := "<script>", script := some { lang := some "" }
        scriptSetup := some { lang := some "coffee" } }
    file.suffix = ".vue" ∧
      c.Parses file.filename file.code ([] ++ [.scopeId file.filename]) d ∧
      d.languageFault = some .scriptLanguage ∧ Text.allBlank file.code = false ∧
      c.toolchain.respond [] (.scopeId file.filename) = .ok "a1" ∧
      ((c.compileFile file).run []).1 =
        .ok (⟨"App.vue", .aborted, ["Only lang=\"ts\" is supported for <script> blocks."], []⟩,
          file) := by
  intro c file d
  have hv : file.suffix = ".vue" := by decide
  have hparses : c.Parses file.filename file.code ([] ++ [.scopeId file.filename]) d :=
    ⟨⟨d, []⟩, rfl, rfl, rfl⟩
  have hfault : d.languageFault = some .scriptLanguage := by decide
  have hb : Text.allBlank file.code = false := by decide
  have hlanguage := (Descriptor.languageFault_iff d).2.2.2 c file [] hv hparses
  refine ⟨hv, hparses, hfault, hb, rfl, ?_⟩
  rw [hlanguage.1 _ "a1" hfault hb rfl]
  rfl

/-- A setup script in a foreign language is found neither by the check nor by the compile, if the
plain script beside it is typed. -/
theorem foreign_setup_compiles :
    let file : VirtualFile := ⟨"App.vue", "<script>", {}⟩
    let run := ((twoScripts (some "ts") (some "coffee")).compileFile file).run []
    let d : Descriptor :=
      { filename := "App.vue", source := "<script>", script := some { lang := some "ts" }
        scriptSetup := some { lang := some "coffee" } }
    (twoScripts (some "ts") (some "coffee")).Parses file.filename file.code
        ([] ++ [.scopeId file.filename]) d ∧
      ¬ d.HasPreprocessor ∧ d.HasForeignScript ∧ d.languageFault = none ∧
      run.1.toOption.map (·.1.outcome) = some .compiled := by
  intro file run d
  refine ⟨⟨⟨d, []⟩, rfl, rfl, rfl⟩, ?_, ?_, by decide, by decide +kernel⟩
  · rintro (⟨b, hb, -⟩ | ⟨s, hs, -⟩)
    · cases hb
    · cases hs
  · exact ⟨{ lang := some "coffee" }, .inr rfl, "coffee", rfl, by decide, by decide⟩

end Playground
