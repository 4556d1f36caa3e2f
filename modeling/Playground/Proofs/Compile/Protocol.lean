import Playground.Proofs.Compile.Conduct
import Playground.Proofs.Options.Reading

namespace Playground

/-- The server flags of requests, one after the other. -/
def ssrFlags (flags : List Bool) : List (Option Value) := flags.map fun ssr => some (.bool ssr)

namespace Requests

def templateFlags (r : Requests) : List (Option Value) := r.templates.map (Fields.get? "ssr")

end Requests

section Settings

variable {o : CompileOptions} {d : Descriptor} {id : String} {target : Target} {typed : Bool}

theorem ssr_templateRequest {template : Block} {bindings : Option Bindings} :
    Fields.get? "ssr" (templateRequest o d template id bindings target typed) =
      some (.bool target.isSsr) := by
  simp [templateRequest]

end Settings

namespace Compiler

section Following

variable {c : Compiler} {d : Descriptor} {id filename code : String} {h : List Call}

theorem TemplateSettings.flags {bindings : Option Bindings} {settings : List Fields}
    (hsettings : c.TemplateSettings d id bindings settings) :
    Requests.templateFlags { templates := settings } = ssrFlags [] ∨
      Requests.templateFlags { templates := settings } = ssrFlags [false] ∨
      Requests.templateFlags { templates := settings } = ssrFlags [false, true] := by
  cases hsettings with
  | leftOut hneeds => exact .inl rfl
  | @asked template targets htemplate hneeds htargets =>
    have hflags : (targets.map fun target =>
        templateRequest c.options d template id bindings target d.isTyped).map (Fields.get? "ssr") =
          ssrFlags (targets.map Target.isSsr) := by
      simp [ssrFlags, ssr_templateRequest]
    rw [Requests.templateFlags, hflags]
    rcases htargets with rfl | rfl
    · exact .inr (.inl rfl)
    · exact .inr (.inr rfl)

end Following

end Compiler

end Playground
