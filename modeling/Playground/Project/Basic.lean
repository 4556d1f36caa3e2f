import Playground.Options.Basic

namespace Playground

/-- What a manifest describes: virtual files, perhaps a folder to read more of them from, the name
of the services that compile them, and the options of the stages. -/
structure Project where
  version : Int := 1
  name : Option String := none
  services : Option String := none
  main : String := "App.vue"
  files : List (String × String) := []
  root : Option HostPath := none
  options : CompileOptions := {}
  deriving Repr

/-- Settings that a project does not know are dropped. -/
def Project.ofValue (v : Value) : Checked Project := do
  let fields ← Setting.record "Project" v
  let (version, name, services, main, files, root, options) ←
    Checked.both (Setting.field "version" 1 Setting.positive fields) <|
    Checked.both (Setting.field "name" none (Setting.optional Setting.text) fields) <|
    Checked.both (Setting.field "services" none (Setting.optional Setting.text) fields) <|
    Checked.both (Setting.field "main" "App.vue" Setting.virtualPath fields) <|
    Checked.both
      (Setting.field "files" [] (Setting.entries Setting.virtualPath Setting.text) fields) <|
    Checked.both (Setting.field "root" none (Setting.optional Setting.hostPath) fields)
      (Setting.field "options" {} CompileOptions.ofValue fields)
  return { version, name, services, main, files := Assoc.ofPairs files, root, options }

end Playground
