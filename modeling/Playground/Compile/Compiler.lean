import Playground.Compile.Component

namespace Playground

/-- How a file is compiled, by its suffix. -/
inductive FileKind
  | style
  | script
  | component
  | inert
  deriving DecidableEq, Repr

def FileKind.ofSuffix (suffix : String) : FileKind :=
  if suffix = ".css" then .style
  else if suffix = ".js" ∨ suffix = ".ts" then .script
  else if suffix = ".vue" then .component
  else .inert

def VirtualFile.kind (f : VirtualFile) : FileKind := .ofSuffix f.suffix

namespace Compiler

def isTypedName (filename : String) : Bool := filename.endsWith ".ts"

/-- Compiles a plain script module; what a service raises stops it. -/
def scriptFile (c : Compiler) (file : VirtualFile) : ExceptT Failure Session String := do
  let code ←
    if c.toolchain.transformsRefs then do
      if ← c.toolchain.demand (.shouldTransform file.code) then
        c.toolchain.demand (.transform file.code file.filename)
      else pure file.code
    else pure file.code
  let code ←
    if isTypedName file.filename then c.toolchain.demand (.stripTypes code) else pure code
  return Import.anchor file.filename code

def aborted (file : VirtualFile) (errors : List String) : Report × VirtualFile :=
  (⟨file.filename, .aborted, errors, []⟩, file)

def compileScriptFile (c : Compiler) (file : VirtualFile) : Session (Report × VirtualFile) := do
  match ← (c.scriptFile file).run with
  | .error f => return aborted file [f.awaited.trace]
  | .ok code =>
    return (⟨file.filename, .compiled, [], []⟩,
      { file with compiled := { file.compiled with js := code, ssr := code } })

def compileComponent (c : Compiler) (file : VirtualFile) :
    Session (Except Failure (Report × VirtualFile)) := do
  match ← (c.component file).run with
  | .error (.raised f) => return .error f.awaited
  | .error (.reported errors) => return .ok (aborted file errors)
  | .ok (artifact, errors, warnings) =>
    return .ok (⟨file.filename, .compiled, errors, warnings⟩, { file with compiled := artifact })

/-- Compiles one file. A compile fails with what leaves the run of a component, and is seen to fail
by those who wait for it. -/
def compileFile (c : Compiler) (file : VirtualFile) :
    Session (Except Failure (Report × VirtualFile)) := do
  if Text.allBlank file.code then return .ok (⟨file.filename, .skipped, [], []⟩, file)
  match file.kind with
  | .style =>
    return .ok (⟨file.filename, .compiled, [], []⟩,
      { file with compiled := { file.compiled with css := file.code } })
  | .script => return .ok (← c.compileScriptFile file)
  | .component => c.compileComponent file
  | .inert => return .ok (⟨file.filename, .skipped, [], []⟩, file)

end Compiler

end Playground
