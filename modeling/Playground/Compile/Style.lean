import Playground.Compile.Stage
import Playground.Text.Blank
import Playground.Text.Search

namespace Playground

def noStyles : String := "/* No <style> tags present */"

def styleModuleMessage : String := "<style module> is not supported in the playground."

/-- The service may miss this function of its host; what goes wrong for want of it is no fault of
the component. -/
def ignoredMark : String := "pathToFileURL"

structure StyleSheet where
  css : String
  errors : List String := []
  deriving DecidableEq, Repr

/-- The style modules of a component stop its compile. -/
inductive StyleModuleFound
  | found
  deriving DecidableEq, Repr

def styleRequest (o : CompileOptions) (d : Descriptor) (id : String) (style : StyleBlock) :
    Fields :=
  o.style.fields
    |> Fields.put "source" (.text style.content)
    |> Fields.put "filename" (.text d.filename)
    |> Fields.put "id" (.text id)
    |> Fields.put "scoped" (.bool style.isScoped)
    |> Fields.put "modules" (.bool style.cssModule.isOn)

/-- The messages of one block, of which there are none if its code is good. -/
def styleMessages : Except Failure CompiledBlock → List String
  | .error f => [f.trace]
  | .ok compiled => compiled.errors.map (·.text)

def reportedMessages (messages : List String) : List String :=
  match messages with
  | [] => []
  | m :: _ => if Text.contains ignoredMark m then [] else messages

/-- The code of the blocks that compiled, each with a line end, and the errors of the others. -/
def compileStyleBlocks (t : Toolchain) (o : CompileOptions) (d : Descriptor) (id : String) :
    List StyleBlock → ExceptT (Halt StyleModuleFound) Session (List String × List String)
  | [] => return ([], [])
  | style :: styles => do
    if style.cssModule.isOn then throw (.reported .found)
    let answer : Except Failure CompiledBlock ← t.ask (.compileStyle (styleRequest o d id style))
    let (codes, errors) ← compileStyleBlocks t o d id styles
    return match styleMessages answer, answer with
      | [], .ok compiled => ((compiled.code ++ "\n") :: codes, errors)
      | messages, _ => (codes, reportedMessages messages ++ errors)

def compileStyles (t : Toolchain) (o : CompileOptions) (d : Descriptor) (id : String) :
    ExceptT (Halt StyleModuleFound) Session StyleSheet := do
  let (codes, errors) ← compileStyleBlocks t o d id d.styles
  let css := Text.strip (String.join codes)
  return ⟨if css.isEmpty then noStyles else css, errors⟩

end Playground
