import Playground.Proofs.Compile.Accounts

namespace Playground

/-- A failure as it reaches the report of a file: the services of a script are awaited. -/
def VirtualFile.seen (file : VirtualFile) : Failure → Failure :=
  if file.kind = .script then Failure.awaited else id

namespace Compiler

variable {c : Compiler} {file file' : VirtualFile} {h h' : List Call} {report : Report}

end Compiler

end Playground
