import JdkFinder.Files.FileSystem

/-!
# Actions on files

What the program does to files, with the errors of the program.
-/

namespace JdkFinder

/-- An action on a file system that can fail; what was done before a failure stays done. -/
abbrev Action := ExceptT Error (StateM FileSystem)

namespace Action

variable {α : Type}

/-- An operation on files as an action. -/
def ofFile (operation : FileAction α) : Action α :=
  ExceptT.mk (operation.run.map (Except.mapError Error.io))

def ofExcept (result : Except Error α) : Action α :=
  ExceptT.mk (pure result)

def ask (look : FileSystem → Except Error α) : Action α :=
  ExceptT.mk do return look (← get)

end Action

end JdkFinder
