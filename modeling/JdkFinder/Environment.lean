import JdkFinder.Files.Path
import JdkFinder.Text.Pieces

/-!
# The environment

The variables that a process is given, references to them, and the directory of the user.
-/

namespace JdkFinder

/-- The environment of a process. -/
structure Environment where
  /-- The names of variables and their values. -/
  «variables» : List (String × String)
  /-- The home directory that the account of the user has. -/
  accountHome : Option String

namespace Environment

/-- The lines `name=value` of an environment. -/
def lines (env : Environment) : List (List Char) :=
  env.«variables».map fun (name, value) => name.toList ++ '=' :: value.toList

/-- The value of a variable: what follows its name and an equals sign at the front of a line.  A
name that holds an equals sign finds the rest of a longer value. -/
def get? (env : Environment) (name : String) : Option String :=
  (env.lines.findSome? (Text.stripPrefix? (name.toList ++ ['=']))).map String.ofList

/-- The name of the variable that a text of the form `${NAME}` refers to. -/
def reference? (text : String) : Option String :=
  match text.toList with
  | '$' :: '\x7b' :: rest => (Text.stripSuffix? ['\x7d'] rest).map String.ofList
  | _ => none

/-- A text, or what it refers to if it is a reference to a variable that is set. -/
def expand (env : Environment) (text : String) : String :=
  ((reference? text).bind env.get?).getD text

/-- The home directory of the user: the one named by `HOME`, else the one of the account. -/
def homeDirectory? (env : Environment) : Option String :=
  ((env.get? "HOME").filter (!·.isEmpty)).or env.accountHome

/-- The directories in which programs are looked for.  A leading `~` stands for the home
directory. -/
def programDirectories (env : Environment) : List String :=
  match env.get? "PATH" with
  | none => []
  | some path => ((path.toList.splitOn ':').map String.ofList).map tilde
where
  /-- Replaces a leading `~`. -/
  tilde (directory : String) : String :=
    match Path.components directory, env.homeDirectory? with
    | "~" :: rest, some home =>
      if Path.isAbsolute directory then directory else rest.foldl Path.join home
    | _, _ => directory

end Environment

end JdkFinder
