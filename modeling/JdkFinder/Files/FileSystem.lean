import JdkFinder.Error
import JdkFinder.Files.Path

/-!
# File systems

A file system is a list of places with what stands at each: a file, a directory or a symbolic link.
This module holds the type, the walk along a path that follows links, and the operations on files
and directories.

An operation that changes the file system takes the old one and gives the new one, also when it
fails half-way.
-/

namespace JdkFinder

/-! ## §1 What a file system holds -/

-- Other libraries bring comparisons of their own, which this one comes before.
instance instDecidableEqBytes : DecidableEq ByteArray := ByteArray.instDecidableEq

/-- What a program does when it is run: the bytes on its error stream, and its exit code. -/
structure ProgramRun where
  errorOutput : ByteArray
  exitCode : Nat
  deriving DecidableEq

structure RegularFile where
  content : ByteArray
  executable : Bool
  /-- What running the file does, if it is a program. -/
  program : Option ProgramRun
  deriving DecidableEq

/-- What stands at a place. -/
inductive Node where
  | file (file : RegularFile)
  | directory
  | link (target : String)
  deriving DecidableEq

/-- A place: the names on the way from the root to it. -/
abbrev Location := List String

/-- A file system, and the directory in which relative paths start. -/
structure FileSystem where
  entries : List (Location × Node)
  workingDirectory : Location

/-- An operation on a file system. -/
abbrev FileAction := ExceptT IoError (StateM FileSystem)

namespace FileSystem

/-! ## §2 Places -/

/-- What stands at a place.  The root is a directory. -/
def nodeAt? (fs : FileSystem) (place : Location) : Option Node :=
  if place.isEmpty then some .directory else fs.entries.lookup place

/-- Puts something at a place, in the stead of what stood there. -/
def place (fs : FileSystem) (here : Location) (node : Node) : FileSystem :=
  if (fs.entries.lookup here).isSome then
    { fs with entries := fs.entries.map fun e => if e.1 == here then (here, node) else e }
  else { fs with entries := fs.entries ++ [(here, node)] }

/-- Takes away what stands at a place. -/
def clear (fs : FileSystem) (here : Location) : FileSystem :=
  { fs with entries := fs.entries.filter (·.1 != here) }

def names (fs : FileSystem) (directory : Location) : List String :=
  (fs.entries.filterMap fun (place, _) =>
    if place.dropLast == directory then place.getLast? else none).eraseDups

/-! ## §3 Walking along a path -/

/-- How many links are followed along one path. -/
def maxLinks : Nat := 40

/-- How many bytes a name may have. -/
def maxName : Nat := 255

/-- How many bytes a path may have. -/
def maxPath : Nat := 4095

/-- Follows the pieces of a path from a directory.  With `create`, the last name need not exist:
its place is the one where a file would be made. -/
def walk (fs : FileSystem) (create : Bool) (links : Nat) (start : Location) :
    List String → Except IoError Location
  | [] => .ok start
  | name :: rest =>
    if Path.isIdle name then walk fs create links start rest
    else if name = ".." then walk fs create links start.dropLast rest
    else if maxName < name.utf8ByteSize then .error .nameTooLong
    else
      let here := start ++ [name]
      match fs.nodeAt? here with
      | none =>
        if create && rest.isEmpty then .ok here
        else if create && rest.all (·.isEmpty) then .error .isDirectory
        else .error .notFound
      -- Even an idle piece behind a file is one too many.
      | some (.file _) => if rest.isEmpty then .ok here else .error .notDirectory
      | some .directory => walk fs create links here rest
      | some (.link target) =>
        match links with
        | 0 => .error .linkLoop
        | links + 1 =>
          walk fs create links (if Path.isAbsolute target then [] else start)
            (Path.pieces target ++ rest)
termination_by todo => (links, todo.length)

/-- Where the walk along a path starts. -/
def startOf (fs : FileSystem) (path : String) : Location :=
  if Path.isAbsolute path then [] else fs.workingDirectory

/-- The pieces of a path that can be walked along. -/
def walkable (path : String) : Except IoError (List String) :=
  if path.toList.contains '\x00' then .error .nulInPath
  else if path.isEmpty then .error .notFound
  else if maxPath < path.utf8ByteSize then .error .nameTooLong
  else .ok (Path.pieces path)

/-- The place that a path leads to, all links followed. -/
def locate (fs : FileSystem) (path : String) : Except IoError Location := do
  fs.walk false maxLinks (fs.startOf path) (← walkable path)

/-- The place of a file that may have to be made. -/
def locateNew (fs : FileSystem) (path : String) : Except IoError Location := do
  fs.walk true maxLinks (fs.startOf path) (← walkable path)

/-- The place of the last name of a path, without following it if it is a link; `none` if the path
ends in no name. -/
def locateEntry (fs : FileSystem) (path : String) : Except IoError (Option Location) := do
  let pieces ← walkable path
  match (pieces.reverse.dropWhile (·.isEmpty)) with
  | [] => .ok none
  | name :: above =>
    -- The empty piece makes the walk fail if the names above lead to a file.
    let directory ← fs.walk false maxLinks (fs.startOf path) (above.reverse ++ [""])
    if name = "." ∨ name = ".." then .ok none
    else if maxName < name.utf8ByteSize then .error .nameTooLong
    else .ok (some (directory ++ [name]))

/-! ## §4 Questions -/

/-- The canonical form of an existing path: absolute, without links and idle pieces. -/
def canonicalize? (fs : FileSystem) (path : String) : Option Location :=
  (fs.locate path).toOption

/-- The canonical form of an existing path that may be longer than a path that can be opened: it is
looked for name by name. -/
def canonicalizeLong? (fs : FileSystem) (path : String) : Option Location :=
  if path.toList.contains '\x00' || path.isEmpty then none
  else (fs.walk false maxLinks (fs.startOf path) (Path.pieces path)).toOption

/-- What a path leads to. -/
def nodeOf? (fs : FileSystem) (path : String) : Option Node :=
  (fs.canonicalize? path).bind fs.nodeAt?

/-- Whether a path leads to a directory. -/
def isDirectory (fs : FileSystem) (path : String) : Bool :=
  fs.nodeOf? path == some .directory

/-- The file that a path leads to. -/
def fileOf? (fs : FileSystem) (path : String) : Option RegularFile :=
  match fs.nodeOf? path with
  | some (.file file) => some file
  | _ => none

/-- Whether a path leads to a file. -/
def isFile (fs : FileSystem) (path : String) : Bool :=
  (fs.fileOf? path).isSome

/-- Whether a path leads to a file that may be executed. -/
def isExecutable (fs : FileSystem) (path : String) : Bool :=
  (fs.fileOf? path).any (·.executable)

/-- Whether a path leads somewhere. -/
def hasPath (fs : FileSystem) (path : String) : Bool :=
  (fs.canonicalize? path).isSome

/-- Whether a path leads somewhere, where any trouble on the way but a missing name is an error. -/
def tryHasPath (fs : FileSystem) (path : String) : Except IoError Bool :=
  match fs.locate path with
  | .ok _ => .ok true
  | .error .notFound => .ok false
  | .error e => .error e

/-- The names in the directory that a path leads to. -/
def children (fs : FileSystem) (path : String) : List String :=
  match fs.canonicalize? path with
  | some place => if fs.nodeAt? place = some .directory then fs.names place else []
  | none => []

/-- What running the program at a path does, if it can be started. -/
def run? (fs : FileSystem) (path : String) : Option ProgramRun :=
  ((fs.fileOf? path).filter (·.executable)).bind (·.program)

/-! ## §5 Reading -/

/-- The content of a file. -/
def readBytes (fs : FileSystem) (path : String) : Except IoError ByteArray := do
  match fs.nodeAt? (← fs.locate path) with
  | some (.file file) => .ok file.content
  | some .directory => .error .isDirectory
  | _ => .error .notFound

/-- The content of a file as text. -/
def readText (fs : FileSystem) (path : String) : Except IoError String := do
  match String.fromUTF8? (← fs.readBytes path) with
  | some text => .ok text
  | none => .error .notUtf8

def textOf? (bytes : List UInt8) : Option String :=
  String.fromUTF8? bytes.toByteArray

/-- The content of a file as text, where the path is given in bytes.  No file has a name that is not
text, but the names before such a one are followed. -/
def readTextAt (fs : FileSystem) (path : List UInt8) : Except IoError String :=
  match textOf? path with
  | some path => fs.readText path
  | none =>
    if path.contains 0 then .error .nulInPath
    else if maxPath < path.length then .error .nameTooLong
    else do
      let names := path.splitOn (UInt8.ofNat '/'.toNat)
      let above := (names.takeWhile fun name => (textOf? name).isSome).filterMap textOf?
      let start := if names.head? = some [] then [] else fs.workingDirectory
      let _ ← fs.walk false maxLinks start (above ++ [""])
      if names[above.length]?.any (maxName < ·.length) then .error .nameTooLong
      else .error .notFound

/-! ## §6 Changing -/

/-- Writes a file; a new one cannot be executed. -/
def writeBytes (path : String) (content : ByteArray) : FileAction Unit := do
  let fs ← get
  let here ← fs.locateNew path
  match fs.nodeAt? here with
  | some .directory => throw .isDirectory
  | some (.file file) => set (fs.place here (.file ⟨content, file.executable, none⟩))
  | _ => set (fs.place here (.file ⟨content, false, none⟩))

/-- Writes a text to a file. -/
def writeText (path : String) (text : String) : FileAction Unit :=
  writeBytes path text.toUTF8

/-- Removes a file or a link. -/
def removeFile (path : String) : FileAction Unit := do
  let fs ← get
  match ← fs.locateEntry path with
  | none => throw .isDirectory
  | some here =>
    match fs.nodeAt? here with
    | none => throw .notFound
    | some .directory => throw .isDirectory
    | some _ => set (fs.clear here)

/-- Makes the directory `name` in the directory that the names `above` lead to. -/
def makeDirectoryIn (start : Location) (above : List String) (name : String) :
    FileAction Unit := do
  let fs ← get
  let directory ← fs.walk false maxLinks start (above ++ [""])
  if name = ".." then throw .alreadyExists
  else if maxName < name.utf8ByteSize then throw .nameTooLong
  else
    match fs.nodeAt? (directory ++ [name]) with
    | some _ => throw .alreadyExists
    | none => set (fs.place (directory ++ [name]) .directory)

def leadsToDirectory (fs : FileSystem) (start : Location) (names : List String) : Bool :=
  match fs.walk false maxLinks start names with
  | .ok here => fs.nodeAt? here == some .directory
  | .error _ => false

/-- Forgives a failure to make a directory that is there. -/
def unlessDirectory (start : Location) (names : List String) (e : IoError) : FileAction Unit := do
  let fs ← get
  if fs.leadsToDirectory start names then pure () else throw e

/-- Makes the directory that names lead to, given last first, and the missing ones above it. -/
def makeDirectoriesIn (start : Location) : List String → FileAction Unit
  | [] => pure ()
  | name :: above =>
    -- From the innermost directory outwards: what is there already is not touched.
    tryCatch (makeDirectoryIn start above.reverse name) fun e => do
      if e = .notFound then
        makeDirectoriesIn start above
        tryCatch (makeDirectoryIn start above.reverse name)
          (unlessDirectory start (name :: above).reverse)
      else unlessDirectory start (name :: above).reverse e

/-- Makes a directory and the missing ones above it. -/
def makeDirectories (path : String) : FileAction Unit := do
  if path.isEmpty then pure ()
  else
    let fs ← get
    let pieces ← walkable path
    makeDirectoriesIn (fs.startOf path) (pieces.filter (!Path.isIdle ·)).reverse

end FileSystem

end JdkFinder
