/-!
# Paths

Paths are texts whose components stand between slashes.  Empty components and single points name
the directory they stand in.
-/

namespace JdkFinder.Path

/-- Whether a path starts at the root. -/
def isAbsolute (path : String) : Bool :=
  path.toList.head? == some '/'

/-- A path followed by another one; an absolute one stands for itself. -/
def join (base path : String) : String :=
  if isAbsolute path then path
  else if base.isEmpty || base.toList.getLast? == some '/' then base ++ path
  else base ++ "/" ++ path

/-- The pieces between the slashes. -/
def pieces (path : String) : List String :=
  (path.toList.splitOn '/').map String.ofList

/-- A piece that names no other place. -/
def isIdle (piece : String) : Bool :=
  piece.isEmpty || piece == "."

/-- The components that lead somewhere, after the root or a leading point. -/
def components (path : String) : List String :=
  match pieces path with
  | "." :: rest => "." :: rest.filter (!isIdle ·)
  | all => all.filter (!isIdle ·)

/-- The characters of a path without its last component and the idle pieces around it, if it has a
component. -/
def parent? (path : String) : Option String :=
  if (components path).isEmpty then none
  else
    let chars := dropIdleEnd path.toList
    let front := (chars.reverse.dropWhile (· ≠ '/')).reverse
    some (String.ofList (dropIdleEnd front))
where
  /-- Drops slashes and idle points at the end, but not the root. -/
  dropIdleEnd (s : List Char) : List Char :=
    (go s.reverse).reverse
  /-- The same from the end of a path whose characters are given last first. -/
  go : List Char → List Char
    | ['/'] => ['/']
    | '/' :: rest => go rest
    | ['.'] => ['.']
    | '.' :: '/' :: rest => if rest.isEmpty then ['/'] else go rest
    | rest => rest

/-- The absolute path through the given components. -/
def ofComponents (names : List String) : String :=
  "/" ++ "/".intercalate names

end JdkFinder.Path
