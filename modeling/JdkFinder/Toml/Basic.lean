/-!
# TOML values

The values of a TOML document.  Floats and dates are recognised and checked, but nothing is ever set
to one, so their values are not kept.
-/

namespace JdkFinder.Toml

inductive Value where
  | string (s : String)
  | integer (n : Int)
  | boolean (b : Bool)
  | float
  | dateTime
  | array (items : List Value)
  | table (fields : List (String × Value))

/-- A statement of a document. -/
inductive Statement where
  /-- The header of a table. -/
  | table (path : List String)
  /-- The header of the next table in an array. -/
  | arrayTable (path : List String)
  /-- A value for a key. -/
  | pair (path : List String) (value : Value)

end JdkFinder.Toml
