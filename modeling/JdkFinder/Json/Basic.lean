import JdkFinder.Json.Number

/-!
# JSON documents

The tree of a JSON document, as strict JSON writes it: object members in the written order, keys
possibly repeated, and numbers as they are written.

Some well-formed texts denote no value: a string that holds half of a surrogate pair, a number
beyond the range of double precision, or nesting deeper than a reader is willing to follow.  Such a
part is `unreadable`.  It may stand wherever a reader skips it, and makes every reader fail that
wants its value.
-/

namespace JdkFinder

/-! ## §1 Documents -/

/-- The tree of a JSON document. -/
inductive Json where
  | null
  | bool (b : Bool)
  | number (n : JsonNumber)
  | string (s : String)
  | array (items : List Json)
  | object (fields : List (String × Json))
  /-- A well-formed part that denotes no value. -/
  | unreadable

namespace Json

/-- A natural number. -/
def nat (n : Nat) : Json :=
  .number (.ofNat n)

/-- A text, or `null`. -/
def text? : Option String → Json
  | none => .null
  | some s => .string s

/-! ## §2 Values

A value has no repeated keys: the last member of a name counts, and the members are kept in the
order of their keys. -/

/-- Adds a member to an ordered object unless its key is there already. -/
def insertField (key : String) (j : Json) : List (String × Json) → List (String × Json)
  | [] => [(key, j)]
  | (k, v) :: rest =>
    if key < k then (key, j) :: (k, v) :: rest
    else if key = k then (k, v) :: rest
    else (k, v) :: insertField key j rest

mutual

/-- The document with the members of all objects in the order of their keys. -/
def sorted : Json → Json
  | .null => .null
  | .bool b => .bool b
  | .number n => .number n
  | .string s => .string s
  | .array items => .array (sortedItems items)
  | .object fields => .object (sortedFields fields)
  | .unreadable => .unreadable

/-- The items of an array, each sorted. -/
def sortedItems : List Json → List Json
  | [] => []
  | j :: rest => sorted j :: sortedItems rest

/-- The members of an object, sorted by key and inside. -/
def sortedFields : List (String × Json) → List (String × Json)
  | [] => []
  | (key, j) :: rest => insertField key (sorted j) (sortedFields rest)

end

mutual

/-- Whether every part of a document denotes a value. -/
def readable : Json → Bool
  | .array items => readableItems items
  | .object fields => readableFields fields
  | .unreadable => false
  | _ => true

/-- Whether every item denotes a value. -/
def readableItems : List Json → Bool
  | [] => true
  | j :: rest => readable j && readableItems rest

/-- Whether the value of every member denotes a value. -/
def readableFields : List (String × Json) → Bool
  | [] => true
  | (_, j) :: rest => readable j && readableFields rest

end

/-- The value of a document, if all of its parts have one. -/
def value? (j : Json) : Option Json :=
  if j.readable then some j.sorted else none

end Json

end JdkFinder
