import JdkFinder.Json.Token

/-!
# Reading JSON

Builds the tree of a document from its tokens, one token at a time.  The state between two tokens
holds the arrays and objects that are still open, innermost first.

Arrays and objects may be nested 127 deep; what lies deeper is `unreadable`.
-/

namespace JdkFinder.Json

/-! ## §1 The state between two tokens -/

/-- An array or object that is still open, with its parts so far, last first. -/
inductive Frame where
  | array (items : List Json)
  /-- An object and the key whose value is to come. -/
  | object (fields : List (Option String × Json)) (key : Option String)

/-- What may come next, inside the open arrays and objects. -/
inductive ReadState where
  /-- A value must come. -/
  | value (frames : List Frame)
  /-- An array has just begun. -/
  | arrayStart (frames : List Frame)
  /-- An object has just begun. -/
  | objectStart (frames : List Frame)
  /-- A key must come. -/
  | key (fields : List (Option String × Json)) (frames : List Frame)
  /-- A colon must come. -/
  | colon (fields : List (Option String × Json)) (key : Option String) (frames : List Frame)
  /-- A value is complete. -/
  | complete (j : Json) (frames : List Frame)

/-! ## §2 Complete arrays and objects -/

/-- How deep arrays and objects may be nested. -/
def maxDepth : Nat := 127

/-- An array or object inside `frames`, if it is not nested too deep. -/
def nested (frames : List Frame) (j : Json) : Json :=
  if frames.length < maxDepth then j else .unreadable

/-- The members of an object, if all keys denote texts. -/
def keyed? : List (Option String × Json) → Option (List (String × Json))
  | [] => some []
  | (some key, j) :: rest => (keyed? rest).map ((key, j) :: ·)
  | (none, _) :: _ => none

/-- The object with the given members, last first. -/
def ofMembers (fields : List (Option String × Json)) : Json :=
  match keyed? fields.reverse with
  | some fields => .object fields
  | none => .unreadable

/-! ## §3 Steps -/

/-- The value of a token that is one by itself. -/
def scalar? : JsonToken → Option Json
  | .null => some .null
  | .bool b => some (.bool b)
  | .number (some n) => some (.number n)
  | .number none => some .unreadable
  | .string (some s) => some (.string s)
  | .string none => some .unreadable
  | _ => none

/-- A token where a value must come. -/
def beginValue? (frames : List Frame) : JsonToken → Option ReadState
  | .beginArray => some (.arrayStart frames)
  | .beginObject => some (.objectStart frames)
  | token => (scalar? token).map (.complete · frames)

/-- One token further. -/
def readStep? : ReadState → JsonToken → Option ReadState
  | .value frames, token => beginValue? frames token
  | .arrayStart frames, .endArray => some (.complete (nested frames (.array [])) frames)
  | .arrayStart frames, token => beginValue? (.array [] :: frames) token
  | .objectStart frames, .endObject => some (.complete (nested frames (.object [])) frames)
  | .objectStart frames, .string key => some (.colon [] key frames)
  | .objectStart _, _ => none
  | .key fields frames, .string key => some (.colon fields key frames)
  | .key _ _, _ => none
  | .colon fields key frames, .colon => some (.value (.object fields key :: frames))
  | .colon _ _ _, _ => none
  | .complete j (.array items :: frames), .comma => some (.value (.array (j :: items) :: frames))
  | .complete j (.array items :: frames), .endArray =>
    some (.complete (nested frames (.array (j :: items).reverse)) frames)
  | .complete j (.object fields key :: frames), .comma => some (.key ((key, j) :: fields) frames)
  | .complete j (.object fields key :: frames), .endObject =>
    some (.complete (nested frames (ofMembers ((key, j) :: fields))) frames)
  | .complete _ _, _ => none

/-- Reads the rest of the tokens. -/
def readTokens? (state : ReadState) : List JsonToken → Option Json
  | [] =>
    match state with
    | .complete j [] => some j
    | _ => none
  | token :: rest => (readStep? state token).bind (readTokens? · rest)

/-! ## §4 Documents -/

/-- The document that a text is. -/
def read? (s : List Char) : Option Json :=
  (JsonToken.lex s).bind (readTokens? (.value []))

end JdkFinder.Json
