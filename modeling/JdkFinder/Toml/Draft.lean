import JdkFinder.Toml.Basic

/-!
# Tables under construction

The statements of a document fill one tree of tables.  A table is defined by its header, or by the
keys that lead through it, and not by both: a tree under construction remembers how each of its
tables came to be.
-/

namespace JdkFinder.Toml

/-! ## §1 Drafts -/

/-- A part of a document under construction. -/
inductive Draft where
  | value (v : Value)
  /-- A table.  It is `implicit` until a header defines it, and `dotted` if keys with dots have
  made it. -/
  | table (implicit dotted : Bool) (fields : List (String × Draft))
  /-- An array of tables with headers. -/
  | tables (elements : List (List (String × Draft)))

/-- The fields of a table under construction. -/
abbrev Fields := List (String × Draft)

namespace Fields

/-- Gives a key that is there another value. -/
def replace (fields : Fields) (key : String) (d : Draft) : Fields :=
  fields.map fun field => if field.1 == key then (key, d) else field

/-- Changes the table at the end of a path, and makes the tables on the way to it.  `dotted` says
that the path belongs to a key; such a path leads through no table that a header has defined.  The
change is told whether the table was made by keys with dots. -/
def update (dotted : Bool) (change : Bool → Fields → Option Fields) (isDotted : Bool) :
    List String → Fields → Option Fields
  | [], fields => change isDotted fields
  | key :: path, fields =>
    match fields.lookup key with
    | none =>
      (update dotted change dotted path []).map fun made =>
        fields ++ [(key, .table true dotted made)]
    | some (.value _) => none
    | some (.tables elements) =>
      match elements.getLast? with
      | none => none
      -- A path through an array of tables leads into its last table.
      | some last =>
        (update dotted change false path last).map fun changed =>
          fields.replace key (.tables (elements.dropLast ++ [changed]))
    | some (.table implicit wasDotted inner) =>
      if dotted && !implicit then none
      else
        (update dotted change wasDotted path inner).map fun changed =>
          fields.replace key (.table implicit wasDotted changed)

/-- Adds a key with dots and its value.  The table that it leads to is one made by keys with dots
exactly if there are dots. -/
def insert (fields : Fields) (path : List String) (v : Value) : Option Fields :=
  match path.getLast? with
  | none => none
  | some key =>
    update true (fun isDotted inner =>
      -- A lone key may not add to a table made by dots, nor dots to one with a header.
      if isDotted == path.dropLast.isEmpty then none
      else if (inner.lookup key).isSome then none
      else some (inner ++ [(key, .value v)])) false path.dropLast fields

/-- Defines a table by its header. -/
def define (fields : Fields) (path : List String) : Option Fields :=
  match path.getLast? with
  | none => none
  | some key =>
    update false (fun _ inner =>
      match inner.lookup key with
      | none => some (inner ++ [(key, .table false false [])])
      -- A table that was only passed through may be given its header once.
      | some (.table true false made) => some (inner.replace key (.table false false made))
      | some _ => none) false path.dropLast fields

/-- Adds a table to an array by its header. -/
def defineNext (fields : Fields) (path : List String) : Option Fields :=
  match path.getLast? with
  | none => none
  | some key =>
    update false (fun _ inner =>
      match inner.lookup key with
      | none => some (inner ++ [(key, .tables [[]])])
      | some (.tables elements) => some (inner.replace key (.tables (elements ++ [[]])))
      | some _ => none) false path.dropLast fields

end Fields

/-! ## §2 Finished tables -/

mutual

def Draft.toValue : Draft → Value
  | .value v => v
  | .table _ _ fields => .table (finishFields fields)
  | .tables elements => .array (finishTables elements)

/-- The fields of a finished table. -/
def finishFields : List (String × Draft) → List (String × Value)
  | [] => []
  | (key, d) :: rest => (key, d.toValue) :: finishFields rest

/-- The tables of a finished array. -/
def finishTables : List (List (String × Draft)) → List Value
  | [] => []
  | fields :: rest => .table (finishFields fields) :: finishTables rest

end

/-- The table that keys with their values make, if no two of them contradict each other. -/
def inlineTable? (pairs : List (List String × Value)) : Option Value :=
  (pairs.foldlM (fun fields (path, v) => Fields.insert fields path v) []).map fun fields =>
    .table (finishFields fields)

/-! ## §3 Documents -/

/-- A document under construction: its tables, and the header that was read last. -/
structure DraftDocument where
  fields : Fields
  header : List String

def DraftDocument.add (document : DraftDocument) : Statement → Option DraftDocument
  | .table path => (document.fields.define path).map (⟨·, path⟩)
  | .arrayTable path => (document.fields.defineNext path).map (⟨·, path⟩)
  | .pair path v =>
    (Fields.update false (fun _ fields => fields.insert path v) false document.header
      document.fields).map (⟨·, document.header⟩)

/-- The fields that the statements of a document give. -/
def ofStatements? (statements : List Statement) : Option (List (String × Value)) :=
  (statements.foldlM DraftDocument.add ⟨[], []⟩).map fun document =>
    finishFields document.fields

end JdkFinder.Toml
