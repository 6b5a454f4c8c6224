import JdkFinder.Proofs.Toml.Values

/-!
# Written documents are read back

A document of lines `key = value`, followed by the tables of one array, is read as the statements
that its lines are, and these give the fields back in their order.
-/

namespace JdkFinder.Toml

/-! ## §1 Keys -/

/-- A key that stands as it is. -/
def IsBareKey (key : String) : Prop :=
  key.toList ≠ [] ∧ ∀ c ∈ key.toList, isKeyChar c = true

-- The characters of the key are looked at, not all characters that there are.
instance (key : String) : Decidable (IsBareKey key) :=
  decidable_of_iff ((!key.toList.isEmpty && key.toList.all isKeyChar) = true) (by simp [IsBareKey])

theorem ne_of_isKeyChar {c : Char} (h : isKeyChar c = true) (b : Char)
    (hb : isKeyChar b = false) : c ≠ b := by
  rintro rfl
  rw [h] at hb
  cases hb

theorem isSolid_of_isKeyChar {c : Char} (h : isKeyChar c = true) : isSolid c = true := by
  -- None of the characters that are not solid may stand in a key.
  have hne := ne_of_isKeyChar h
  simp [isSolid, isSpace, hne ' ' (by decide), hne '\t' (by decide), hne '\n' (by decide),
    hne '\r' (by decide), hne '#' (by decide)]

theorem lineString?_eq_none {c : Char} (hdouble : c ≠ '"') (hsingle : c ≠ '\'') (s : List Char) :
    lineString? (c :: s) = none := by
  unfold lineString?
  split
  · rename_i h
    exact absurd (List.cons.inj h).1 hdouble
  · rename_i h
    exact absurd (List.cons.inj h).1 hsingle
  · rfl

section Keys

variable {key : String} {rest : List Char}

theorem exists_key_eq_cons (hkey : IsBareKey key) :
    ∃ c cs, key.toList = c :: cs ∧ isKeyChar c = true := by
  cases h : key.toList with
  | nil => exact absurd h hkey.1
  | cons c cs => exact ⟨c, cs, rfl, hkey.2 c (h ▸ List.mem_cons_self)⟩

theorem simpleKey?_bare (hkey : IsBareKey key) (hrest : ∀ c ∈ rest.head?, isKeyChar c = false) :
    simpleKey? (key.toList ++ rest) = some (key, rest) := by
  obtain ⟨c, cs, htext, hc⟩ := exists_key_eq_cons hkey
  have hne := ne_of_isKeyChar hc
  have hquoted : lineString? (key.toList ++ rest) = none := by
    rw [htext, List.cons_append]
    exact lineString?_eq_none (hne _ (by decide)) (hne _ (by decide)) _
  have hrun : (key.toList ++ rest).takeWhile isKeyChar = key.toList :=
    Text.takeWhile_run hkey.2 hrest
  have hafter : (key.toList ++ rest).dropWhile isKeyChar = rest :=
    Text.dropWhile_run hkey.2 hrest
  have hempty : key.toList.isEmpty = false := by
    simp [htext]
  simp only [simpleKey?, hquoted, hrun, hafter, hempty, Bool.false_eq_true, ↓reduceIte,
    String.ofList_toList]

/-- A bare key is all of a key unless a dot follows. -/
theorem key?_bare (hkey : IsBareKey key) (hrest : ∀ c ∈ rest.head?, isKeyChar c = false)
    (hdot : ∀ c ∈ (skipSpace rest).head?, c ≠ '.') :
    key? (key.toList ++ rest) = some ([key], skipSpace rest) := by
  obtain ⟨c, cs, htext, hc⟩ := exists_key_eq_cons hkey
  have hskip : skipSpace (key.toList ++ rest) = key.toList ++ rest := by
    rw [htext, List.cons_append]
    exact skipSpace_solid (isSolid_of_isKeyChar hc) _
  rw [key?, depthLimit, keyParts?, hskip, simpleKey?_bare hkey hrest]
  simp only [Option.bind_eq_bind, Option.bind_some]
  split
  · rename_i h
    exact absurd rfl (hdot '.' (by simp [h]))
  · rfl

end Keys

/-! ## §2 Statements -/

theorem lineRest?_newline (rest : List Char) : lineRest? ('\n' :: rest) = some rest := by
  simp [lineRest?, skipSpace, isSpace, newline?]

/-- A text that is written for a value: on a line of its own it is read as the value. -/
structure WritesValue (text : List Char) (v : Value) : Prop where
  solid : ∃ c cs, text = c :: cs ∧ isSolid c = true
  read : ∀ rest, value? depthLimit (text ++ '\n' :: rest) = some (v, '\n' :: rest)

theorem writesValue_writeString (s : List Char) :
    WritesValue (writeString s) (.string (String.ofList s)) where
  solid := by
    obtain ⟨quote, text, htext, hquote⟩ := exists_writeString_eq_cons s
    exact ⟨quote, text, htext, by rcases hquote with rfl | rfl <;> decide⟩
  read rest := value?_writeString depthLimit s (by simp [EndsString])

theorem writesValue_writeBoolean (b : Bool) : WritesValue (writeBoolean b) (.boolean b) where
  solid := by cases b <;> exact ⟨_, _, rfl, by decide⟩
  read rest := value?_writeBoolean depthLimit b _

theorem writesValue_decimal {n : Nat} (hn : n < 2 ^ 63) :
    WritesValue (Text.decimal n) (.integer n) where
  solid := by
    obtain ⟨c, cs, htext, hc⟩ := Text.exists_decimal_eq_cons n
    have hkey : isKeyChar c = true := by
      simp [isKeyChar, Char.isAlphanum, hc]
    exact ⟨c, cs, htext, isSolid_of_isKeyChar hkey⟩
  read rest := value?_decimal depthLimit hn rest

theorem writesValue_writeStrings (items : List (List Char)) :
    WritesValue (writeStrings items) (.array (items.map fun s => .string (String.ofList s))) where
  solid := by
    unfold writeStrings
    split <;> exact ⟨_, _, rfl, by decide⟩
  read rest := value?_writeStrings 78 items _

theorem statement?_pairLine {key : String} (hkey : IsBareKey key) {text : List Char} {v : Value}
    (hvalue : WritesValue text v) (rest : List Char) :
    statement? (pairLine key text ++ rest) = some (.pair [key] v, rest) := by
  obtain ⟨c, cs, hkeyText, hc⟩ := exists_key_eq_cons hkey
  obtain ⟨d, ds, htext, hd⟩ := hvalue.solid
  have hline : pairLine key text ++ rest =
      key.toList ++ ' ' :: '=' :: ' ' :: (text ++ '\n' :: rest) := by
    simp [pairLine]
  have hequals : skipSpace (' ' :: '=' :: ' ' :: (text ++ '\n' :: rest)) =
      '=' :: ' ' :: (text ++ '\n' :: rest) := rfl
  have hbare : key? (key.toList ++ ' ' :: '=' :: ' ' :: (text ++ '\n' :: rest)) =
      some ([key], '=' :: ' ' :: (text ++ '\n' :: rest)) := by
    rw [key?_bare hkey (by simp; decide) (by simp [hequals]), hequals]
  have hspace : skipSpace (' ' :: (text ++ '\n' :: rest)) = text ++ '\n' :: rest := by
    rw [htext]
    exact skipSpace_solid hd _
  have hexpect : expect? '=' ('=' :: ' ' :: (text ++ '\n' :: rest)) =
      some (' ' :: (text ++ '\n' :: rest)) := rfl
  have hpair : pair? (value? depthLimit) (pairLine key text ++ rest) =
      some (([key], v), '\n' :: rest) := by
    rw [hline, pair?, hbare]
    simp only [Option.bind_eq_bind, Option.bind_some, hexpect, hspace, hvalue.read]
  have hopen : c ≠ '[' := by
    rintro rfl
    exact absurd hc (by decide)
  -- A key does not start with a bracket, so the line is no header.
  have hstatement : statement? (pairLine key text ++ rest) =
      (pair? (value? depthLimit) (pairLine key text ++ rest)).bind fun p =>
        (lineRest? p.2).map fun rest => (.pair p.1.1 p.1.2, rest) := by
    rw [hline, hkeyText, List.cons_append]
    unfold statement?
    split
    · rename_i h
      exact absurd (List.cons.inj h).1 hopen
    · rename_i h
      exact absurd (List.cons.inj h).1 hopen
    · cases
        pair? (value? depthLimit) (c :: (cs ++ ' ' :: '=' :: ' ' :: (text ++ '\n' :: rest))) with
      | none => rfl
      | some p => cases hrest : lineRest? p.2 <;> simp [hrest]
  rw [hstatement, hpair, Option.bind_some, lineRest?_newline, Option.map_some]

theorem statement?_arrayTable {key : String} (hkey : IsBareKey key) (rest : List Char) :
    statement? ('[' :: '[' :: (key.toList ++ ']' :: ']' :: '\n' :: rest)) =
      some (.arrayTable [key], rest) := by
  have hbare : key? (key.toList ++ ']' :: ']' :: '\n' :: rest) =
      some ([key], ']' :: ']' :: '\n' :: rest) :=
    key?_bare hkey (by simp; decide) (by simp [skipSpace, isSpace])
  have hclose : Text.stripPrefix? [']', ']'] (']' :: ']' :: '\n' :: rest) =
      some ('\n' :: rest) := rfl
  simp only [statement?, hbare, Option.bind_eq_bind, Option.bind_some, hclose, lineRest?_newline]

/-! ## §3 Texts of statements -/

/-- A text in which statements are written. -/
structure Writes (text : List Char) (statements : List Statement) : Prop where
  length_le : statements.length ≤ text.length
  read : ∀ fuel rest,
    statements? (fuel + statements.length) (text ++ rest) =
      (statements? fuel rest).map (statements ++ ·)

namespace Writes

theorem nil : Writes [] [] where
  length_le := Nat.le_refl 0
  read fuel rest := by simp

theorem append {s t : List Char} {first second : List Statement} (hs : Writes s first)
    (ht : Writes t second) : Writes (s ++ t) (first ++ second) where
  length_le := by
    have hfirst := hs.length_le
    have hsecond := ht.length_le
    simp only [List.length_append]
    omega
  read fuel rest := by
    -- The first text leaves the fuel that the second one needs.
    have hfuel : fuel + (first ++ second).length = fuel + second.length + first.length := by
      rw [List.length_append]
      omega
    rw [hfuel, List.append_assoc, hs.read, ht.read, Option.map_map]
    congr 1
    funext rest
    simp

theorem flatMap {α : Type} {text : α → List Char} {statements : α → List Statement}
    (h : ∀ a, Writes (text a) (statements a)) (items : List α) :
    Writes (items.flatMap text) (items.flatMap statements) := by
  induction items with
  | nil => exact nil
  | cons a items ih => exact (h a).append ih

/-- A text that starts a statement on its first or second line. -/
theorem single {text : List Char} {statement : Statement} (htext : text ≠ [])
    (h : ∀ rest, ∃ c cs, skipTrivia false (text ++ rest) = c :: cs ∧
      statement? (c :: cs) = some (statement, rest)) : Writes text [statement] where
  length_le := List.length_pos_iff.mpr htext
  read fuel rest := by
    obtain ⟨c, cs, hskip, hread⟩ := h rest
    simp only [List.length_singleton, statements?, hskip, hread, Option.bind_eq_bind,
      Option.bind_some]
    rfl

theorem pairLine {key : String} (hkey : IsBareKey key) {text : List Char} {v : Value}
    (hvalue : WritesValue text v) : Writes (pairLine key text) [.pair [key] v] := by
  obtain ⟨c, cs, htext, hc⟩ := exists_key_eq_cons hkey
  have hline : ∃ ds, Toml.pairLine key text = c :: ds := by
    simp [Toml.pairLine, htext]
  obtain ⟨ds, hds⟩ := hline
  apply single (by simp [hds])
  intro rest
  refine ⟨c, ds ++ rest, ?_, ?_⟩
  · rw [hds]
    exact skipTrivia_solid (isSolid_of_isKeyChar hc) _
  · have hread := statement?_pairLine hkey hvalue rest
    rwa [hds] at hread

theorem arrayTableHeader {key : String} (hkey : IsBareKey key) :
    Writes (arrayTableHeader key) [.arrayTable [key]] := by
  apply single (by simp [Toml.arrayTableHeader])
  intro rest
  refine ⟨'[', '[' :: (key.toList ++ ']' :: ']' :: '\n' :: rest), ?_, ?_⟩
  · have hheader : Toml.arrayTableHeader key ++ rest =
        '\n' :: '[' :: '[' :: (key.toList ++ ']' :: ']' :: '\n' :: rest) := by
      simp [Toml.arrayTableHeader]
    rw [hheader, skipTrivia_newline]
    exact skipTrivia_solid (by decide) _
  · exact statement?_arrayTable hkey rest

/-- Such a text is read as its statements. -/
theorem statements?_eq {text : List Char} {statements : List Statement}
    (h : Writes text statements) : statements? (text.length + 1) text = some statements := by
  obtain ⟨k, hk⟩ : ∃ k, text.length + 1 = k + 1 + statements.length :=
    ⟨text.length - statements.length, by have := h.length_le; omega⟩
  have hread := h.read (k + 1) []
  rw [List.append_nil, ← hk] at hread
  rw [hread]
  simp [statements?, skipTrivia]

end Writes

/-! ## §4 Drafts -/

/-- Fields whose values are known. -/
abbrev Record := List (String × Value)

namespace Record

/-- The statements that fill a table with the fields of a record. -/
def statements (record : Record) : List Statement :=
  record.map fun (key, v) => .pair [key] v

/-- A table that holds the fields of a record. -/
def draft (record : Record) : Fields :=
  record.map fun (key, v) => (key, .value v)

theorem draft_append (first second : Record) :
    (first ++ second).draft = first.draft ++ second.draft :=
  List.map_append

theorem finishFields_draft (record : Record) : finishFields record.draft = record := by
  induction record with
  | nil => rfl
  | cons field record ih =>
    obtain ⟨key, v⟩ := field
    have hrest : finishFields (draft record) = record := ih
    simp only [draft, List.map_cons, finishFields, Draft.toValue] at hrest ⊢
    rw [hrest]

theorem lookup_eq_none {record : Record} {key : String} (h : key ∉ record.map Prod.fst) :
    record.lookup key = none := by
  rw [List.lookup_eq_none_iff]
  rintro ⟨other, v⟩ hfield
  simp only [bne_iff_ne, ne_eq]
  rintro rfl
  exact h (List.mem_map.mpr ⟨_, hfield, rfl⟩)

theorem lookup_of_mem {record : Record} (hkeys : (record.map Prod.fst).Nodup) {key : String}
    {v : Value} (h : (key, v) ∈ record) : record.lookup key = some v := by
  induction record with
  | nil => cases h
  | cons field record ih =>
    obtain ⟨other, w⟩ := field
    obtain ⟨hnew, hrest⟩ := List.nodup_cons.mp hkeys
    -- The field is the first one, or its key differs from that of the first.
    rcases List.mem_cons.mp h with heq | hmem
    · obtain ⟨rfl, rfl⟩ := Prod.mk.inj heq
      exact List.lookup_cons_self
    · have hne : (key == other) = false := by
        rw [beq_eq_false_iff_ne]
        rintro rfl
        exact hnew (List.mem_map.mpr ⟨_, hmem, rfl⟩)
      rw [List.lookup_cons, hne]
      exact ih hrest hmem

theorem lookup_draft (record : Record) (key : String) :
    record.draft.lookup key = (record.lookup key).map .value := by
  induction record with
  | nil => rfl
  | cons field record ih =>
    obtain ⟨other, v⟩ := field
    have hrest : List.lookup key (draft record) = (record.lookup key).map .value := ih
    simp only [draft, List.map_cons, List.lookup_cons] at hrest ⊢
    cases key == other with
    | true => rfl
    | false => exact hrest

/-- The draft of a record has no place yet for a key that is new. -/
theorem lookup_draft_eq_none {record : Record} {key : String} (h : key ∉ record.map Prod.fst) :
    record.draft.lookup key = none := by
  rw [lookup_draft, lookup_eq_none h, Option.map_none]

/-- Of fields with different keys none has the key of an earlier one. -/
theorem not_mem_of_nodup {fields record : Record} {key : String} {v : Value}
    (h : ((fields ++ (key, v) :: record).map Prod.fst).Nodup) : key ∉ fields.map Prod.fst := by
  intro hkey
  rw [List.map_append, List.nodup_append] at h
  exact h.2.2 key hkey key List.mem_cons_self rfl

end Record

theorem insert_new {fields : Fields} {key : String} (h : fields.lookup key = none) (v : Value) :
    fields.insert [key] v = some (fields ++ [(key, .value v)]) := by
  simp [Fields.insert, Fields.update, h]

theorem add_top {fields : Fields} {key : String} (h : fields.lookup key = none) (v : Value) :
    DraftDocument.add ⟨fields, []⟩ (.pair [key] v) = some ⟨fields ++ [(key, .value v)], []⟩ := by
  simp [DraftDocument.add, Fields.update, insert_new h]

/-- The fields before the first header. -/
theorem foldlM_top (fields record : Record) (h : ((fields ++ record).map Prod.fst).Nodup) :
    record.statements.foldlM DraftDocument.add ⟨fields.draft, []⟩ =
      some ⟨(fields ++ record).draft, []⟩ := by
  -- The fields that have been added grow at their end, so they are part of the induction.
  induction record generalizing fields with
  | nil => simp [Record.statements]
  | cons field record ih =>
    obtain ⟨key, v⟩ := field
    have hnew := Record.lookup_draft_eq_none (Record.not_mem_of_nodup h)
    have hadd : DraftDocument.add ⟨fields.draft, []⟩ (.pair [key] v) =
        some ⟨(fields ++ [(key, v)]).draft, []⟩ := by
      rw [add_top hnew, Record.draft_append]
      rfl
    have hrest := ih (fields ++ [(key, v)]) (by simpa using h)
    simp only [Record.statements, List.map_cons, List.foldlM_cons, hadd] at hrest ⊢
    simpa using hrest

section Tables

variable {top : Fields} {name : String}

/-- Fields with an array of tables at their end. -/
def withTables (top : Fields) (name : String) (elements : List Fields) : Fields :=
  top ++ [(name, .tables elements)]

theorem lookup_withTables (h : top.lookup name = none) (elements : List Fields) :
    (withTables top name elements).lookup name = some (.tables elements) := by
  simp [withTables, List.lookup_append, h]

theorem replace_withTables (h : top.lookup name = none) (elements others : List Fields) :
    (withTables top name elements).replace name (.tables others) = withTables top name others := by
  have hkeep : Fields.replace top name (.tables others) = top := by
    rw [List.lookup_eq_none_iff] at h
    have hsame : ∀ field ∈ top,
        (if field.1 == name then (name, Draft.tables others) else field) = field := by
      intro field hfield
      have hne := h field hfield
      rw [if_neg]
      simp only [bne_iff_ne, ne_eq] at hne
      simpa using fun heq => hne heq.symm
    rw [Fields.replace, List.map_congr_left hsame, List.map_id']
  simp only [Fields.replace, withTables, List.map_append] at hkeep ⊢
  rw [hkeep]
  simp

/-- The first header of an array of tables. -/
theorem add_firstTable (h : top.lookup name = none) (header : List String) :
    DraftDocument.add ⟨top, header⟩ (.arrayTable [name]) =
      some ⟨withTables top name [[]], [name]⟩ := by
  simp [DraftDocument.add, Fields.defineNext, Fields.update, h, withTables]

/-- Another header of an array of tables. -/
theorem add_nextTable (h : top.lookup name = none) (elements : List Fields)
    (header : List String) :
    DraftDocument.add ⟨withTables top name elements, header⟩ (.arrayTable [name]) =
      some ⟨withTables top name (elements ++ [[]]), [name]⟩ := by
  simp [DraftDocument.add, Fields.defineNext, Fields.update, lookup_withTables h,
    replace_withTables h]

/-- A field of the last table. -/
theorem add_field (h : top.lookup name = none) (elements : List Fields) {last : Fields}
    {key : String} (hkey : last.lookup key = none) (v : Value) :
    DraftDocument.add ⟨withTables top name (elements ++ [last]), [name]⟩ (.pair [key] v) =
      some ⟨withTables top name (elements ++ [last ++ [(key, .value v)]]), [name]⟩ := by
  simp [DraftDocument.add, Fields.update, lookup_withTables h, insert_new hkey,
    replace_withTables h]

/-- The fields after a header. -/
theorem foldlM_fields (h : top.lookup name = none) (elements : List Fields)
    (fields record : Record) (hkeys : ((fields ++ record).map Prod.fst).Nodup) :
    record.statements.foldlM DraftDocument.add
        ⟨withTables top name (elements ++ [fields.draft]), [name]⟩ =
      some ⟨withTables top name (elements ++ [(fields ++ record).draft]), [name]⟩ := by
  -- On the fields still to add; those that are added form the table that is being filled.
  induction record generalizing fields with
  | nil => simp [Record.statements]
  | cons field record ih =>
    obtain ⟨key, v⟩ := field
    have hnew := Record.lookup_draft_eq_none (Record.not_mem_of_nodup hkeys)
    have hadd : DraftDocument.add ⟨withTables top name (elements ++ [fields.draft]), [name]⟩
        (.pair [key] v) =
          some ⟨withTables top name (elements ++ [(fields ++ [(key, v)]).draft]), [name]⟩ := by
      rw [add_field h elements hnew, Record.draft_append]
      rfl
    have hrest := ih (fields ++ [(key, v)]) (by simpa using hkeys)
    simp only [Record.statements, List.map_cons, List.foldlM_cons, hadd] at hrest ⊢
    simpa using hrest

/-- The statements of a table in an array. -/
def tableStatements (name : String) (record : Record) : List Statement :=
  .arrayTable [name] :: record.statements

/-- Further tables of an array. -/
theorem foldlM_tables (h : top.lookup name = none) (elements : List Fields)
    (header : List String) (records : List Record)
    (hkeys : ∀ record ∈ records, (record.map Prod.fst).Nodup) :
    ∃ header', (records.flatMap (tableStatements name)).foldlM DraftDocument.add
        ⟨withTables top name elements, header⟩ =
      some ⟨withTables top name (elements ++ records.map Record.draft), header'⟩ := by
  -- Each header makes an empty table at the end of the array, which its fields then fill.
  induction records generalizing elements header with
  | nil => exact ⟨header, by simp⟩
  | cons record records ih =>
    have hrecord := foldlM_fields h elements [] record (hkeys record List.mem_cons_self)
    obtain ⟨header', hrest⟩ := ih (elements ++ [record.draft]) [name]
      fun other hother => hkeys other (List.mem_cons_of_mem record hother)
    refine ⟨header', ?_⟩
    have hdraft : Record.draft [] = [] := rfl
    rw [hdraft, List.nil_append] at hrecord
    simp only [List.flatMap_cons, tableStatements, List.cons_append, List.foldlM_cons,
      add_nextTable h, List.foldlM_append] at hrest ⊢
    simp only [Option.bind_eq_bind, Option.bind_some, hrecord, hrest]
    simp

end Tables

/-! ## §5 Documents -/

theorem finishFields_append (first second : Fields) :
    finishFields (first ++ second) = finishFields first ++ finishFields second := by
  induction first with
  | nil => rfl
  | cons field first ih =>
    simp only [List.cons_append, finishFields, ih]

theorem finishTables_drafts (records : List Record) :
    finishTables (records.map Record.draft) = records.map .table := by
  induction records with
  | nil => rfl
  | cons record records ih =>
    simp only [List.map_cons, finishTables, Record.finishFields_draft, ih]

theorem ofStatements?_record {record : Record} (h : (record.map Prod.fst).Nodup) :
    ofStatements? record.statements = some record := by
  have htop := foldlM_top [] record h
  have hempty : Record.draft [] = [] := rfl
  rw [hempty, List.nil_append] at htop
  simp only [ofStatements?, htop, Option.map_some, Record.finishFields_draft]

/-- A record and an array of tables after it. -/
theorem ofStatements?_tables {record : Record} (h : (record.map Prod.fst).Nodup) {name : String}
    (hname : name ∉ record.map Prod.fst) {records : List Record} (hsome : records ≠ [])
    (hkeys : ∀ record ∈ records, (record.map Prod.fst).Nodup) :
    ofStatements? (record.statements ++ records.flatMap (tableStatements name)) =
      some (record ++ [(name, .array (records.map .table))]) := by
  have htop := foldlM_top [] record h
  have hnew : record.draft.lookup name = none := Record.lookup_draft_eq_none hname
  have hempty : Record.draft [] = [] := rfl
  rw [hempty, List.nil_append] at htop
  -- The first header makes the array, so its table is taken by itself.
  obtain ⟨first, records, rfl⟩ := List.exists_cons_of_ne_nil hsome
  have hfirst := foldlM_fields hnew [] [] first (hkeys first List.mem_cons_self)
  obtain ⟨header, hrest⟩ := foldlM_tables hnew [first.draft] [name] records
    fun other hother => hkeys other (List.mem_cons_of_mem first hother)
  rw [hempty, List.nil_append, List.nil_append, List.nil_append] at hfirst
  have hall : (record.statements ++ (first :: records).flatMap (tableStatements name)).foldlM
      DraftDocument.add ⟨[], []⟩ =
        some ⟨withTables record.draft name ((first :: records).map Record.draft), header⟩ := by
    rw [List.foldlM_append, htop, List.flatMap_cons, tableStatements]
    simp only [List.cons_append, List.foldlM_cons, List.foldlM_append, Option.bind_eq_bind,
      Option.bind_some, add_firstTable hnew, hfirst, hrest]
    rfl
  simp only [ofStatements?, hall, Option.map_some, withTables, finishFields_append,
    Record.finishFields_draft, finishFields, Draft.toValue, finishTables_drafts]

/-- A text is read as the document that its statements make. -/
theorem read?_of_writes {text : List Char} {statements : List Statement}
    (h : Writes text statements) (hmark : text.head? ≠ some '\uFEFF') :
    read? (String.ofList text) = ofStatements? statements := by
  have hskip : skipMark text = text := by
    unfold skipMark
    split
    · exact absurd rfl hmark
    · rfl
  simp only [read?, String.toList_ofList, hskip, h.statements?_eq, Option.bind_some]

end JdkFinder.Toml
