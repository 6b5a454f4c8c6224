import JdkFinder.Json.Reader
import JdkFinder.Proofs.Json.Tokens

/-!
# Written documents are read again

A document in the pretty layout is read as the document that was written (`read?_pretty_append`),
provided that its numbers are natural ones of 64 bits and that it is not nested too deep (`Plain`).

The tokens of a document are named by a function of their own, so that the printer and the reader
are dealt with apart: `writes_prettyAt` says what the printer writes, `readTokens?_tokens` what the
reader makes of it.
-/

namespace JdkFinder.Json

open JsonToken

/-! ## §1 The tokens of a document -/

/-- A document without unreadable parts, whose numbers are natural ones of 64 bits and whose arrays
and objects are nested as deep as given at most. -/
inductive Plain : Nat → Json → Prop where
  | null {depth : Nat} : Plain depth .null
  | bool {depth : Nat} (b : Bool) : Plain depth (.bool b)
  | nat {depth n : Nat} (h : n < Nat.pow 2 64) : Plain depth (.nat n)
  | string {depth : Nat} (s : String) : Plain depth (.string s)
  | array {depth : Nat} {items : List Json} (h : ∀ j ∈ items, Plain depth j) :
      Plain (depth + 1) (.array items)
  | object {depth : Nat} {fields : List (String × Json)}
      (h : ∀ field ∈ fields, Plain depth field.2) : Plain (depth + 1) (.object fields)

theorem plain_text? {depth : Nat} (text : Option String) : Plain depth (text? text) := by
  cases text with
  | none => exact .null
  | some text => exact .string text

theorem readableItems_of_forall {items : List Json} (h : ∀ j ∈ items, j.readable = true) :
    readableItems items = true := by
  induction items with
  | nil => rfl
  | cons j rest ih =>
    rw [readableItems, h j List.mem_cons_self, ih fun k hk => h k (List.mem_cons_of_mem j hk)]
    rfl

theorem readableFields_of_forall {fields : List (String × Json)}
    (h : ∀ field ∈ fields, field.2.readable = true) : readableFields fields = true := by
  induction fields with
  | nil => rfl
  | cons field rest ih =>
    rw [readableFields, h field List.mem_cons_self,
      ih fun f hf => h f (List.mem_cons_of_mem field hf)]
    rfl

/-- Every part of such a document denotes a value. -/
theorem Plain.readable {depth : Nat} {j : Json} (h : Plain depth j) : j.readable = true := by
  induction h with
  | null | bool | nat | string => rfl
  | array _ ih =>
    rw [Json.readable]
    exact readableItems_of_forall ih
  | object _ ih =>
    rw [Json.readable]
    exact readableFields_of_forall ih

mutual

/-- The tokens of a document. -/
def tokens : Json → List JsonToken
  | .null => [.null]
  | .bool b => [.bool b]
  | .number n => [.number (some n)]
  | .string s => [.string (some s)]
  | .array [] => [.beginArray, .endArray]
  | .array (j :: rest) => .beginArray :: (tokens j ++ (itemTokens rest ++ [.endArray]))
  | .object [] => [.beginObject, .endObject]
  | .object ((key, j) :: rest) =>
    .beginObject :: .string (some key) :: .colon ::
      (tokens j ++ (memberTokens rest ++ [.endObject]))
  | .unreadable => []

/-- The tokens of the items after the first. -/
def itemTokens : List Json → List JsonToken
  | [] => []
  | j :: rest => .comma :: (tokens j ++ itemTokens rest)

/-- The tokens of the members after the first. -/
def memberTokens : List (String × Json) → List JsonToken
  | [] => []
  | (key, j) :: rest => .comma :: .string (some key) :: .colon :: (tokens j ++ memberTokens rest)

end

/-! ## §2 Writing -/

section Writing

variable {depth : Nat} {j : Json} {items : List Json} {fields : List (String × Json)}

theorem endsWord_newline (level : Nat) (s : List Char) : EndsWord (newline level ++ s) := by
  intro c hc
  cases hc
  rfl

/-- Each item after the first is written after a comma. -/
theorem writes_prettyItems (level : Nat)
    (h : ∀ j ∈ items, Writes (prettyAt level j) (tokens j)) :
    Writes (prettyItems level items) (itemTokens items) ∧ EndsWord (prettyItems level items) := by
  induction items with
  | nil =>
    rw [prettyItems, itemTokens]
    exact ⟨writes_nil, by simp [EndsWord]⟩
  | cons j rest ih =>
    obtain ⟨hrest, hends⟩ := ih fun k hk => h k (List.mem_cons_of_mem j hk)
    -- What follows an item starts with a comma or a line break, which no word goes on with.
    have hitem := (h j List.mem_cons_self).append hrest hends
    rw [prettyItems, itemTokens, List.cons_append, List.cons_append, List.append_assoc]
    refine ⟨(hitem.newline level).punctuation rfl, ?_⟩
    intro c hc
    cases hc
    rfl

/-- A key and its value, before whatever goes on with the object. -/
theorem writes_member {level : Nat} {more : List Char} {others : List JsonToken} (key : String)
    (hj : Writes (prettyAt level j) (tokens j)) (hmore : Writes more others)
    (hends : EndsWord more) :
    Writes (newline level ++ (quote key ++ ':' :: ' ' :: (prettyAt level j ++ more)))
      (.string (some key) :: .colon :: (tokens j ++ others)) := by
  have hvalue := (hj.append hmore hends).space (show isSpace ' ' = true from rfl)
  exact ((hvalue.punctuation rfl).quote key).newline level

/-- Each member after the first is written after a comma. -/
theorem writes_prettyFields (level : Nat)
    (h : ∀ field ∈ fields, Writes (prettyAt level field.2) (tokens field.2)) :
    Writes (prettyFields level fields) (memberTokens fields) ∧
      EndsWord (prettyFields level fields) := by
  -- Each member is written before the rest, which starts with a comma or a break and so ends its
  -- word.
  induction fields with
  | nil =>
    rw [prettyFields, memberTokens]
    exact ⟨writes_nil, by simp [EndsWord]⟩
  | cons field rest ih =>
    obtain ⟨key, j⟩ := field
    obtain ⟨hrest, hends⟩ := ih fun f hf => h f (List.mem_cons_of_mem _ hf)
    -- The member and the rest are joined where the rest cannot be read as part of the member.
    have hmember := writes_member key (h (key, j) List.mem_cons_self) hrest hends
    rw [prettyFields, memberTokens]
    simp only [List.cons_append, List.append_assoc]
    refine ⟨hmember.punctuation rfl, ?_⟩
    intro c hc
    cases hc
    rfl

theorem writes_array (level : Nat)
    (h : ∀ j ∈ items, ∀ level, Writes (prettyAt level j) (tokens j)) :
    Writes (prettyAt level (.array items)) (tokens (.array items)) := by
  cases items with
  | nil =>
    rw [prettyAt, tokens]
    exact (writes_nil.punctuation rfl).punctuation rfl
  | cons j rest =>
    -- The bracket that closes stands on a line of its own.
    have hclose : Writes (newline level ++ [']']) [.endArray] :=
      (writes_nil.punctuation rfl).newline level
    obtain ⟨hrest, hends⟩ := writes_prettyItems (level + 1) fun k hk =>
      h k (List.mem_cons_of_mem j hk) (level + 1)
    -- The items, the break and the bracket are joined from the end; each of them ends a word.
    have htail := hrest.append hclose (endsWord_newline level _)
    have hitems := (h j List.mem_cons_self (level + 1)).append htail
      (hends.append (endsWord_newline level _))
    rw [prettyAt, tokens]
    simp only [List.cons_append, List.append_assoc]
    exact (hitems.newline (level + 1)).punctuation rfl

theorem writes_object (level : Nat)
    (h : ∀ field ∈ fields, ∀ level, Writes (prettyAt level field.2) (tokens field.2)) :
    Writes (prettyAt level (.object fields)) (tokens (.object fields)) := by
  cases fields with
  | nil =>
    rw [prettyAt, tokens]
    exact (writes_nil.punctuation rfl).punctuation rfl
  | cons field rest =>
    obtain ⟨key, j⟩ := field
    have hclose : Writes (newline level ++ ['\x7d']) [.endObject] :=
      (writes_nil.punctuation rfl).newline level
    obtain ⟨hrest, hends⟩ := writes_prettyFields (level + 1) fun f hf =>
      h f (List.mem_cons_of_mem _ hf) (level + 1)
    have htail := hrest.append hclose (endsWord_newline level _)
    -- The members from the end, as in an array.
    have hmembers := writes_member key (h (key, j) List.mem_cons_self (level + 1)) htail
      (hends.append (endsWord_newline level _))
    rw [prettyAt, tokens]
    simp only [List.cons_append, List.append_assoc]
    exact hmembers.punctuation rfl

/-- A document is written as its tokens. -/
theorem writes_prettyAt (h : Plain depth j) (level : Nat) :
    Writes (prettyAt level j) (tokens j) := by
  -- On the value: every case writes its own tokens, and the nested ones are the lemmas above.
  induction h generalizing level with
  | null =>
    rw [prettyAt, tokens]
    exact writes_word (by decide) (Text.forall_of_all (by decide)) rfl
  | bool b =>
    cases b with
    | false =>
      rw [prettyAt, tokens]
      exact writes_word (by decide) (Text.forall_of_all (by decide)) rfl
    | true =>
      rw [prettyAt, tokens]
      exact writes_word (by decide) (Text.forall_of_all (by decide)) rfl
  | @nat _ n hn =>
    have hwhole : (JsonNumber.ofNat n).isWhole = true := decide_eq_true hn
    have hwritten : writeNumber (.ofNat n) = Text.decimal n := by
      rw [writeNumber, if_pos hwhole]
      rfl
    rw [Json.nat, prettyAt, tokens, hwritten]
    exact writes_decimal hn
  | string s =>
    rw [prettyAt, tokens, ← List.append_nil (quote s)]
    exact writes_nil.quote s
  | array _ ih => exact writes_array level ih
  | object _ ih => exact writes_object level ih

end Writing

/-! ## §3 Reading -/

section Reading

variable {depth : Nat} {j : Json} {items : List Json} {fields : List (String × Json)}
  {frames : List Frame} {rest : List JsonToken}

/-- The tokens of a document are read as the document wherever its nesting leaves room for it. -/
def ReadsBack (depth : Nat) (j : Json) : Prop :=
  ∀ frames rest, frames.length + depth ≤ maxDepth →
    readTokens? (.value frames) (tokens j ++ rest) = readTokens? (.complete j frames) rest

/-- The first item of an array is read like any value. -/
theorem readTokens?_arrayStart (h : Plain depth j) :
    readTokens? (.arrayStart frames) (tokens j ++ rest) =
      readTokens? (.value (.array [] :: frames)) (tokens j ++ rest) := by
  -- The first token of a value does not end an array.
  cases h with
  | null => rw [tokens]; rfl
  | bool => rw [tokens]; rfl
  | nat => rw [Json.nat, tokens]; rfl
  | string => rw [tokens]; rfl
  | @array _ items => cases items <;> rw [tokens] <;> rfl
  | @object _ fields => cases fields <;> rw [tokens] <;> rfl

/-- The rest of an array is read up to its end.  `before` holds the items in front, last first. -/
theorem readTokens?_itemTokens (h : ∀ j ∈ items, ReadsBack depth j)
    (hroom : frames.length + (depth + 1) ≤ maxDepth) (before : List Json) (j : Json) :
    readTokens? (.complete j (.array before :: frames)) (itemTokens items ++ .endArray :: rest) =
      readTokens? (.complete (.array (before.reverse ++ j :: items)) frames) rest := by
  induction items generalizing before j with
  | nil =>
    -- There is room for the array, so it is closed as it is.
    have hnested : nested frames (.array (j :: before).reverse) =
        .array (before.reverse ++ [j]) := by
      rw [nested, if_pos (by omega), List.reverse_cons]
    rw [itemTokens, ← hnested]
    rfl
  | cons k items ih =>
    have hitem := h k List.mem_cons_self (.array (j :: before) :: frames)
      (itemTokens items ++ .endArray :: rest) (by rw [List.length_cons]; omega)
    rw [itemTokens, List.cons_append, List.append_assoc]
    calc
      _ = readTokens? (.value (.array (j :: before) :: frames))
            (tokens k ++ (itemTokens items ++ .endArray :: rest)) := rfl
      _ = _ := hitem
      _ = _ := ih (fun i hi => h i (List.mem_cons_of_mem k hi)) (j :: before) k
      _ = _ := by rw [List.reverse_cons, List.append_assoc]; rfl

/-- The members of an open object whose keys are known. -/
def known (fields : List (String × Json)) : List (Option String × Json) :=
  fields.map fun field => (some field.1, field.2)

theorem ofMembers_known (fields : List (String × Json)) :
    ofMembers (known fields) = .object fields.reverse := by
  have hkeyed (fields : List (String × Json)) : keyed? (known fields) = some fields := by
    induction fields with
    | nil => rfl
    | cons field fields ih =>
      rw [known] at ih ⊢
      rw [List.map_cons, keyed?, ih]
      rfl
  have hreverse : (known fields).reverse = known fields.reverse := List.map_reverse.symm
  rw [ofMembers, hreverse, hkeyed]

/-- The rest of an object is read up to its end.  `before` holds the members in front, last
first. -/
theorem readTokens?_memberTokens (h : ∀ field ∈ fields, ReadsBack depth field.2)
    (hroom : frames.length + (depth + 1) ≤ maxDepth) (before : List (String × Json))
    (key : String) (j : Json) :
    readTokens? (.complete j (.object (known before) (some key) :: frames))
        (memberTokens fields ++ .endObject :: rest) =
      readTokens? (.complete (.object (before.reverse ++ (key, j) :: fields)) frames) rest := by
  -- On the members still to read; those that are read stand in the frame in reverse.
  induction fields generalizing before key j with
  | nil =>
    -- The frame is closed into the object, which the bound on the depth still allows.
    have hnested : nested frames (ofMembers (known ((key, j) :: before))) =
        .object (before.reverse ++ [(key, j)]) := by
      rw [nested, if_pos (by omega), ofMembers_known, List.reverse_cons]
    rw [memberTokens, ← hnested]
    rfl
  | cons field fields ih =>
    obtain ⟨name, k⟩ := field
    have hmember := h (name, k) List.mem_cons_self
      (.object (known ((key, j) :: before)) (some name) :: frames)
      (memberTokens fields ++ .endObject :: rest) (by rw [List.length_cons]; omega)
    rw [memberTokens, List.cons_append, List.cons_append, List.cons_append, List.append_assoc]
    calc
      _ = readTokens? (.value (.object (known ((key, j) :: before)) (some name) :: frames))
            (tokens k ++ (memberTokens fields ++ .endObject :: rest)) := rfl
      _ = _ := hmember
      _ = _ := ih (fun f hf => h f (List.mem_cons_of_mem _ hf)) ((key, j) :: before) name k
      _ = _ := by rw [List.reverse_cons, List.append_assoc]; rfl

theorem readsBack_array (hplain : ∀ j ∈ items, Plain depth j)
    (h : ∀ j ∈ items, ReadsBack depth j) : ReadsBack (depth + 1) (.array items) := by
  intro frames rest hroom
  cases items with
  | nil =>
    have hnested : nested frames (.array []) = .array [] := if_pos (by omega)
    rw [tokens, ← hnested]
    rfl
  | cons j items =>
    have hitem := h j List.mem_cons_self (.array [] :: frames)
      (itemTokens items ++ .endArray :: rest) (by rw [List.length_cons]; omega)
    rw [tokens]
    simp only [List.cons_append, List.append_assoc, List.nil_append]
    -- The reader is taken over the items one by one: the first by its own hypothesis, the rest by
    -- the lemma on a list of items.
    calc
      _ = readTokens? (.arrayStart frames)
            (tokens j ++ (itemTokens items ++ .endArray :: rest)) := rfl
      _ = _ := readTokens?_arrayStart (hplain j List.mem_cons_self)
      _ = _ := hitem
      _ = _ := readTokens?_itemTokens (fun k hk => h k (List.mem_cons_of_mem j hk)) hroom [] j

theorem readsBack_object (h : ∀ field ∈ fields, ReadsBack depth field.2) :
    ReadsBack (depth + 1) (.object fields) := by
  intro frames rest hroom
  cases fields with
  | nil =>
    have hnested : nested frames (.object []) = .object [] := if_pos (by omega)
    rw [tokens, ← hnested]
    rfl
  | cons field fields =>
    obtain ⟨key, j⟩ := field
    have hmember := h (key, j) List.mem_cons_self (.object [] (some key) :: frames)
      (memberTokens fields ++ .endObject :: rest) (by rw [List.length_cons]; omega)
    rw [tokens]
    simp only [List.cons_append, List.append_assoc, List.nil_append]
    calc
      _ = readTokens? (.value (.object [] (some key) :: frames))
            (tokens j ++ (memberTokens fields ++ .endObject :: rest)) := rfl
      _ = _ := hmember
      _ = _ := readTokens?_memberTokens (fun f hf => h f (List.mem_cons_of_mem _ hf)) hroom []
            key j

/-- The tokens of a document are read as the document. -/
theorem readTokens?_tokens (h : Plain depth j) : ReadsBack depth j := by
  induction h with
  | null => intro frames rest _; rw [tokens]; rfl
  | bool => intro frames rest _; rw [tokens]; rfl
  | nat => intro frames rest _; rw [Json.nat, tokens]; rfl
  | string => intro frames rest _; rw [tokens]; rfl
  | array hplain ih => exact readsBack_array hplain ih
  | object _ ih => exact readsBack_object ih

/-- A document in the pretty layout is read again, whatever white space comes behind it. -/
theorem read?_pretty_append (h : Plain maxDepth j) {space : List Char}
    (hspace : ∀ c ∈ space, isSpace c = true) : read? (j.pretty ++ space) = some j := by
  -- The text is the tokens of the document, and these are the document.
  have hlex : lex (j.pretty ++ space) = some (tokens j) := by
    obtain ⟨hnone, hends⟩ := writes_space hspace
    have hwrites := (writes_prettyAt h 0).append hnone hends [] (by simp [EndsWord])
    rw [List.append_nil, List.append_nil] at hwrites
    simpa [lex, pretty, lexFrom, finish?] using hwrites
  have hread := readTokens?_tokens h [] [] (by simp)
  rw [List.append_nil] at hread
  rw [read?, hlex, Option.bind_some, hread]
  rfl

theorem read?_pretty (h : Plain maxDepth j) : read? j.pretty = some j := by
  have hread := @read?_pretty_append j h [] (by simp)
  rwa [List.append_nil] at hread

end Reading

end JdkFinder.Json
