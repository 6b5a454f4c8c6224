import JdkFinder.Json.Decode
import Mathlib.Data.List.Forall2
import Mathlib.Data.List.Nodup

/-!
# What a record describes

A record has a field if it is an object with exactly one member of that name, or an array that is
long enough (`Json.Given`); an object without such a member and a shorter array have it not
(`Json.Absent`).  An object with two members of one field has it neither way, and describes nothing.

The readers of records read exactly that (`Json.slots?_eq_some_iff`).
-/

namespace JdkFinder.Json

/-! ## §1 Lists of values -/

theorem mapM_eq_some_iff_forall₂ {α β : Type} {f : α → Option β} {items : List α}
    {values : List β} :
    items.mapM f = some values ↔
      List.Forall₂ (fun item value => f item = some value) items values := by
  induction items generalizing values with
  | nil =>
    rw [List.mapM_nil, List.forall₂_nil_left_iff, eq_comm]
    exact Option.some_inj
  | cons item items ih =>
    rw [List.mapM_cons, List.forall₂_cons_left_iff]
    simp only [Option.bind_eq_bind, Option.bind_eq_some_iff, Option.pure_def, Option.some_inj, ih]
    constructor
    · rintro ⟨value, hvalue, rest, hrest, rfl⟩
      exact ⟨value, rest, hvalue, hrest, rfl⟩
    · rintro ⟨value, rest, hvalue, hrest, rfl⟩
      exact ⟨value, hvalue, rest, hrest, rfl⟩

theorem asText?_eq_some_iff {j : Json} {text : String} :
    asText? j = some text ↔ j = .string text := by
  cases j <;> simp [asText?]

theorem asWord64?_eq_some_iff {j : Json} {word : UInt64} :
    asWord64? j = some word ↔ ∃ n : JsonNumber, j = .number n ∧ n.toNat? = some word.toNat := by
  cases j with
  | number n =>
    simp only [asWord64?, Option.map_eq_some_iff, Option.filter_eq_some_iff, decide_eq_true_eq,
      Json.number.injEq, exists_eq_left']
    constructor
    · rintro ⟨value, ⟨hvalue, hsmall⟩, rfl⟩
      have hword : (UInt64.ofNat value).toNat = value := UInt64.toNat_ofNat_of_lt' hsmall
      rw [hvalue, hword]
    · intro hword
      exact ⟨word.toNat, ⟨hword, word.toNat_lt⟩, UInt64.ofNat_toNat⟩
  | _ => simp [asWord64?]

theorem asList?_eq_some_iff {α : Type} {decode : Json → Option α} {j : Json} {values : List α} :
    asList? decode j = some values ↔ ∃ items, j = .array items ∧
      List.Forall₂ (fun item value => decode item = some value) items values := by
  cases j with
  | array items =>
    simp only [asList?, mapM_eq_some_iff_forall₂, Json.array.injEq, exists_eq_left']
  | _ => simp [asList?]

/-- A text that may be `null`. -/
theorem asOption?_asText?_eq_some_iff {j : Json} {text : Option String} :
    asOption? asText? j = some text ↔ j = text? text := by
  cases text with
  | none => cases j <;> simp [asOption?, asText?, text?]
  | some text => cases j <;> simp [asOption?, asText?, text?]

/-! ## §2 Fields -/

/-- What can be a record with some number of fields. -/
inductive IsRecord (count : Nat) : Json → Prop where
  | object (fields : List (String × Json)) : IsRecord count (.object fields)
  | array {items : List Json} (h : items.length ≤ count) : IsRecord count (.array items)

/-- A record has a field, which has these names and this number, with a value. -/
inductive Given (names : List String) (index : Nat) : Json → Json → Prop where
  | member {front back : List (String × Json)} {key : String} {value : Json} (hkey : key ∈ names)
      (hothers : ∀ field ∈ front ++ back, field.1 ∉ names) :
      Given names index (.object (front ++ (key, value) :: back)) value
  | item {items : List Json} {value : Json} (h : items[index]? = some value) :
      Given names index (.array items) value

/-- A record does not have a field. -/
inductive Absent (names : List String) (index : Nat) : Json → Prop where
  | members {fields : List (String × Json)} (h : ∀ field ∈ fields, field.1 ∉ names) :
      Absent names index (.object fields)
  | items {items : List Json} (h : items.length ≤ index) : Absent names index (.array items)

/-- What a record holds in the place of a field. -/
inductive HasSlot (names : List String) (index : Nat) (j : Json) : Slot → Prop where
  | given {value : Json} (h : Given names index j value) : HasSlot names index j (.given value)
  | missing {fields : List (String × Json)} (hobject : j = .object fields)
      (h : Absent names index j) : HasSlot names index j .missing
  | cutOff {items : List Json} (harray : j = .array items) (h : Absent names index j) :
      HasSlot names index j .cutOff

section Fields

variable {names : List String} {index : Nat} {j : Json} {slot : Slot}

/-- The members of one field, picked from an object. -/
theorem filter_names_eq_nil_iff {fields : List (String × Json)} :
    (fields.filter fun field => names.contains field.1) = [] ↔
      ∀ field ∈ fields, field.1 ∉ names := by
  simp [List.filter_eq_nil_iff]

theorem given_object_iff {fields : List (String × Json)} {value : Json} :
    Given names index (.object fields) value ↔
      ∃ key, (fields.filter fun field => names.contains field.1) = [(key, value)] := by
  constructor
  · -- One member has a known name: what stands before and after it is filtered away.
    rintro ⟨hkey, hothers⟩
    rename_i front back key
    have hfront := fun field hfield => hothers field (List.mem_append_left back hfield)
    have hback := fun field hfield => hothers field (List.mem_append_right front hfield)
    refine ⟨key, ?_⟩
    have hcons : ((key, value) :: back).filter (fun field => names.contains field.1) =
        [(key, value)] := by
      rw [List.filter_cons, if_pos (List.contains_iff_mem.mpr hkey),
        filter_names_eq_nil_iff.mpr hback]
    rw [List.filter_append, filter_names_eq_nil_iff.mpr hfront, hcons]
    rfl
  · rintro ⟨key, hfilter⟩
    obtain ⟨front, back, rfl, hfront, hkey, hback⟩ := List.filter_eq_cons_iff.mp hfilter
    -- The filter leaves this member alone, so no other has one of the names.
    refine .member (List.contains_iff_mem.mp hkey) fun field hfield => ?_
    rcases List.mem_append.mp hfield with hmem | hmem
    · exact fun hname => hfront field hmem (List.contains_iff_mem.mpr hname)
    · exact filter_names_eq_nil_iff.mp hback field hmem

/-- A field of an object is looked for by its names. -/
theorem slotIn?_eq_some_iff {fields : List (String × Json)} :
    slotIn? fields names = some slot ↔ HasSlot names index (.object fields) slot := by
  unfold slotIn?
  constructor
  · intro h
    -- No member, one member, or several: several fill no slot.
    split at h
    · rename_i hnil
      cases h
      exact .missing rfl (.members (filter_names_eq_nil_iff.mp hnil))
    · rename_i key value hsingle
      cases h
      exact .given (given_object_iff.mpr ⟨key, hsingle⟩)
    · cases h
  · intro h
    cases h with
    | given hgiven =>
      obtain ⟨key, hsingle⟩ := given_object_iff.mp hgiven
      rw [hsingle]
    | missing _ habsent =>
      cases habsent with
      | members hmembers => rw [filter_names_eq_nil_iff.mpr hmembers]
    | cutOff harray => cases harray

/-- A field of an array is looked for by its number. -/
theorem hasSlot_array_iff {items : List Json} :
    HasSlot names index (.array items) slot ↔
      slot = (items[index]?.map Slot.given).getD .cutOff := by
  constructor
  · intro h
    -- A slot of an array is given by its place, and cut off where the array is too short.
    cases h with
    | given hgiven =>
      cases hgiven with
      | item hitem =>
        rw [hitem]
        rfl
    | missing hobject => cases hobject
    | cutOff _ habsent =>
      cases habsent with
      | items hshort =>
        rw [List.getElem?_eq_none hshort]
        rfl
  · rintro rfl
    cases hitem : items[index]? with
    | none => exact .cutOff rfl (.items (List.getElem?_eq_none_iff.mp hitem))
    | some value => exact .given (.item hitem)

/-- The places of the fields of an array, one by one. -/
theorem map_zipIdx_items {known : List (List String)} {items : List Json}
    (h : items.length ≤ known.length) :
    (known.zipIdx.map fun field => (items[field.2]?.map Slot.given).getD .cutOff) =
      items.map .given ++ List.replicate (known.length - items.length) .cutOff := by
  apply List.ext_getElem
  · simp only [List.length_map, List.length_zipIdx, List.length_append, List.length_replicate]
    omega
  · intro i hi hi'
    by_cases hitem : i < items.length
    · simp [hitem]
    · simp [List.getElem_append, hitem]

/-- The readers of records find in the place of each field what the record holds there. -/
theorem slots?_eq_some_iff {known : List (List String)} {slots : List Slot} :
    slots? known j = some slots ↔ IsRecord known.length j ∧
      List.Forall₂ (fun field slot => HasSlot field.1 field.2 j slot) known.zipIdx slots := by
  cases j with
  | object fields =>
    -- In an object each slot is looked up by its names.
    have hfields : List.Forall₂ (fun field slot => HasSlot field.1 field.2 (.object fields) slot)
        known.zipIdx slots ↔
          List.Forall₂ (fun names slot => slotIn? fields names = some slot)
            (known.zipIdx.map Prod.fst) slots := by
      rw [List.forall₂_map_left_iff]
      simp only [← slotIn?_eq_some_iff]
    rw [slots?, mapM_eq_some_iff_forall₂, hfields, List.zipIdx_map_fst]
    exact ⟨fun h => ⟨.object fields, h⟩, fun h => h.2⟩
  | array items =>
    -- In an array each slot is looked up by its position.
    have hitems : List.Forall₂ (fun field slot => HasSlot field.1 field.2 (.array items) slot)
        known.zipIdx slots ↔
          known.zipIdx.map (fun field => (items[field.2]?.map Slot.given).getD .cutOff) =
            slots := by
      rw [← List.forall₂_eq_eq_eq, List.forall₂_map_left_iff]
      simp only [hasSlot_array_iff, eq_comm]
    rw [slots?, hitems]
    split
    · rename_i hlength
      rw [map_zipIdx_items hlength, Option.some_inj]
      exact ⟨fun h => ⟨.array hlength, h⟩, fun h => h.2⟩
    · rename_i hlength
      refine ⟨fun h => absurd h (by simp), ?_⟩
      rintro ⟨hrecord, -⟩
      cases hrecord with
      | array hshort => exact absurd hshort hlength
  | _ =>
    -- Nothing else is a record.
    refine ⟨fun h => absurd h (by simp [slots?]), ?_⟩
    rintro ⟨hrecord, -⟩
    cases hrecord

/-! ## §3 Reading a field -/

variable {α : Type} {decode : Json → Option α} {value : α}

/-- A field that must be there is there with a value. -/
theorem required?_iff :
    (∃ slot, HasSlot names index j slot ∧ slot.required? decode = some value) ↔
      ∃ v, Given names index j v ∧ decode v = some value := by
  constructor
  · rintro ⟨slot, hslot, hvalue⟩
    cases hslot with
    | given hgiven => exact ⟨_, hgiven, hvalue⟩
    | missing => cases hvalue
    | cutOff => cases hvalue
  · rintro ⟨v, hgiven, hvalue⟩
    exact ⟨_, .given hgiven, hvalue⟩

/-- A field that may be left out has its value or the one that stands in for it. -/
theorem default?_iff {standIn : α} :
    (∃ slot, HasSlot names index j slot ∧ slot.default? standIn decode = some value) ↔
      (∃ v, Given names index j v ∧ decode v = some value) ∨
        Absent names index j ∧ value = standIn := by
  constructor
  · rintro ⟨slot, hslot, hvalue⟩
    -- A part that is left out, in either form, is replaced by the value that stands in for it.
    cases hslot with
    | given hgiven => exact .inl ⟨_, hgiven, hvalue⟩
    | missing _ habsent => exact .inr ⟨habsent, (Option.some.inj hvalue).symm⟩
    | cutOff _ habsent => exact .inr ⟨habsent, (Option.some.inj hvalue).symm⟩
  · rintro (⟨v, hgiven, hvalue⟩ | ⟨habsent, rfl⟩)
    · exact ⟨_, .given hgiven, hvalue⟩
    · cases habsent with
      | members hmembers => exact ⟨_, .missing rfl (.members hmembers), rfl⟩
      | items hitems => exact ⟨_, .cutOff rfl (.items hitems), rfl⟩

theorem required?_asText?_iff {text : String} :
    (∃ slot, HasSlot names index j slot ∧ slot.required? asText? = some text) ↔
      Given names index j (.string text) := by
  rw [required?_iff]
  simp only [asText?_eq_some_iff, exists_eq_right]

theorem default?_asText?_iff {text standIn : String} :
    (∃ slot, HasSlot names index j slot ∧ slot.default? standIn asText? = some text) ↔
      Given names index j (.string text) ∨ Absent names index j ∧ text = standIn := by
  rw [default?_iff]
  simp only [asText?_eq_some_iff, exists_eq_right]

theorem default?_asOption?_iff {text : Option String} :
    (∃ slot, HasSlot names index j slot ∧
        slot.default? none (asOption? asText?) = some text) ↔
      Given names index j (text? text) ∨ Absent names index j ∧ text = none := by
  rw [default?_iff]
  simp only [asOption?_asText?_eq_some_iff, exists_eq_right]

theorem default?_asWord64?_iff {word standIn : UInt64} :
    (∃ slot, HasSlot names index j slot ∧ slot.default? standIn asWord64? = some word) ↔
      (∃ n : JsonNumber, Given names index j (.number n) ∧ n.toNat? = some word.toNat) ∨
        Absent names index j ∧ word = standIn := by
  rw [default?_iff]
  apply or_congr_left
  constructor
  · rintro ⟨v, hgiven, hword⟩
    obtain ⟨n, rfl, hn⟩ := asWord64?_eq_some_iff.mp hword
    exact ⟨n, hgiven, hn⟩
  · rintro ⟨n, hgiven, hn⟩
    exact ⟨.number n, hgiven, asWord64?_eq_some_iff.mpr ⟨n, rfl, hn⟩⟩

theorem default?_asList?_iff {values : List α} :
    (∃ slot, HasSlot names index j slot ∧ slot.default? [] (asList? decode) = some values) ↔
      (∃ items, Given names index j (.array items) ∧
        List.Forall₂ (fun item value => decode item = some value) items values) ∨
        Absent names index j ∧ values = [] := by
  rw [default?_iff]
  apply or_congr_left
  constructor
  · rintro ⟨v, hgiven, hvalues⟩
    obtain ⟨items, rfl, hitems⟩ := asList?_eq_some_iff.mp hvalues
    exact ⟨items, hgiven, hitems⟩
  · rintro ⟨items, hgiven, hitems⟩
    exact ⟨.array items, hgiven, asList?_eq_some_iff.mpr ⟨items, rfl, hitems⟩⟩

end Fields

/-! ## §4 Records as they are written -/

section Written

variable {α : Type} {decode : Json → Option α} {encode : α → Json}

theorem asWord32?_nat (word : UInt32) : asWord32? (.nat word.toNat) = some word := by
  have hsmall : word.toNat < Nat.pow 2 32 := word.toNat_lt
  have hread : (JsonNumber.ofNat word.toNat).toNat? = some word.toNat := rfl
  rw [Json.nat, asWord32?, hread, Option.filter_some_pos (by simpa using hsmall),
    Option.map_some, UInt32.ofNat_toNat]

theorem asWord64?_nat (word : UInt64) : asWord64? (.nat word.toNat) = some word :=
  asWord64?_eq_some_iff.mpr ⟨_, rfl, rfl⟩

theorem asOption?_text? (text : Option String) : asOption? asText? (text? text) = some text :=
  asOption?_asText?_eq_some_iff.mpr rfl

/-- A value that may be left out is read again if it is never written as `null`. -/
theorem asOption?_encode (h : ∀ value, decode (encode value) = some value)
    (hnull : ∀ value, encode value ≠ .null) (value : Option α) :
    asOption? decode ((value.map encode).getD .null) = some value := by
  cases value with
  | none => rfl
  | some value =>
    rw [Option.map_some, Option.getD_some, asOption?, h value]
    · rfl
    · exact hnull value

theorem asList?_encode (h : ∀ value, decode (encode value) = some value) (values : List α) :
    asList? decode (.array (values.map encode)) = some values := by
  refine asList?_eq_some_iff.mpr ⟨_, rfl, ?_⟩
  rw [List.forall₂_map_left_iff, List.forall₂_same]
  exact fun value _ => h value

/-- An object that has each of its members once holds them in the places of their fields. -/
theorem slots?_object {fields : List (String × Json)} (h : (fields.map (·.1)).Nodup) :
    slots? (fields.map fun field => [field.1]) (.object fields) =
      some (fields.map fun field => .given field.2) := by
  rw [slots?, mapM_eq_some_iff_forall₂, List.forall₂_map_left_iff, List.forall₂_map_right_iff,
    List.forall₂_same]
  intro field hfield
  obtain ⟨front, back, rfl⟩ := List.append_of_mem hfield
  refine (@slotIn?_eq_some_iff _ 0 _ _).mpr (.given (.member List.mem_cons_self ?_))
  rw [List.map_append, List.map_cons, List.nodup_middle, List.nodup_cons, ← List.map_append] at h
  intro other hother hname
  rw [List.mem_singleton] at hname
  exact h.1 (hname ▸ List.mem_map_of_mem hother)

end Written

end JdkFinder.Json
