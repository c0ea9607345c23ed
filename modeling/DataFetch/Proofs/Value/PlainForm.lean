import DataFetch.Proofs.Outcome
import DataFetch.Proofs.Text.Utf8
import DataFetch.Validation.Issue
import DataFetch.Value.Equality
import DataFetch.Value.Plain

/-! # What becomes of a value in its plain form

The plain form is described without its limits: what it is, how many levels it has, and which of the
values in it stand in the way. Main statements: a value has a plain form exactly when its levels fit and
all its bytes encode texts, and the form equals the value exactly when there are no bytes and no numbers
that are not finite in it. Every value keeps its place.
-/
namespace DataFetch

open Outcome

namespace Value

/-! ## Values in a value -/

mutual
/-- All values that a value is made of, itself included. -/
def parts : Value → List Value
  | list items => list items :: partsOfItems items
  | object fields => object fields :: partsOfFields fields
  | v => [v]

def partsOfItems : List Value → List Value
  | [] => []
  | v :: rest => v.parts ++ partsOfItems rest

def partsOfFields : List (String × Value) → List Value
  | [] => []
  | (_, v) :: rest => v.parts ++ partsOfFields rest
end

mutual
/-- The levels of a value; every list, object and value without parts has one of its own. -/
def levels : Value → Nat
  | list items => levelsOfItems items + 1
  | object fields => levelsOfFields fields + 1
  | _ => 1

def levelsOfItems : List Value → Nat
  | [] => 0
  | v :: rest => max v.levels (levelsOfItems rest)

def levelsOfFields : List (String × Value) → Nat
  | [] => 0
  | (_, v) :: rest => max v.levels (levelsOfFields rest)
end

/-- Bytes that encode a text, or anything else. -/
def Encoded : Value → Prop
  | bytes bs => Text.IsUtf8 bs
  | _ => True

/-- Neither bytes nor a number that is not finite. -/
def Exact : Value → Prop
  | bytes _ => False
  | float x => x.isFinite = true
  | _ => True

/-- An object that names each of its fields once, or anything else. -/
def Keyed : Value → Prop
  | object fields => (Record.keys fields).Nodup
  | _ => True

instance (v : Value) : Decidable v.Exact :=
  match v with
  | bytes _ => .isFalse id
  | float x => inferInstanceAs (Decidable (x.isFinite = true))
  | null | bool _ | int _ | text _ | list _ | object _ | backend _ => .isTrue trivial

instance (v : Value) : Decidable v.Keyed :=
  match v with
  | object fields => inferInstanceAs (Decidable (Record.keys fields).Nodup)
  | null | bool _ | int _ | float _ | text _ | bytes _ | list _ | backend _ => .isTrue trivial

theorem Exact.encoded {v : Value} (h : v.Exact) : v.Encoded := by
  cases v with
  | bytes bs => exact h.elim
  | _ => trivial

/-! ## The form without its limits -/

mutual
/-- The plain form of a value, where bytes that encode nothing become the empty text. -/
def plainForm : Value → Value
  | list items => list (plainForms items)
  | object fields => object (plainFormOfFields fields)
  | float x => if x.isFinite then float x else null
  | bytes bs => text ((Text.ofUtf8? bs).getD "")
  | backend b => text b.name
  | v => v

def plainForms : List Value → List Value
  | [] => []
  | v :: rest => v.plainForm :: plainForms rest

def plainFormOfFields : List (String × Value) → List (String × Value)
  | [] => []
  | (k, v) :: rest => (k, v.plainForm) :: plainFormOfFields rest
end

theorem plainForms_eq_map (items : List Value) : plainForms items = items.map plainForm := by
  induction items with
  | nil => rfl
  | cons v rest ih => rw [plainForms, ih, List.map_cons]

theorem plainFormOfFields_eq_map (fields : Record) :
    plainFormOfFields fields = fields.map fun field => (field.1, field.2.plainForm) := by
  induction fields with
  | nil => rfl
  | cons field rest ih => rw [plainFormOfFields, ih, List.map_cons]

theorem get?_plainFormOfFields (fields : Record) (key : String) :
    Record.get? (plainFormOfFields fields) key = (Record.get? fields key).map plainForm := by
  induction fields with
  | nil => rfl
  | cons field rest ih =>
    obtain ⟨k, v⟩ := field
    by_cases hk : k = key <;> simp [plainFormOfFields, Record.get?, hk, ih]

/-! ## When there is a plain form -/

theorem decoded_eq_ok_iff {bs : List UInt8} {w : Value} :
    plainLeaf (bytes bs) = .ok w ↔ Text.IsUtf8 bs ∧ w = text ((Text.ofUtf8? bs).getD "") := by
  rw [plainLeaf, mapError_eq_ok_iff, map_eq_ok_iff, Text.isUtf8_iff, Text.ofUtf8?]
  cases Text.decodeUtf8 bs with
  | error f => simp
  | ok s => simp [Except.toOption]

theorem leaf_eq_ok_iff {v : Value} (hparts : v.parts = [v])
    (h : ∀ w, plainLeaf v = .ok w ↔ v.Encoded ∧ w = v.plainForm) (fault : PlainFault) (room : Nat)
    (w : Value) :
    (if room = 0 then .error fault else plainLeaf v) = .ok w ↔
      1 ≤ room ∧ (∀ x ∈ v.parts, x.Encoded) ∧ w = v.plainForm := by
  rw [hparts, List.forall_mem_singleton]
  by_cases hr : room = 0
  · simp [hr]
  · rw [if_neg hr, h]
    exact ⟨fun hs => ⟨by omega, hs⟩, fun hs => hs.2⟩

theorem plainItems_cons_eq_ok_iff {room : Nat} {v : Value} {rest ws : List Value} :
    plainItems room (v :: rest) = .ok ws ↔
      ∃ x xs, v.plain room = .ok x ∧ plainItems room rest = .ok xs ∧ ws = x :: xs := by
  rw [plainItems]
  cases v.plain room with
  | error e => simp
  | ok x => simp [map_eq_ok_iff]

theorem plainFields_cons_eq_ok_iff {room : Nat} {k : String} {v : Value} {rest ws : Record} :
    plainFields room ((k, v) :: rest) = .ok ws ↔
      ∃ x xs, v.plain room = .ok x ∧ plainFields room rest = .ok xs ∧ ws = (k, x) :: xs := by
  rw [plainFields]
  cases v.plain room with
  | error e => simp
  | ok x => simp [map_eq_ok_iff]

mutual
/-- A value has a plain form exactly when its levels fit and all its bytes encode texts. -/
theorem plain_eq_ok_iff (v : Value) (room : Nat) (w : Value) :
    v.plain room = .ok w ↔ v.levels ≤ room ∧ (∀ x ∈ v.parts, x.Encoded) ∧ w = v.plainForm := by
  cases v with
  | list items =>
    have hl : (list items).Encoded := trivial
    rw [plain, inside_eq_ok_iff, level_fits_iff (plainItems_eq_ok_iff items), parts,
      List.forall_mem_cons, and_iff_right hl]
    rfl
  | object fields =>
    have ho : (object fields).Encoded := trivial
    rw [plain, inside_eq_ok_iff, level_fits_iff (plainFields_eq_ok_iff fields), parts,
      List.forall_mem_cons, and_iff_right ho]
    rfl
  | bytes bs => exact leaf_eq_ok_iff rfl (fun _ => decoded_eq_ok_iff) _ room w
  | null | bool | int | float | text | backend =>
    refine leaf_eq_ok_iff rfl (fun x => ?_) _ room w
    constructor
    · intro h
      cases h
      exact ⟨trivial, rfl⟩
    · rintro ⟨-, rfl⟩
      rfl

theorem plainItems_eq_ok_iff (items : List Value) (room : Nat) (ws : List Value) :
    plainItems room items = .ok ws ↔
      levelsOfItems items ≤ room ∧ (∀ x ∈ partsOfItems items, x.Encoded) ∧ ws = plainForms items := by
  cases items with
  | nil => simp [plainItems, levelsOfItems, partsOfItems, plainForms, eq_comm]
  | cons v rest =>
    simp only [plainItems_cons_eq_ok_iff, plain_eq_ok_iff v room, plainItems_eq_ok_iff rest room]
    rw [both_fit_iff (· :: ·), levelsOfItems, partsOfItems, plainForms, List.forall_mem_append]

theorem plainFields_eq_ok_iff (fields : List (String × Value)) (room : Nat)
    (ws : List (String × Value)) :
    plainFields room fields = .ok ws ↔
      levelsOfFields fields ≤ room ∧ (∀ x ∈ partsOfFields fields, x.Encoded) ∧
        ws = plainFormOfFields fields := by
  cases fields with
  | nil => simp [plainFields, levelsOfFields, partsOfFields, plainFormOfFields, eq_comm]
  | cons field rest =>
    obtain ⟨k, v⟩ := field
    simp only [plainFields_cons_eq_ok_iff, plain_eq_ok_iff v room, plainFields_eq_ok_iff rest room]
    rw [both_fit_iff fun x xs => (k, x) :: xs, levelsOfFields, partsOfFields, plainFormOfFields,
      List.forall_mem_append]
end

/-! ## When the form equals the value -/

theorem length_plainFormOfFields (fields : Record) :
    (plainFormOfFields fields).length = fields.length := by
  rw [plainFormOfFields_eq_map, List.length_map]

mutual
/-- The plain form of a value equals it exactly when there are no bytes and no numbers that are not
finite in it. -/
theorem same_plainForm_iff (v : Value) (h : ∀ x ∈ v.parts, x.Keyed) :
    v.plainForm.same v = true ↔ ∀ x ∈ v.parts, x.Exact := by
  cases v with
  | list items =>
    rw [parts, List.forall_mem_cons] at h ⊢
    rw [plainForm, same, sameItems_plainForms_iff items h.2]
    exact (and_iff_right trivial).symm
  | object fields =>
    rw [parts, List.forall_mem_cons] at h ⊢
    rw [plainForm, same, length_plainFormOfFields, beq_self_eq_true, Bool.true_and,
      sameFields_plainForm_iff fields fields (fun f hf => Record.get?_of_mem h.1 hf) h.2]
    exact (and_iff_right trivial).symm
  | float x =>
    by_cases hx : x.isFinite = true
    · have he := Binary64.equals_self (Binary64.isNaN_of_isFinite hx)
      simp [parts, plainForm, Exact, hx, same, sameAtom, he]
    · simp [parts, plainForm, Exact, hx, same, sameAtom, asText?, asInt?]
  | bytes bs => simp [parts, plainForm, Exact, same, sameAtom, asText?]
  | null | bool | int | text | backend =>
    simp [parts, plainForm, Exact, same, sameAtom, asText?, asInt?]

theorem sameItems_plainForms_iff (items : List Value) (h : ∀ x ∈ partsOfItems items, x.Keyed) :
    sameItems (plainForms items) items = true ↔ ∀ x ∈ partsOfItems items, x.Exact := by
  cases items with
  | nil => simp [plainForms, sameItems, partsOfItems]
  | cons v rest =>
    rw [partsOfItems, List.forall_mem_append] at h ⊢
    rw [plainForms, sameItems, Bool.and_eq_true, same_plainForm_iff v h.1,
      sameItems_plainForms_iff rest h.2]

/-- Every field is compared with the one of its name among all of them. -/
theorem sameFields_plainForm_iff (fields all : List (String × Value))
    (hall : ∀ f ∈ fields, Record.get? all f.1 = some f.2)
    (h : ∀ x ∈ partsOfFields fields, x.Keyed) :
    sameFields (plainFormOfFields fields) all = true ↔ ∀ x ∈ partsOfFields fields, x.Exact := by
  cases fields with
  | nil => simp [plainFormOfFields, sameFields, partsOfFields]
  | cons field rest =>
    obtain ⟨k, v⟩ := field
    rw [List.forall_mem_cons] at hall
    rw [partsOfFields, List.forall_mem_append] at h ⊢
    rw [plainFormOfFields, sameFields, hall.1, Bool.and_eq_true, same_plainForm_iff v h.1,
      sameFields_plainForm_iff rest all hall.2 h.2]
end

/-! ## Places in a value -/

/-- The value at a place in a value. -/
def at? : List PathStep → Value → Option Value
  | [], v => some v
  | .index i :: rest, list items => items[i]?.bind (at? rest)
  | .key k :: rest, object fields => (Record.get? fields k).bind (at? rest)
  | _, _ => none

theorem at?_index (i : Nat) (rest : List PathStep) (items : List Value) :
    (list items).at? (.index i :: rest) = items[i]?.bind (at? rest) := rfl

theorem at?_key (k : String) (rest : List PathStep) (fields : Record) :
    (object fields).at? (.key k :: rest) = (Record.get? fields k).bind (at? rest) := rfl

/-- Every value keeps its place in the plain form. -/
theorem at?_plainForm (path : List PathStep) (v : Value) :
    v.plainForm.at? path = (v.at? path).map plainForm := by
  induction path generalizing v with
  | nil => rfl
  | cons step rest ih =>
    cases step with
    | index i =>
      cases v with
      | list items =>
        rw [plainForm, at?_index, at?_index, plainForms_eq_map, List.getElem?_map]
        cases items[i]? with
        | none => rfl
        | some w => exact ih w
      | float x => by_cases hx : x.isFinite = true <;> simp [plainForm, at?, hx]
      | _ => rfl
    | key k =>
      cases v with
      | object fields =>
        rw [plainForm, at?_key, at?_key, get?_plainFormOfFields]
        cases Record.get? fields k with
        | none => rfl
        | some w => exact ih w
      | float x => by_cases hx : x.isFinite = true <;> simp [plainForm, at?, hx]
      | _ => rfl

end Value

end DataFetch
