import DataFetch.Proofs.Request.Grammar
import DataFetch.Proofs.Statement.Shape

/-! # Payloads without their values

Reading a payload in which the lists of values are emptied gives what reading the payload gives, without
the values. Main statement: payloads that differ in nothing but lists of values are refused with the
same issues, or give statements of the same text.
-/
namespace DataFetch

open Checked Validation

namespace Record

/-- The fields, each with a value that depends on its name and the one it had. -/
def mapValues (f : String → Value → Value) (fields : Record) : Record :=
  fields.map fun field => (field.1, f field.1 field.2)

theorem get?_mapValues (f : String → Value → Value) (fields : Record) (key : String) :
    (fields.mapValues f).get? key = (fields.get? key).map (f key) := by
  induction fields with
  | nil => rfl
  | cons field rest ih =>
    obtain ⟨k, v⟩ := field
    rw [mapValues] at ih
    by_cases hk : k = key
    · subst hk
      simp [mapValues, get?]
    · simpa [mapValues, get?, hk] using ih

theorem keys_mapValues (f : String → Value → Value) (fields : Record) :
    (fields.mapValues f).keys = fields.keys := by
  simp [mapValues, keys, Function.comp_def]

end Record

namespace Value

/-- A list is emptied, anything else stays. -/
def emptied : Value → Value
  | list _ => list []
  | v => v

mutual
/-- The clause without the values in it and in the clauses beneath it. -/
def maskClause : Value → Value
  | object fields => object (maskFields fields)
  | v => v

def maskFields : List (String × Value) → List (String × Value)
  | [] => []
  | (k, v) :: rest =>
    (k, if k = "params" then v.emptied else if k = "predicates" then maskForest v else v) ::
      maskFields rest

def maskForest : Value → Value
  | list items => list (maskAll items)
  | v => v

def maskAll : List Value → List Value
  | [] => []
  | v :: rest => maskClause v :: maskAll rest
end

/-- A field of a clause without the values in it. -/
def maskField (key : String) (v : Value) : Value :=
  if key = "params" then v.emptied else if key = "predicates" then v.maskForest else v

/-- A field of a payload without the values in it. -/
def maskEntry (key : String) (v : Value) : Value :=
  if key = "predicates" then v.maskForest else v

/-- The payload without the values in its clauses. -/
def masked : Value → Value
  | object fields => object (Record.mapValues maskEntry fields)
  | v => v

theorem maskAll_eq_map (items : List Value) : maskAll items = items.map maskClause := by
  induction items with
  | nil => rfl
  | cons v rest ih => rw [maskAll, ih, List.map_cons]

theorem maskFields_eq_mapValues (fields : Record) :
    maskFields fields = fields.mapValues maskField := by
  induction fields with
  | nil => rfl
  | cons field rest ih =>
    rw [maskFields, ih]
    rfl

end Value

theorem Predicate.bareAll_eq_map (ps : List Predicate) : bareAll ps = ps.map bare := by
  induction ps with
  | nil => rfl
  | cons p rest ih => rw [bareAll, ih, List.map_cons]

/-! ## Masked clauses -/

namespace Predicate

variable (fields : Record)

theorem get?_maskFields {key : String} (hp : key ≠ "params") (hf : key ≠ "predicates") :
    Record.get? (Value.maskFields fields) key = fields.get? key := by
  have hid : Value.maskField key = id := by
    funext v
    rw [Value.maskField, if_neg hp, if_neg hf]
    rfl
  rw [Value.maskFields_eq_mapValues, Record.get?_mapValues, hid, Option.map_id_fun, id]

theorem keys_maskFields : Record.keys (Value.maskFields fields) = fields.keys := by
  rw [Value.maskFields_eq_mapValues, Record.keys_mapValues]

theorem operatorKey?_maskFields : operatorKey? (Value.maskFields fields) = operatorKey? fields := by
  rw [operatorKey?, operatorKey?, Record.has, Record.has, get?_maskFields _ (by decide) (by decide),
    get?_maskFields _ (by decide) (by decide)]
  rfl

theorem tagOf_maskFields : tagOf (Value.maskFields fields) = tagOf fields := by
  rw [tagOf, tagOf, get?_maskFields _ (by decide) (by decide), operatorKey?_maskFields]

theorem checkKind_maskFields (tag : String) :
    checkKind (Value.maskFields fields) tag = checkKind fields tag := by
  rw [checkKind, checkKind, Checked.optional, Checked.optional,
    get?_maskFields _ (by decide) (by decide)]

theorem required_maskFields {α : Type} {key : String} {read : Value → Checked α}
    (hp : key ≠ "params") (hf : key ≠ "predicates") :
    required (Value.maskFields fields) key read = required fields key read := by
  rw [required, required, get?_maskFields _ hp hf]

theorem readItems_emptied (v : Value) :
    readItems v.emptied = (readItems v).map fun _ => [] := by
  cases v <;> rfl

theorem simpleOfFields_maskFields :
    simpleOfFields (Value.maskFields fields) = (simpleOfFields fields).map bare := by
  have hparams : Checked.optional (Value.maskFields fields) "params" [] readItems =
      (Checked.optional fields "params" [] readItems).map fun _ => [] := by
    refine optional_map (f := Value.emptied) ?_ rfl fun v _ => readItems_emptied v
    rw [Value.maskFields_eq_mapValues, Record.get?_mapValues]
    rfl
  rw [simpleOfFields, simpleOfFields, closing_congr (keys_maskFields fields), map_closing,
    checkKind_maskFields, required_maskFields _ (by decide) (by decide), hparams, both_map_right,
    both_map_right, map_map, map_map]
  rfl

theorem groupOfFields_maskFields (c : Checked (List Predicate)) :
    groupOfFields (Value.maskFields fields) (c.map bareAll) = (groupOfFields fields c).map bare := by
  have hoperator : operatorOfFields (Value.maskFields fields) = operatorOfFields fields := by
    rw [operatorOfFields, operatorOfFields, operatorKey?_maskFields]
    have hkey : (operatorKey? fields).getD "type" ≠ "params" ∧
        (operatorKey? fields).getD "type" ≠ "predicates" := by
      rw [operatorKey?]
      cases fields.has "type" <;> cases fields.has "operator" <;> decide
    exact required_maskFields fields hkey.1 hkey.2
  rw [groupOfFields, groupOfFields, closing_congr (keys_maskFields fields), map_closing,
    checkKind_maskFields, hoperator, operatorKey?_maskFields, both_map_right, both_map_right, map_map,
    map_map]
  rfl

/-! ## Reading -/

theorem map_inside (room : Nat) (c : Checked Predicate) (f : Predicate → Predicate) :
    inside room (c.map f) = (inside room c).map f := by
  cases room <;> rfl

theorem readForest_maskForest {room : Nat} {v : Value}
    (h : ∀ items, v = .list items → ∀ w ∈ items,
      read room w.maskClause = (read room w).map bare) :
    readForest room v.maskForest = (readForest room v).map bareAll := by
  have hbare : bareAll = List.map bare := funext bareAll_eq_map
  cases v with
  | list items =>
    rw [Value.maskForest, readForest, readForest, Value.maskAll_eq_map, readAll_eq_indexed,
      readAll_eq_indexed, hbare]
    exact indexed_map (h items rfl) 0
  | null | bool | int | float | text | bytes | object | backend => rfl

theorem read_maskClause (room : Nat) (v : Value) :
    read room v.maskClause = (read room v).map bare := by
  induction v using Value.clauseInduction generalizing room with
  | object fields ih =>
    have hmembers : readMembers (room - 1) (Value.maskFields fields) =
        (readMembers (room - 1) fields).map bareAll := by
      rw [readMembers_eq, readMembers_eq]
      refine optional_map (f := Value.maskForest) (g := bareAll) ?_ rfl fun v hv => ?_
      · rw [Value.maskFields_eq_mapValues, Record.get?_mapValues]
        rfl
      · refine readForest_maskForest fun items hitems w hw => ih items ?_ w hw (room - 1)
        rw [Record.getD, hv, hitems]
        rfl
    rw [Value.maskClause, read, read, tagOf_maskFields]
    split
    · rw [simpleOfFields_maskFields, map_inside, map_under]
    · split
      · rw [hmembers, groupOfFields_maskFields, map_inside, map_under]
      · rfl
  | other v h =>
    cases v with
    | object fields => exact absurd rfl (h fields)
    | null | bool | int | float | text | bytes | list | backend => rfl

end Predicate

namespace FetchRequest

/-- Reading the masked payload gives the request without its values, or the same issues. -/
theorem read_masked (v : Value) : FetchRequest.read v.masked = (FetchRequest.read v).map bare := by
  cases v with
  | object fields =>
    have hget : ∀ key, key ≠ "predicates" →
        Record.get? (Record.mapValues Value.maskEntry fields) key = Record.get? fields key := by
      intro key hkey
      have hid : Value.maskEntry key = id := by
        funext v
        rw [Value.maskEntry, if_neg hkey]
        rfl
      rw [Record.get?_mapValues, hid, Option.map_id_fun, id]
    have hpredicates :
        Checked.optional (Record.mapValues Value.maskEntry fields) "predicates" []
            (Predicate.readForest Predicate.nestingLimit) =
          (Checked.optional fields "predicates" []
            (Predicate.readForest Predicate.nestingLimit)).map Predicate.bareAll := by
      refine optional_map (f := Value.maskForest) (g := Predicate.bareAll) ?_ rfl fun v _ => ?_
      · rw [Record.get?_mapValues]
        rfl
      · exact Predicate.readForest_maskForest fun items _ w _ => Predicate.read_maskClause _ w
    have htable : required (Record.mapValues Value.maskEntry fields) "table" readText =
        required fields "table" readText := by
      rw [required, required, hget _ (by decide)]
    have hoptional : ∀ {α : Type} (key : String) (default : α) (read : Value → Checked α),
        key ≠ "predicates" →
        Checked.optional (Record.mapValues Value.maskEntry fields) key default read =
          Checked.optional fields key default read := by
      intro α key default read hkey
      rw [Checked.optional, Checked.optional, hget key hkey]
    rw [Value.masked, FetchRequest.read, FetchRequest.read, ofFields, ofFields,
      closing_congr (Record.keys_mapValues Value.maskEntry fields), map_closing, hpredicates, htable,
      hoptional "sort" _ _ (by decide), hoptional "limit" _ _ (by decide),
      hoptional "offset" _ _ (by decide), both_map_left, both_map_right, map_map, map_map]
    rfl
  | null | bool | int | float | text | bytes | list | backend => rfl

/-- Payloads that differ in nothing but the lists of values in their clauses are refused with the same
issues or accepted together, and what they state is then written as the same text in every layout. -/
theorem values_show_neither_in_text_nor_in_issues {v w : Value} (h : v.masked = w.masked) :
    (∃ issues, FetchRequest.read v = .error issues ∧ FetchRequest.read w = .error issues) ∨
    ∃ r s, FetchRequest.read v = .ok r ∧ FetchRequest.read w = .ok s ∧ ∀ layout : Layout,
      (layout.write r).text = (layout.write s).text ∧
      (layout.compile r).map (·.text) = (layout.compile s).map (·.text) := by
  have hbare : (FetchRequest.read v).map bare = (FetchRequest.read w).map bare := by
    rw [← read_masked, ← read_masked, h]
  cases hv : FetchRequest.read v with
  | error issues =>
    rw [hv] at hbare
    cases hw : FetchRequest.read w with
    | error others =>
      rw [hw] at hbare
      cases hbare
      exact .inl ⟨issues, rfl, rfl⟩
    | ok s =>
      rw [hw] at hbare
      cases hbare
  | ok r =>
    rw [hv] at hbare
    cases hw : FetchRequest.read w with
    | error others =>
      rw [hw] at hbare
      cases hbare
    | ok s =>
      rw [hw] at hbare
      have hrs : r.bare = s.bare := Except.ok.inj hbare
      refine .inr ⟨r, s, rfl, rfl, fun layout => ⟨?_, ?_⟩⟩
      · rw [← layout.text_write_bare r, ← layout.text_write_bare s, hrs]
      · rw [← layout.map_text_compile_bare r, ← layout.map_text_compile_bare s, hrs]

theorem values_in_groups_do_not_show :
    let payload (outer inner : List Value) : Value :=
      .object [("table", .text "t"), ("predicates", .list [
        .object [("params", .list outer), ("text", .text "a = ?")],
        .object [("type", .text "or"), ("predicates", .list [
          .object [("text", .text "b"), ("params", .list inner)]])]])]
    let v := payload [.int 1] []
    let w := payload [] [.text "?", .list [.null]]
    v.masked = w.masked ∧
      ∃ r s, FetchRequest.read v = .ok r ∧ FetchRequest.read w = .ok s ∧ ∀ layout : Layout,
        (layout.write r).text = (layout.write s).text ∧
        (layout.compile r).map (·.text) = (layout.compile s).map (·.text) := by
  intro payload v w
  have hm : v.masked = w.masked := by rfl
  have hr : (FetchRequest.read v).toOption.isSome := by decide +kernel
  refine ⟨hm, ?_⟩
  rcases values_show_neither_in_text_nor_in_issues hm with ⟨issues, hv, -⟩ | h
  · rw [hv] at hr
    cases hr
  · exact h

end FetchRequest

end DataFetch
