import DataFetch.Proofs.Request.RoundTrip
import DataFetch.Proofs.Statement.Shape

/-! # Payloads do not drift

Dumping changes some values, but only once: what is read back from a payload is in plain form, and plain
forms stay as they are. Main statement: a request that is read back from a payload has that very payload
again, and its statement differs from the one of the first request in nothing but the plain forms of the
values.
-/
namespace DataFetch

namespace Value

mutual
theorem plainForm_plainForm (v : Value) : v.plainForm.plainForm = v.plainForm := by
  cases v with
  | list items => rw [plainForm, plainForm, plainForms_plainForms items]
  | object fields => rw [plainForm, plainForm, plainFormOfFields_plainFormOfFields fields]
  | float x => by_cases hx : x.isFinite = true <;> simp [plainForm, hx]
  | null | bool | int | text | bytes | backend => rfl

theorem plainForms_plainForms (items : List Value) :
    plainForms (plainForms items) = plainForms items := by
  cases items with
  | nil => rfl
  | cons v rest =>
    rw [plainForms, plainForms, plainForm_plainForm v, plainForms_plainForms rest]

theorem plainFormOfFields_plainFormOfFields (fields : List (String × Value)) :
    plainFormOfFields (plainFormOfFields fields) = plainFormOfFields fields := by
  cases fields with
  | nil => rfl
  | cons field rest =>
    obtain ⟨k, v⟩ := field
    rw [plainFormOfFields, plainFormOfFields, plainForm_plainForm v,
      plainFormOfFields_plainFormOfFields rest]
end

mutual
theorem levels_plainForm (v : Value) : v.plainForm.levels = v.levels := by
  cases v with
  | list items => rw [plainForm, levels, levels, levelsOfItems_plainForms items]
  | object fields => rw [plainForm, levels, levels, levelsOfFields_plainFormOfFields fields]
  | float x => by_cases hx : x.isFinite = true <;> simp [plainForm, levels, hx]
  | null | bool | int | text | bytes | backend => rfl

theorem levelsOfItems_plainForms (items : List Value) :
    levelsOfItems (plainForms items) = levelsOfItems items := by
  cases items with
  | nil => rfl
  | cons v rest =>
    rw [plainForms, levelsOfItems, levelsOfItems, levels_plainForm v, levelsOfItems_plainForms rest]

theorem levelsOfFields_plainFormOfFields (fields : List (String × Value)) :
    levelsOfFields (plainFormOfFields fields) = levelsOfFields fields := by
  cases fields with
  | nil => rfl
  | cons field rest =>
    obtain ⟨k, v⟩ := field
    rw [plainFormOfFields, levelsOfFields, levelsOfFields, levels_plainForm v,
      levelsOfFields_plainFormOfFields rest]
end

mutual
/-- No bytes and no numbers that are not finite are left in a plain form. -/
theorem exact_plainForm (v : Value) : ∀ x ∈ v.plainForm.parts, x.Exact := by
  cases v with
  | list items =>
    rw [plainForm, parts, List.forall_mem_cons]
    exact ⟨trivial, exact_plainForms items⟩
  | object fields =>
    rw [plainForm, parts, List.forall_mem_cons]
    exact ⟨trivial, exact_plainFormOfFields fields⟩
  | float x => by_cases hx : x.isFinite = true <;> simp [plainForm, parts, Exact, hx]
  | null | bool | int | text | bytes | backend => simp [plainForm, parts, Exact]

theorem exact_plainForms (items : List Value) :
    ∀ x ∈ partsOfItems (plainForms items), x.Exact := by
  cases items with
  | nil => simp [plainForms, partsOfItems]
  | cons v rest =>
    rw [plainForms, partsOfItems, List.forall_mem_append]
    exact ⟨exact_plainForm v, exact_plainForms rest⟩

theorem exact_plainFormOfFields (fields : List (String × Value)) :
    ∀ x ∈ partsOfFields (plainFormOfFields fields), x.Exact := by
  cases fields with
  | nil => simp [plainFormOfFields, partsOfFields]
  | cons field rest =>
    obtain ⟨k, v⟩ := field
    rw [plainFormOfFields, partsOfFields, List.forall_mem_append]
    exact ⟨exact_plainForm v, exact_plainFormOfFields rest⟩
end

end Value

/-! ## Conditions -/

namespace Predicate

mutual
theorem payload_plainForm (operatorKey : String) (p : Predicate) :
    p.plainForm.payload operatorKey = p.payload operatorKey := by
  cases p with
  | simple text params => rw [plainForm, payload, payload, Value.plainForms_plainForms]
  | group operator members => rw [plainForm, payload, payload, payloads_plainForms operatorKey members]

theorem payloads_plainForms (operatorKey : String) (ps : List Predicate) :
    payloads operatorKey (plainForms ps) = payloads operatorKey ps := by
  cases ps with
  | nil => rfl
  | cons p rest =>
    rw [plainForms, payloads, payloads, payload_plainForm operatorKey p,
      payloads_plainForms operatorKey rest]
end

mutual
theorem levels_plainForm (p : Predicate) : p.plainForm.levels = p.levels := by
  cases p with
  | simple text params => rw [plainForm, levels, levels, Value.levelsOfItems_plainForms]
  | group operator members => rw [plainForm, levels, levels, levelsOf_plainForms members]

theorem levelsOf_plainForms (ps : List Predicate) : levelsOf (plainForms ps) = levelsOf ps := by
  cases ps with
  | nil => rfl
  | cons p rest =>
    rw [plainForms, levelsOf, levelsOf, levels_plainForm p, levelsOf_plainForms rest]
end

theorem outerLevels_plainForm (p : Predicate) : p.plainForm.outerLevels = p.outerLevels := by
  have hlevels := levels_plainForm p
  cases p with
  | simple text params => exact hlevels
  | group operator members => exact congrArg (· + 1) hlevels

mutual
theorem leaves_plainForm (p : Predicate) :
    p.plainForm.leaves = p.leaves.map fun leaf => (leaf.1, Value.plainForms leaf.2) := by
  cases p with
  | simple text params => rfl
  | group operator members => exact leavesOf_plainForms members

theorem leavesOf_plainForms (ps : List Predicate) :
    leavesOf (plainForms ps) = (leavesOf ps).map fun leaf => (leaf.1, Value.plainForms leaf.2) := by
  cases ps with
  | nil => rfl
  | cons p rest =>
    rw [plainForms, leavesOf, leavesOf, leaves_plainForm p, leavesOf_plainForms rest,
      List.map_append]
end

mutual
theorem bare_plainForm (p : Predicate) : p.plainForm.bare = p.bare := by
  cases p with
  | simple text params => rfl
  | group operator members => rw [plainForm, bare, bare, bareAll_plainForms members]

theorem bareAll_plainForms (ps : List Predicate) : bareAll (plainForms ps) = bareAll ps := by
  cases ps with
  | nil => rfl
  | cons p rest => rw [plainForms, bareAll, bareAll, bare_plainForm p, bareAll_plainForms rest]
end

theorem plainForms_eq_map (ps : List Predicate) : plainForms ps = ps.map plainForm := by
  induction ps with
  | nil => rfl
  | cons p rest ih => rw [plainForms, ih, List.map_cons]

theorem exact_boundIn_plainForms (ps : List Predicate) :
    ∀ x ∈ boundIn (plainForms ps), x.Exact := by
  intro x hx
  rw [boundIn, leavesOf_plainForms, List.mem_flatMap] at hx
  obtain ⟨_, hleaf, hx⟩ := hx
  obtain ⟨leaf, -, rfl⟩ := List.mem_map.mp hleaf
  exact Value.exact_plainForms leaf.2 x hx

end Predicate

/-! ## Requests -/

namespace FetchRequest

variable {r : FetchRequest}

theorem Fits.plainForm (h : r.Fits) : r.plainForm.Fits := by
  intro p hp
  rw [FetchRequest.plainForm, Predicate.plainForms_eq_map] at hp
  obtain ⟨q, hq, rfl⟩ := List.mem_map.mp hp
  rw [Predicate.outerLevels_plainForm]
  exact h q hq

theorem exact_plainForm (r : FetchRequest) : r.plainForm.Exact :=
  Predicate.exact_boundIn_plainForms r.predicates

theorem fields_plainForm (operatorKey : String) (r : FetchRequest) :
    r.plainForm.fields operatorKey = r.fields operatorKey := by
  rw [fields, fields, plainForm, Predicate.payloads_plainForms]

theorem bare_plainForm (r : FetchRequest) : r.plainForm.bare = r.bare := by
  rw [bare, bare, plainForm, Predicate.bareAll_plainForms]

theorem leaves_plainForm (r : FetchRequest) :
    r.plainForm.leaves = r.leaves.map fun leaf => (leaf.1, Value.plainForms leaf.2) :=
  Predicate.leavesOf_plainForms r.predicates

end FetchRequest

namespace Layout

theorem text_write_plainForm (layout : Layout) (r : FetchRequest) :
    (layout.write r.plainForm).text = (layout.write r).text := by
  rw [← layout.text_write_bare, r.bare_plainForm, layout.text_write_bare]

theorem params_write_plainForm (layout : Layout) (r : FetchRequest) :
    (layout.write r.plainForm).params = Value.plainForms (layout.write r).params := by
  rw [params_write, params_write, FetchRequest.leaves_plainForm, List.flatMap_map]
  simp only [Value.plainForms_eq_map, List.map_flatMap]

theorem length_params_write_plainForm (layout : Layout) (r : FetchRequest) :
    (layout.write r.plainForm).params.length = (layout.write r).params.length := by
  rw [params_write_plainForm, Value.plainForms_eq_map, List.length_map]

/-- The window and the layout decide whether a statement is refused, and both are kept. -/
theorem compile_plainForm (layout : Layout) (r : FetchRequest) :
    layout.compile r.plainForm =
      (layout.compile r).map fun _ => layout.write r.plainForm := by
  have hlimit : r.plainForm.limit = r.limit := rfl
  have hoffset : r.plainForm.offset = r.offset := rfl
  rw [compile, compile, hlimit, hoffset]
  split
  · cases layout.joinFault <;> rfl
  · rfl

end Layout

namespace FetchRequest

/-- Whatever values a request binds, what is read back from its payload has the same payload, and the
same statement but for the values, of which there are as many. -/
theorem payload_survives_reading {r : FetchRequest} {v : Value} (h : r.toPayload = .ok v) :
    ∃ s, FetchRequest.read v = .ok s ∧ s.toPayload = .ok v ∧ ∀ layout : Layout,
      (layout.write s).text = (layout.write r).text ∧
      (layout.write s).params.length = (layout.write r).params.length ∧
      (layout.compile s).map (fun c => (c.text, c.params.length)) =
        (layout.compile r).map fun c => (c.text, c.params.length) := by
  obtain ⟨⟨hfits, -⟩, rfl⟩ := compact_eq_ok_iff.mp h
  refine ⟨r.plainForm, read_filter_fields (.inr rfl) hfits.shallow, ?_, fun layout => ?_⟩
  · rw [toPayload, compact_eq_ok_iff, fields_plainForm]
    exact ⟨⟨hfits.plainForm, r.exact_plainForm.encoded⟩, rfl⟩
  · have htext := layout.text_write_plainForm r
    have hlength := layout.length_params_write_plainForm r
    refine ⟨htext, hlength, ?_⟩
    rw [layout.compile_plainForm r]
    cases hc : layout.compile r with
    | error m => rfl
    | ok c =>
      obtain ⟨-, rfl⟩ := Layout.compile_eq_ok_iff.mp hc
      exact congrArg Except.ok (Prod.ext htext hlength)

/-- Bytes, an infinite number and a null deep in a group: the first two change once. -/
theorem payload_survives_reading_of_bytes :
    let infinite : Value := .float (Binary64.infinity false)
    let r : FetchRequest :=
      { table := "t"
        predicates := [.group .or [.simple "a = ? AND b = ?" [.bytes [0xc3, 0xa4],
          .object [("x", .list [infinite, .null])]]]]
        limit := some 1 }
    ∃ v s, r.toPayload = .ok v ∧ FetchRequest.read v = .ok s ∧ s.toPayload = .ok v ∧
      v.at? [.key "predicates", .index 0, .key "predicates", .index 0, .key "params"] =
        some (.list [.text "ä", .object [("x", .list [.null, .null])]]) ∧
      ∀ layout : Layout, (layout.write s).text = (layout.write r).text := by
  intro infinite r
  obtain ⟨v, hv, hplace⟩ : ∃ v, r.toPayload = .ok v ∧
      v.at? [.key "predicates", .index 0, .key "predicates", .index 0, .key "params"] =
        some (.list [.text "ä", .object [("x", .list [.null, .null])]]) := ⟨_, rfl, rfl⟩
  obtain ⟨s, hs, hagain, hwrite⟩ := payload_survives_reading hv
  exact ⟨v, s, hv, hs, hagain, hplace, fun layout => (hwrite layout).1⟩

end FetchRequest

end DataFetch
