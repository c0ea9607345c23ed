import DataFetch.Proofs.Request.Grammar
import DataFetch.Proofs.Request.Payload
import DataFetch.Request.Equality

/-! # Reading payloads back

Reading the payload of a request gives the request with its values in plain form, whatever form of the
payload it is. Main statement: what is read back equals the request exactly when no bytes and no number
that is not finite are bound anywhere in it.
-/
namespace DataFetch

open Validation

namespace Predicate

mutual
/-- A condition with its values in plain form. -/
def plainForm : Predicate → Predicate
  | simple text params => simple text (Value.plainForms params)
  | group operator members => group operator (plainForms members)

def plainForms : List Predicate → List Predicate
  | [] => []
  | p :: rest => p.plainForm :: plainForms rest
end

/-! ## Reading conditions -/

variable {operatorKey : String}

theorem read_dumpFragment (room : Nat) (text : String) (params : List Value) :
    read (room + 1) (dumpFragment text params) = .ok (simple text params) := rfl

theorem read_dumpGroup (hkey : IsOperatorKey operatorKey) (operator : Operator) {room : Nat}
    {members : List Value} {ps : List Predicate} (h : readAll room 0 members = .ok ps) :
    read (room + 1) (dumpGroup operatorKey operator members) = .ok (group operator ps) := by
  rcases hkey with rfl | rfl
  · change ((groupOfFields _ ((readAll room 0 members).under (.key "predicates"))).under _) = _
    rw [h]
    cases operator <;> rfl
  · change ((groupOfFields _ ((readAll room 0 members).under (.key "predicates"))).under _) = _
    rw [h]
    cases operator <;> rfl

mutual
/-- A condition is read back from its payload with its values in plain form. -/
theorem read_payload (hkey : IsOperatorKey operatorKey) (p : Predicate) {room : Nat}
    (hroom : p.depth ≤ room) : read room (p.payload operatorKey) = .ok p.plainForm := by
  obtain ⟨room, rfl⟩ := Nat.exists_eq_add_of_lt (Nat.lt_of_lt_of_le p.depth_pos hroom)
  rw [Nat.zero_add] at hroom ⊢
  cases p with
  | simple text params => exact read_dumpFragment room text (Value.plainForms params)
  | group operator members =>
    rw [payload, plainForm]
    exact read_dumpGroup hkey operator (readAll_payloads hkey members (Nat.le_of_succ_le_succ hroom) 0)

theorem readAll_payloads (hkey : IsOperatorKey operatorKey) (ps : List Predicate) {room : Nat}
    (hroom : depthOf ps ≤ room) (start : Nat) :
    readAll room start (payloads operatorKey ps) = .ok (plainForms ps) := by
  cases ps with
  | nil => rfl
  | cons p rest =>
    obtain ⟨hp, hrest⟩ := Nat.max_le.mp hroom
    rw [payloads, readAll, read_payload hkey p hp, readAll_payloads hkey rest hrest (start + 1)]
    rfl
end

theorem readForest_payloads (hkey : IsOperatorKey operatorKey) (ps : List Predicate) {room : Nat}
    (hroom : depthOf ps ≤ room) :
    readForest room (.list (payloads operatorKey ps)) = .ok (plainForms ps) := by
  rw [readForest]
  exact readAll_payloads hkey ps hroom 0

mutual
theorem depth_le_levels (p : Predicate) : p.depth ≤ p.levels := by
  cases p with
  | simple text params => exact Nat.le_add_left 1 _
  | group operator members => exact Nat.succ_le_succ (depthOf_le_levelsOf members)

theorem depthOf_le_levelsOf (ps : List Predicate) : depthOf ps ≤ levelsOf ps := by
  cases ps with
  | nil => exact Nat.le_refl 0
  | cons p rest =>
    have hp := depth_le_levels p
    have hrest := depthOf_le_levelsOf rest
    rw [depthOf, levelsOf]
    omega
end

theorem depth_le_of_outerLevels_le {p : Predicate} (h : p.outerLevels ≤ Value.levelLimit) :
    p.depth ≤ nestingLimit := by
  cases p with
  | simple text params => exact (by decide : 1 ≤ nestingLimit)
  | group operator members =>
    have hd := depth_le_levels (group operator members)
    rw [outerLevels, Value.levelLimit] at h
    rw [nestingLimit]
    omega

/-! ## Comparing conditions -/

mutual
theorem same_plainForm_iff (p : Predicate) (h : ∀ x ∈ p.bound, x.Keyed) :
    p.plainForm.same p = true ↔ ∀ x ∈ p.bound, x.Exact := by
  cases p with
  | simple text params =>
    rw [bound_simple] at h ⊢
    rw [plainForm, same, beq_self_eq_true, Bool.true_and, Value.sameItems_plainForms_iff params h]
  | group operator members =>
    rw [bound_group] at h ⊢
    rw [plainForm, same, beq_self_eq_true, Bool.true_and, sameAll_plainForms_iff members h]

theorem sameAll_plainForms_iff (ps : List Predicate) (h : ∀ x ∈ boundIn ps, x.Keyed) :
    sameAll (plainForms ps) ps = true ↔ ∀ x ∈ boundIn ps, x.Exact := by
  cases ps with
  | nil => simp [plainForms, sameAll, boundIn_nil]
  | cons p rest =>
    rw [boundIn_cons, List.forall_mem_append] at h ⊢
    rw [plainForms, sameAll, Bool.and_eq_true, same_plainForm_iff p h.1,
      sameAll_plainForms_iff rest h.2]
end

end Predicate

namespace SortKey

theorem readWord_word (direction : Direction) :
    readWord Direction.vocabulary Text.upper (.text direction.word) = .ok direction := by
  cases direction <;> rfl

theorem read_dump (k : SortKey) : SortKey.read k.dump = .ok k := by
  simp [SortKey.read, SortKey.dump, Checked.required, Checked.optional, Record.get?, readText,
    readWord_word, Checked.under, Checked.both, Except.map, Checked.closing, Record.keys]

theorem indexed_read_dump (ks : List SortKey) (start : Nat) :
    Checked.indexed SortKey.read start (ks.map SortKey.dump) = .ok ks := by
  induction ks generalizing start with
  | nil => rfl
  | cons k rest ih =>
    rw [List.map_cons, Checked.indexed, read_dump, ih]
    rfl

end SortKey

namespace FetchRequest

variable {operatorKey : String}

/-- A request with its bound values in plain form. -/
def plainForm (r : FetchRequest) : FetchRequest :=
  { r with predicates := Predicate.plainForms r.predicates }

theorem readCount_int (n : Nat) : readCount (.int n) = .ok n := by
  have hn : ¬ (n : Int) < 0 := by omega
  simp [readCount, readBounded, readInteger, hn, Except.map]

theorem readNullable_dumpCount (count : Option Nat) :
    readNullable readCount (dumpCount count) = .ok count := by
  cases count with
  | none => rfl
  | some n => simp [dumpCount, readNullable, readCount_int, Except.map]

/-- A count is read back from its field, which may be left out when it holds null. -/
theorem optional_dumpCount {fields : Record} {key : String} {count : Option Nat}
    (h : fields.getD key .null = dumpCount count) :
    Checked.optional fields key none (readNullable readCount) = .ok count := by
  rw [Record.getD] at h
  cases hf : fields.get? key with
  | none =>
    rw [hf] at h
    cases count with
    | none => rw [Checked.optional, hf]
    | some n => cases h
  | some v =>
    rw [hf, Option.getD_some] at h
    rw [Checked.optional, hf, h]
    exact Checked.under_eq_ok_iff.mpr (readNullable_dumpCount count)

/-- What has a payload can be read back: the levels of a payload are no fewer than the conditions that
stand within one another. -/
theorem Fits.shallow {r : FetchRequest} (h : r.Fits) : r.Shallow :=
  Predicate.depthOf_le_iff.mpr fun p hp => Predicate.depth_le_of_outerLevels_le (h p hp)

/-- Fields that hold the parts of a request are read as that request with its values in plain form. -/
theorem read_of_get? (hkey : Predicate.IsOperatorKey operatorKey) {r : FetchRequest} {fields : Record}
    (shallow : r.Shallow)
    (table : fields.get? "table" = some (.text r.table))
    (predicates : fields.get? "predicates" =
      some (.list (Predicate.payloads operatorKey r.predicates)))
    (sort : fields.get? "sort" = some (.list (r.sort.map SortKey.dump)))
    (limit : fields.getD "limit" .null = dumpCount r.limit)
    (offset : fields.getD "offset" .null = dumpCount r.offset)
    (closed : ∀ k ∈ fields.keys, k ∈ ["table", "predicates", "sort", "limit", "offset"]) :
    FetchRequest.read (.object fields) = .ok r.plainForm := by
  have hpredicates := Predicate.readForest_payloads hkey r.predicates shallow
  have hsort : SortKey.readAll (.list (r.sort.map SortKey.dump)) = .ok r.sort :=
    SortKey.indexed_read_dump r.sort 0
  rw [FetchRequest.read, ofFields, Checked.closing_eq_ok_iff]
  refine ⟨?_, closed⟩
  rw [optional_dumpCount limit, optional_dumpCount offset, Checked.required, table, Checked.optional,
    predicates, Checked.optional, sort]
  simp only [hpredicates, hsort]
  rfl

theorem read_fields (hkey : Predicate.IsOperatorKey operatorKey) {r : FetchRequest}
    (shallow : r.Shallow) : FetchRequest.read (.object (r.fields operatorKey)) = .ok r.plainForm :=
  read_of_get? hkey shallow rfl rfl rfl rfl rfl fun _ hk => hk

/-- The fields that hold null may be left out. -/
theorem read_filter_fields (hkey : Predicate.IsOperatorKey operatorKey) {r : FetchRequest}
    (shallow : r.Shallow) :
    FetchRequest.read (.object ((r.fields operatorKey).filter fun field => !field.2.isNull)) =
      .ok r.plainForm := by
  have hsub := ((r.fields operatorKey).filter_sublist (p := fun field => !field.2.isNull)).map Prod.fst
  obtain ⟨table, predicates, sort, limit, offset⟩ := r
  refine read_of_get? hkey shallow ?_ ?_ ?_ ?_ ?_ fun k hk => hsub.subset hk
  · rfl
  · rfl
  · rfl
  · cases limit <;> cases offset <;> rfl
  · cases limit <;> cases offset <;> rfl

theorem same_plainForm_iff {r : FetchRequest} (h : r.Keyed) : r.plainForm.same r = true ↔ r.Exact := by
  have hall := Predicate.sameAll_plainForms_iff r.predicates h
  simp [plainForm, same, hall, Exact, bound]

/-- Every null that is bound in a request stands in a payload, at its place. -/
def NullsStandIn (r : FetchRequest) (v : Value) : Prop :=
  ∀ place params path, r.paramsAt? place = some params →
    (Value.list params).at? path = some .null → v.at? (Predicate.paramsPath place ++ path) = some .null

theorem nullsStandIn_fields (hkey : Predicate.IsOperatorKey operatorKey) {r : FetchRequest}
    {fields : Record} (hp : Record.get? fields "predicates" =
      some (.list (Predicate.payloads operatorKey r.predicates))) :
    r.NullsStandIn (.object fields) := by
  intro place params path hparams hnull
  rw [at?_fields hkey hparams path hp, hnull]
  rfl

/-- Reading undoes dumping. A request has a payload exactly when its levels fit and its bytes encode
texts; what is read back equals the request exactly when all bound values are exact; and the payload
lacks nothing but fields of the request that hold null. With exact values the same holds of the
payloads in which operators stand under their other name. -/
theorem read_undoes_toPayload (r : FetchRequest) (keyed : r.Keyed) :
    ((∃ v, r.toPayload = .ok v) ↔ r.Fits ∧ r.Encoded) ∧
      (∀ v, r.toPayload = .ok v →
        (∃ s, FetchRequest.read v = .ok s ∧ (s.same r = true ↔ r.Exact)) ∧
        (∃ all, r.dump "operator" = .ok (.object all) ∧
          v = .object (all.filter fun field => !field.2.isNull)) ∧
        r.NullsStandIn v) ∧
      (r.Exact → ∀ dumped, dumped = r.dump "type" ∨ dumped = r.compact "type" →
        ((∃ v, dumped = .ok v) ↔ r.Fits) ∧
        ∀ v, dumped = .ok v →
          (∃ s, FetchRequest.read v = .ok s ∧ s.same r = true) ∧ r.NullsStandIn v) := by
  have hsame := same_plainForm_iff keyed
  have hoperator : Predicate.IsOperatorKey "operator" := .inr rfl
  have htype : Predicate.IsOperatorKey "type" := .inl rfl
  refine ⟨?_, ?_, ?_⟩
  · simp only [toPayload, compact_eq_ok_iff, exists_and_left, exists_eq, and_true]
  · intro v hv
    obtain ⟨hfits, rfl⟩ := compact_eq_ok_iff.mp hv
    refine ⟨⟨r.plainForm, read_filter_fields hoperator hfits.1.shallow, hsame⟩, ?_, ?_⟩
    · exact ⟨r.fields "operator", dump_eq_ok_iff.mpr ⟨hfits, rfl⟩, rfl⟩
    · exact nullsStandIn_fields hoperator rfl
  · intro hexact dumped hdumped
    -- Both forms of the payload are objects that are read alike.
    obtain ⟨fields, hok, hread, hp⟩ : ∃ fields,
        (∀ v, dumped = .ok v ↔ (r.Fits ∧ r.Encoded) ∧ v = .object fields) ∧
        (r.Fits → FetchRequest.read (.object fields) = .ok r.plainForm) ∧
        Record.get? fields "predicates" = some (.list (Predicate.payloads "type" r.predicates)) := by
      rcases hdumped with rfl | rfl
      · exact ⟨_, fun _ => dump_eq_ok_iff, fun h => read_fields htype h.shallow, rfl⟩
      · exact ⟨_, fun _ => compact_eq_ok_iff, fun h => read_filter_fields htype h.shallow, rfl⟩
    constructor
    · simp only [hok, exists_and_left, exists_eq, and_true, and_iff_left hexact.encoded]
    · intro v hv
      obtain ⟨⟨hfits, -⟩, rfl⟩ := (hok v).mp hv
      exact ⟨⟨r.plainForm, hread hfits, hsame.mpr hexact⟩, nullsStandIn_fields htype hp⟩

theorem read_undoes_toPayload_with_nulls :
    let r : FetchRequest :=
      { table := "t"
        predicates := [.simple "a = ?" [.int 1], .group .or [.group .and [],
          .simple "b = ?" [.object [("x", .bool true), ("y", .list [.text "z", .null])]]]]
        sort := [⟨"a", .descending⟩]
        limit := some 3 }
    r.Keyed ∧ ∃ v s, r.toPayload = .ok v ∧ FetchRequest.read v = .ok s ∧ s.same r = true ∧
      v.at? [.key "predicates", .index 1, .key "predicates", .index 1, .key "params", .index 0,
        .key "y", .index 1] = some .null := by
  intro r
  have hkeyed : r.Keyed := by decide
  have hexact : r.Exact := by decide
  obtain ⟨hok, hread, -⟩ := read_undoes_toPayload r hkeyed
  obtain ⟨v, hv⟩ := hok.mpr ⟨by decide, hexact.encoded⟩
  obtain ⟨⟨s, hs, hsame⟩, -, hnull⟩ := hread v hv
  exact ⟨hkeyed, v, s, hv, hs, hsame.mpr hexact,
    hnull [1, 1] _ [.index 0, .key "y", .index 1] rfl rfl⟩

/-! ## Too many levels -/

/-- A null in as many lists, one in another. -/
def nestedNull : Nat → Value
  | 0 => .null
  | n + 1 => .list [nestedNull n]

theorem levels_nestedNull (n : Nat) : (nestedNull n).levels = n + 1 := by
  induction n with
  | zero => rfl
  | succ n ih =>
    rw [nestedNull, Value.levels, Value.levelsOfItems, Value.levelsOfItems, ih]
    omega

theorem keyed_exact_of_mem_nestedNull {n : Nat} {x : Value} (h : x ∈ (nestedNull n).parts) :
    x.Keyed ∧ x.Exact := by
  induction n with
  | zero =>
    have hx : x = .null := List.mem_singleton.mp h
    rw [hx]
    exact ⟨trivial, trivial⟩
  | succ n ih =>
    rw [nestedNull, Value.parts, Value.partsOfItems, Value.partsOfItems, List.append_nil,
      List.mem_cons] at h
    rcases h with rfl | h
    · exact ⟨trivial, trivial⟩
    · exact ih h

/-- Not every request without bytes has a payload: a single value can have too many levels. -/
theorem toPayload_refuses_nested_lists :
    let r : FetchRequest := { table := "t", predicates := [.simple "a = ?" [nestedNull 254]] }
    r.Keyed ∧ ¬ ((∃ v, r.toPayload = .ok v) ↔ r.Encoded) := by
  intro r
  have hbound : r.bound = (nestedNull 254).parts := by
    rw [bound, Predicate.boundIn_cons, Predicate.bound_simple, Predicate.boundIn_nil,
      Value.partsOfItems, Value.partsOfItems, List.append_nil, List.append_nil]
  have hfits : ¬ r.Fits := by
    intro h
    have hl := h (.simple "a = ?" [nestedNull 254]) (List.mem_singleton_self _)
    rw [Predicate.outerLevels, Predicate.levels, Value.levelsOfItems, Value.levelsOfItems,
      levels_nestedNull, Value.levelLimit] at hl
    omega
  refine ⟨fun x hx => (keyed_exact_of_mem_nestedNull (hbound ▸ hx)).1, fun h => hfits ?_⟩
  obtain ⟨v, hv⟩ := h.mpr fun x hx => (keyed_exact_of_mem_nestedNull (hbound ▸ hx)).2.encoded
  exact (compact_eq_ok_iff.mp hv).1.1

end FetchRequest

end DataFetch
