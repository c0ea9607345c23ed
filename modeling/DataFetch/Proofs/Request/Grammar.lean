import DataFetch.Proofs.Validation.Lenient
import DataFetch.Proofs.Value.Record
import DataFetch.Request.Reader

/-! # The grammar of payloads

Which values state a request, and which one, said without the reader: a field is required or stands for
a default, no field is unknown, and a condition is of the kind that its fields tell. Main statement: the
reader accepts a value exactly when the grammar does and no conditions stand too deep within one
another, with the request that the value states, and otherwise names an issue.
-/
namespace DataFetch

open Validation Checked Outcome

namespace Record

/-- Every field has one of these names. -/
def ClosedOver (fields : Record) (names : List String) : Prop :=
  ∀ k ∈ fields.keys, k ∈ names

/-- The kind of a condition: the one that the field `kind` names, and without that field a group if the
fields name an operator and a fragment otherwise. -/
def IsKind (fields : Record) (kind : String) : Prop :=
  fields.get? "kind" = some (.text kind) ∨
    fields.get? "kind" = none ∧
      kind = if fields.has "operator" || fields.has "type" then groupTag else simpleTag

end Record

/-- Induction over values that goes from the members of a list of clauses to what holds the list. -/
theorem Value.clauseInduction {motive : Value → Prop}
    (object : ∀ fields : Record, (∀ items, fields.getD "predicates" (.list []) = .list items →
      ∀ v ∈ items, motive v) → motive (.object fields))
    (other : ∀ v, (∀ fields, v ≠ .object fields) → motive v) (v : Value) : motive v := by
  cases v with
  | object fields =>
    refine object fields fun items hitems w hw => ?_
    have hlt : sizeOf w < sizeOf (Value.object fields) := by
      rw [Record.getD] at hitems
      cases hg : Record.get? fields "predicates" with
      | none =>
        rw [hg] at hitems
        cases hitems
        cases hw
      | some u =>
        rw [hg] at hitems
        cases hitems
        have hu := List.sizeOf_lt_of_mem (Record.mem_of_get?_eq_some hg)
        have hi := List.sizeOf_lt_of_mem hw
        simp only [Prod.mk.sizeOf_spec, Value.list.sizeOf_spec] at hu
        rw [Value.object.sizeOf_spec]
        omega
    exact clauseInduction object other w
  | null | bool | int | float | text | bytes | list | backend =>
    refine other _ fun fields h => ?_
    cases h
termination_by sizeOf v
decreasing_by exact hlt

/-! ## Conditions within one another -/

namespace Predicate

mutual
/-- How many conditions stand within one another, this one included. -/
def depth : Predicate → Nat
  | simple _ _ => 1
  | group _ members => depthOf members + 1

def depthOf : List Predicate → Nat
  | [] => 0
  | p :: rest => max p.depth (depthOf rest)
end

theorem depth_pos (p : Predicate) : 0 < p.depth := by
  cases p <;> simp [depth]

theorem depthOf_le_iff {ps : List Predicate} {room : Nat} :
    depthOf ps ≤ room ↔ ∀ p ∈ ps, p.depth ≤ room := by
  induction ps with
  | nil => simp [depthOf]
  | cons p rest ih => rw [depthOf, Nat.max_le, List.forall_mem_cons, ih]

end Predicate

/-- No conditions stand too deep within one another. -/
def FetchRequest.Shallow (r : FetchRequest) : Prop :=
  Predicate.depthOf r.predicates ≤ Predicate.nestingLimit

instance (r : FetchRequest) : Decidable r.Shallow :=
  inferInstanceAs (Decidable (_ ≤ _))

/-! ## The grammar -/

namespace Predicate

/-- The value is a clause that states the condition. A group has its operator under exactly one of two
names, since the other would be an unknown field. -/
inductive Clause : Value → Predicate → Prop where
  | simple {fields : Record} {v : Value} {text : String} {params : List Value}
    (kind : fields.IsKind simpleTag)
    (text_eq : fields.get? "text" = some v) (spells : v.Spells text)
    (params_eq : fields.getD "params" (.list []) = .list params)
    (closed : fields.ClosedOver ["kind", "text", "params"]) :
    Clause (.object fields) (.simple text params)
  | group {fields : Record} {key : String} {v : Value} {operator : Operator} {items : List Value}
    {members : List Predicate}
    (kind : fields.IsKind groupTag)
    (key_eq : key = "type" ∨ key = "operator")
    (operator_eq : fields.get? key = some v) (spells : v.SpellsWord operator.word)
    (items_eq : fields.getD "predicates" (.list []) = .list items)
    (clauses : List.Forall₂ Clause items members)
    (closed : fields.ClosedOver ["kind", key, "predicates"]) :
    Clause (.object fields) (.group operator members)

end Predicate

/-- The value states the sort key. -/
inductive SortKey.Entry : Value → SortKey → Prop where
  | object {fields : Record} {v : Value} {key : SortKey}
    (column_eq : fields.get? "column" = some v) (spells : v.Spells key.column)
    (direction : (fields.getD "direction" (.text "ASC")).SpellsWord key.direction.word)
    (closed : fields.ClosedOver ["column", "direction"]) : Entry (.object fields) key

/-- The value states the request. -/
inductive FetchRequest.Payload : Value → FetchRequest → Prop where
  | object {fields : Record} {v : Value} {clauses entries : List Value} {r : FetchRequest}
    (table_eq : fields.get? "table" = some v) (spells : v.Spells r.table)
    (clauses_eq : fields.getD "predicates" (.list []) = .list clauses)
    (predicates : List.Forall₂ Predicate.Clause clauses r.predicates)
    (entries_eq : fields.getD "sort" (.list []) = .list entries)
    (sort : List.Forall₂ SortKey.Entry entries r.sort)
    (limit : (fields.getD "limit" .null).Counts r.limit)
    (offset : (fields.getD "offset" .null).Counts r.offset)
    (closed : fields.ClosedOver ["table", "predicates", "sort", "limit", "offset"]) :
    Payload (.object fields) r

/-! ## Words -/

theorem Operator.readWord_eq_ok_iff {v : Value} {operator : Operator} :
    readWord vocabulary Text.upper v = .ok operator ↔ v.SpellsWord operator.word := by
  refine readWord_eq_ok_iff_of_lookup fun word operator => ?_
  rw [vocabulary, lookup_pair_eq_some_iff (by decide)]
  cases operator <;> simp [Operator.word]

theorem Direction.readWord_eq_ok_iff {v : Value} {direction : Direction} :
    readWord vocabulary Text.upper v = .ok direction ↔ v.SpellsWord direction.word := by
  refine readWord_eq_ok_iff_of_lookup fun word direction => ?_
  rw [vocabulary, lookup_pair_eq_some_iff (by decide)]
  cases direction <;> simp [Direction.word]

/-! ## Kinds -/

namespace Predicate

variable {fields : Record}

theorem asText?_eq_some_tag_iff {v : Value} {tag : String} (h : tag ∈ [simpleTag, groupTag]) :
    v.asText? = some tag ↔ v = .text tag := by
  constructor
  · intro hv
    cases v with
    | text s =>
      cases hv
      rfl
    | backend b =>
      cases hv
      exact absurd h (by cases b <;> decide)
    | null | bool | int | float | bytes | list | object => cases hv
  · rintro rfl
    rfl

theorem isSome_operatorKey? (fields : Record) :
    (operatorKey? fields).isSome = (fields.has "operator" || fields.has "type") := by
  rw [operatorKey?]
  cases fields.has "type" <;> cases fields.has "operator" <;> rfl

theorem asText?_tagOf_iff {tag : String} (h : tag ∈ [simpleTag, groupTag]) :
    (tagOf fields).asText? = some tag ↔ fields.IsKind tag := by
  rw [asText?_eq_some_tag_iff h, tagOf, Record.IsKind, isSome_operatorKey?]
  cases fields.get? "kind" with
  | none =>
    cases fields.has "operator" || fields.has "type" with
    | false => simp [eq_comm]
    | true => simp [eq_comm]
  | some kind => simp

/-- The field `kind` is in order once the kind is known. -/
theorem checkKind_of_isKind {tag : String} (h : fields.IsKind tag) :
    checkKind fields tag = .ok () := by
  rw [checkKind, Checked.optional]
  rcases h with h | ⟨h, -⟩
  · rw [h]
    simp [Value.asText?, Checked.under]
  · rw [h]

theorem simpleOfFields_eq_ok_iff {p : Predicate} (h : fields.IsKind simpleTag) :
    simpleOfFields fields = .ok p ↔ ∃ v text params, p = .simple text params ∧
      fields.get? "text" = some v ∧ v.Spells text ∧
      fields.getD "params" (.list []) = .list params ∧
      fields.ClosedOver ["kind", "text", "params"] := by
  have hparams : ∀ params, Checked.optional fields "params" [] readItems = .ok params ↔
      fields.getD "params" (.list []) = .list params := by
    intro params
    rw [optional_eq_ok_iff readItems (.list []) rfl, readItems_eq_ok_iff]
  rw [simpleOfFields, closing_eq_ok_iff, map_eq_ok_iff, checkKind_of_isKind h]
  constructor
  · rintro ⟨⟨⟨u, text, params⟩, hc, rfl⟩, closed⟩
    obtain ⟨-, hc⟩ := both_eq_ok_iff.mp hc
    obtain ⟨ht, hp⟩ := both_eq_ok_iff.mp hc
    obtain ⟨v, hv, hs⟩ := required_eq_ok_iff.mp ht
    exact ⟨v, text, params, rfl, hv, readText_eq_ok_iff.mp hs, (hparams params).mp hp, closed⟩
  · rintro ⟨v, text, params, rfl, hv, hs, hp, closed⟩
    have ht := required_eq_ok_iff.mpr ⟨v, hv, readText_eq_ok_iff.mpr hs⟩
    have hc := both_eq_ok_iff (p := (text, params)).mpr ⟨ht, (hparams params).mpr hp⟩
    exact ⟨⟨((), text, params), both_eq_ok_iff.mpr ⟨rfl, hc⟩, rfl⟩, closed⟩

/-- In closed fields the operator is found under the name that it has. -/
theorem operatorKey?_of_closedOver {key : String} (hkey : key = "type" ∨ key = "operator")
    (hhas : fields.has key = true) (closed : fields.ClosedOver ["kind", key, "predicates"]) :
    operatorKey? fields = some key := by
  rw [operatorKey?]
  rcases hkey with rfl | rfl
  · rw [if_pos hhas]
  · have ht : fields.has "type" = false := by
      by_contra h
      have hmem := closed _ (Record.mem_keys_of_has (eq_true_of_ne_false h))
      exact absurd hmem (by decide)
    rw [ht, hhas]
    rfl

theorem groupOfFields_eq_ok_iff {c : Checked (List Predicate)} {p : Predicate}
    (h : fields.IsKind groupTag) :
    groupOfFields fields c = .ok p ↔ ∃ key v operator members, p = .group operator members ∧
      (key = "type" ∨ key = "operator") ∧ fields.get? key = some v ∧ v.SpellsWord operator.word ∧
      c = .ok members ∧ fields.ClosedOver ["kind", key, "predicates"] := by
  rw [groupOfFields, closing_eq_ok_iff, map_eq_ok_iff, checkKind_of_isKind h]
  constructor
  · rintro ⟨⟨⟨u, operator, members⟩, hc, rfl⟩, closed⟩
    obtain ⟨-, hc⟩ := both_eq_ok_iff.mp hc
    obtain ⟨ho, hm⟩ := both_eq_ok_iff.mp hc
    obtain ⟨v, hv, hw⟩ := required_eq_ok_iff.mp ho
    have hkey : (operatorKey? fields).getD "type" = "type" ∨
        (operatorKey? fields).getD "type" = "operator" := by
      rw [operatorKey?]
      cases fields.has "type" <;> cases fields.has "operator" <;> decide
    exact ⟨_, v, operator, members, rfl, hkey, hv, Operator.readWord_eq_ok_iff.mp hw, hm, closed⟩
  · rintro ⟨key, v, operator, members, rfl, hkey, hv, hw, hm, closed⟩
    have hk := operatorKey?_of_closedOver hkey (Record.has_of_get?_eq_some hv) closed
    have ho : operatorOfFields fields = .ok operator := by
      rw [operatorOfFields, hk]
      exact required_eq_ok_iff.mpr ⟨v, hv, Operator.readWord_eq_ok_iff.mpr hw⟩
    have hc := both_eq_ok_iff (p := (operator, members)).mpr ⟨ho, hm⟩
    rw [hk]
    exact ⟨⟨((), operator, members), both_eq_ok_iff.mpr ⟨rfl, hc⟩, rfl⟩, closed⟩

variable {room : Nat}

theorem read_inside_eq_ok_iff {c : Checked Predicate} {p : Predicate} :
    inside room c = .ok p ↔ 0 < room ∧ c = .ok p := by
  cases room <;> simp [inside, refuse]

theorem readMembers_eq (room : Nat) (fields : Record) :
    readMembers room fields = Checked.optional fields "predicates" [] (readForest room) := by
  induction fields with
  | nil => rfl
  | cons field rest ih =>
    obtain ⟨k, v⟩ := field
    by_cases hk : k = "predicates"
    · simp [readMembers, Checked.optional, Record.get?, hk]
    · rw [readMembers, if_neg hk, ih, Checked.optional, Checked.optional, Record.get?, if_neg hk]

theorem readAll_eq_indexed (room start : Nat) (items : List Value) :
    readAll room start items = indexed (read room) start items := by
  induction items generalizing start with
  | nil => rfl
  | cons v rest ih => rw [readAll, indexed, ih]

theorem readForest_eq_ok_iff {v : Value} {ps : List Predicate} :
    readForest room v = .ok ps ↔
      ∃ items, v = .list items ∧ List.Forall₂ (fun v p => read room v = .ok p) items ps := by
  constructor
  · intro h
    cases v with
    | list items =>
      rw [readForest, readAll_eq_indexed, indexed_eq_ok_iff] at h
      exact ⟨items, rfl, h⟩
    | null | bool | int | float | text | bytes | object | backend => cases h
  · rintro ⟨items, rfl, h⟩
    rwa [readForest, readAll_eq_indexed, indexed_eq_ok_iff]

theorem readMembers_eq_ok_iff {ps : List Predicate} :
    readMembers room fields = .ok ps ↔ ∃ items, fields.getD "predicates" (.list []) = .list items ∧
      List.Forall₂ (fun v p => read room v = .ok p) items ps := by
  rw [readMembers_eq, optional_eq_ok_iff (readForest room) (.list []) rfl, readForest_eq_ok_iff]

/-- A condition is read as what one of the two readings of its fields gives. -/
theorem read_object_eq_ok_iff {p : Predicate} : read room (.object fields) = .ok p ↔
    0 < room ∧ (fields.IsKind simpleTag ∧ simpleOfFields fields = .ok p ∨
      fields.IsKind groupTag ∧ groupOfFields fields (readMembers (room - 1) fields) = .ok p) := by
  have hne : simpleTag ≠ groupTag := by decide
  rw [read, ← asText?_tagOf_iff (by decide), ← asText?_tagOf_iff (by decide)]
  split
  · rename_i h
    simp [h, hne, under_eq_ok_iff, read_inside_eq_ok_iff]
  · rename_i hs
    split
    · rename_i h
      simp [h, hne.symm, under_eq_ok_iff, read_inside_eq_ok_iff]
    · rename_i hg
      simp [hs, hg, refuse]

/-! ## Reading and the grammar -/

theorem forall₂_congr_left {α β : Type} {R S : α → β → Prop} {as : List α} {bs : List β}
    (h : ∀ a ∈ as, ∀ b, R a b ↔ S a b) : List.Forall₂ R as bs ↔ List.Forall₂ S as bs := by
  induction as generalizing bs with
  | nil => rw [List.forall₂_nil_left_iff, List.forall₂_nil_left_iff]
  | cons a rest ih =>
    have ha := h a (List.mem_cons_self ..)
    have hrest : ∀ bs, List.Forall₂ R rest bs ↔ List.Forall₂ S rest bs :=
      fun bs => ih fun c hc => h c (List.mem_cons_of_mem _ hc)
    simp only [List.forall₂_cons_left_iff, ha, hrest]

theorem forall₂_clause_and_depth_iff {items : List Value} {ps : List Predicate} :
    List.Forall₂ (fun v p => Clause v p ∧ p.depth ≤ room) items ps ↔
      List.Forall₂ Clause items ps ∧ depthOf ps ≤ room := by
  induction ps generalizing items with
  | nil => simp [depthOf]
  | cons p rest ih =>
    simp only [List.forall₂_cons_right_iff, ih, depthOf, Nat.max_le]
    constructor
    · rintro ⟨v, items, ⟨hp, hd⟩, ⟨hrest, hds⟩, rfl⟩
      exact ⟨⟨v, items, hp, hrest, rfl⟩, hd, hds⟩
    · rintro ⟨⟨v, items, hp, hrest, rfl⟩, hd, hds⟩
      exact ⟨v, items, ⟨hp, hd⟩, ⟨hrest, hds⟩, rfl⟩

/-- The reader of conditions accepts the clauses of the grammar for which there is room. -/
theorem read_eq_ok_iff (room : Nat) (v : Value) (p : Predicate) :
    read room v = .ok p ↔ Clause v p ∧ p.depth ≤ room := by
  induction v using Value.clauseInduction generalizing room p with
  | object fields ih =>
    have hitems : ∀ items ps, fields.getD "predicates" (.list []) = .list items →
        (List.Forall₂ (fun v p => read (room - 1) v = .ok p) items ps ↔
          List.Forall₂ Clause items ps ∧ depthOf ps ≤ room - 1) :=
      fun items ps hi => (forall₂_congr_left fun v hv p => ih items hi v hv (room - 1) p).trans
        forall₂_clause_and_depth_iff
    rw [read_object_eq_ok_iff]
    constructor
    · rintro ⟨hroom, ⟨kind, h⟩ | ⟨kind, h⟩⟩
      · obtain ⟨v, text, params, rfl, hv, hs, hp, closed⟩ := (simpleOfFields_eq_ok_iff kind).mp h
        exact ⟨.simple kind hv hs hp closed, hroom⟩
      · obtain ⟨key, v, operator, members, rfl, hkey, hv, hw, hm, closed⟩ :=
          (groupOfFields_eq_ok_iff kind).mp h
        obtain ⟨items, hi, hm⟩ := readMembers_eq_ok_iff.mp hm
        obtain ⟨hm, hd⟩ := (hitems items members hi).mp hm
        refine ⟨.group kind hkey hv hw hi hm closed, ?_⟩
        rw [depth]
        omega
    · rintro ⟨h, hd⟩
      refine ⟨Nat.lt_of_lt_of_le (depth_pos p) hd, ?_⟩
      cases h with
      | simple kind hv hs hp closed =>
        exact .inl ⟨kind, (simpleOfFields_eq_ok_iff kind).mpr ⟨_, _, _, rfl, hv, hs, hp, closed⟩⟩
      | group kind hkey hv hw hi hm closed =>
        have hmd := (hitems _ _ hi).mpr ⟨hm, Nat.le_sub_of_add_le hd⟩
        have hr := readMembers_eq_ok_iff.mpr ⟨_, hi, hmd⟩
        exact .inr ⟨kind,
          (groupOfFields_eq_ok_iff kind).mpr ⟨_, _, _, _, rfl, hkey, hv, hw, hr, closed⟩⟩
  | other v h =>
    have hc : ¬ Clause v p := by
      intro hc
      cases hc with
      | simple => exact h _ rfl
      | group => exact h _ rfl
    have hr : read room v = refuse .tagAbsent := by
      cases v with
      | object fields => exact absurd rfl (h fields)
      | null | bool | int | float | text | bytes | list | backend => rfl
    rw [hr]
    exact ⟨nofun, fun hp => absurd hp.1 hc⟩

/-- A value states one condition at most: with enough room it is read as that condition. -/
theorem Clause.unique : Relator.RightUnique Clause := by
  intro v p q hp hq
  have hp := (read_eq_ok_iff (max p.depth q.depth) v p).mpr ⟨hp, Nat.le_max_left ..⟩
  have hq := (read_eq_ok_iff (max p.depth q.depth) v q).mpr ⟨hq, Nat.le_max_right ..⟩
  exact Except.ok.inj (hp.symm.trans hq)

theorem readForest_eq_ok_iff_clauses {v : Value} {ps : List Predicate} :
    readForest room v = .ok ps ↔
      ∃ items, v = .list items ∧ List.Forall₂ Clause items ps ∧ depthOf ps ≤ room := by
  simp only [readForest_eq_ok_iff, read_eq_ok_iff, forall₂_clause_and_depth_iff]

end Predicate

namespace SortKey

theorem read_eq_ok_iff (v : Value) (key : SortKey) : SortKey.read v = .ok key ↔ Entry v key := by
  cases v with
  | object fields =>
    have hdirection : ∀ direction, Checked.optional fields "direction" .ascending
        (readWord Direction.vocabulary Text.upper) = .ok direction ↔
          (Record.getD fields "direction" (.text "ASC")).SpellsWord direction.word := by
      intro direction
      rw [optional_eq_ok_iff (readWord Direction.vocabulary Text.upper) (.text "ASC") rfl,
        Direction.readWord_eq_ok_iff]
    rw [SortKey.read, closing_eq_ok_iff, map_eq_ok_iff]
    constructor
    · rintro ⟨⟨⟨column, direction⟩, hc, rfl⟩, closed⟩
      obtain ⟨hcolumn, hd⟩ := both_eq_ok_iff.mp hc
      obtain ⟨v, hv, hs⟩ := required_eq_ok_iff.mp hcolumn
      exact .object hv (readText_eq_ok_iff.mp hs) ((hdirection direction).mp hd) closed
    · intro h
      cases h with
      | object hv hs hd closed =>
        have hcolumn := required_eq_ok_iff.mpr ⟨_, hv, readText_eq_ok_iff.mpr hs⟩
        exact ⟨⟨(_, _), both_eq_ok_iff.mpr ⟨hcolumn, (hdirection _).mpr hd⟩, rfl⟩, closed⟩
  | null | bool | int | float | text | bytes | list | backend => exact ⟨nofun, nofun⟩

theorem readAll_eq_ok_iff {v : Value} {sort : List SortKey} :
    readAll v = .ok sort ↔ ∃ entries, v = .list entries ∧ List.Forall₂ Entry entries sort := by
  have hitems : ∀ items, indexed read 0 items = .ok sort ↔ List.Forall₂ Entry items sort := by
    intro items
    rw [indexed_eq_ok_iff]
    simp only [read_eq_ok_iff]
  constructor
  · intro h
    cases v with
    | list entries => exact ⟨entries, rfl, (hitems entries).mp h⟩
    | null | bool | int | float | text | bytes | object | backend => cases h
  · rintro ⟨entries, rfl, h⟩
    exact (hitems entries).mpr h

end SortKey

namespace FetchRequest

theorem optional_count_eq_ok_iff {fields : Record} {key : String} {count : Option Nat} :
    Checked.optional fields key none (readNullable readCount) = .ok count ↔
      (fields.getD key .null).Counts count := by
  rw [optional_eq_ok_iff (readNullable readCount) .null rfl, readNullable_readCount_eq_ok_iff]

theorem read_eq_ok_iff (v : Value) (r : FetchRequest) :
    FetchRequest.read v = .ok r ↔ Payload v r ∧ r.Shallow := by
  cases v with
  | object fields =>
    have hclauses : ∀ ps, Checked.optional fields "predicates" []
          (Predicate.readForest Predicate.nestingLimit) = .ok ps ↔
        ∃ items, Record.getD fields "predicates" (.list []) = .list items ∧
          List.Forall₂ Predicate.Clause items ps ∧
          Predicate.depthOf ps ≤ Predicate.nestingLimit := by
      intro ps
      rw [optional_eq_ok_iff (Predicate.readForest _) (.list []) rfl,
        Predicate.readForest_eq_ok_iff_clauses]
    have hentries : ∀ sort, Checked.optional fields "sort" [] SortKey.readAll = .ok sort ↔
        ∃ entries, Record.getD fields "sort" (.list []) = .list entries ∧
          List.Forall₂ SortKey.Entry entries sort := by
      intro sort
      rw [optional_eq_ok_iff SortKey.readAll (.list []) rfl, SortKey.readAll_eq_ok_iff]
    rw [FetchRequest.read, ofFields, closing_eq_ok_iff, map_eq_ok_iff]
    constructor
    · rintro ⟨⟨⟨table, predicates, sort, limit, offset⟩, hc, rfl⟩, closed⟩
      obtain ⟨htable, hc⟩ := both_eq_ok_iff.mp hc
      obtain ⟨hpredicates, hc⟩ := both_eq_ok_iff.mp hc
      obtain ⟨hsort, hc⟩ := both_eq_ok_iff.mp hc
      obtain ⟨hlimit, hoffset⟩ := both_eq_ok_iff.mp hc
      obtain ⟨v, hv, hs⟩ := required_eq_ok_iff.mp htable
      obtain ⟨clauses, hi, hm, hd⟩ := (hclauses predicates).mp hpredicates
      obtain ⟨entries, he, hk⟩ := (hentries sort).mp hsort
      exact ⟨.object hv (readText_eq_ok_iff.mp hs) hi hm he hk
        (optional_count_eq_ok_iff.mp hlimit) (optional_count_eq_ok_iff.mp hoffset) closed, hd⟩
    · rintro ⟨h, hd⟩
      cases h with
      | object hv hs hi hm he hk hlimit hoffset closed =>
        have htable := required_eq_ok_iff.mpr ⟨_, hv, readText_eq_ok_iff.mpr hs⟩
        have hpredicates := (hclauses _).mpr ⟨_, hi, hm, hd⟩
        have hsort := (hentries _).mpr ⟨_, he, hk⟩
        have hwindow := both_eq_ok_iff (p := (_, _)).mpr
          ⟨optional_count_eq_ok_iff.mpr hlimit, optional_count_eq_ok_iff.mpr hoffset⟩
        have hrest := both_eq_ok_iff (p := (_, _)).mpr ⟨hsort, hwindow⟩
        have hforest := both_eq_ok_iff (p := (_, _)).mpr ⟨hpredicates, hrest⟩
        exact ⟨⟨_, both_eq_ok_iff (p := (_, _)).mpr ⟨htable, hforest⟩, rfl⟩, closed⟩
  | null | bool | int | float | text | bytes | list | backend =>
    refine ⟨nofun, fun h => ?_⟩
    cases h.1

/-- A value states one request at most. -/
theorem Payload.unique : Relator.RightUnique Payload := by
  intro v r s hr hs
  obtain ⟨table, predicates, sort, limit, offset⟩ := r
  obtain ⟨table', predicates', sort', limit', offset'⟩ := s
  cases hr with
  | object ht hsp hi hm he hk hlimit hoffset =>
    cases hs with
    | object ht' hsp' hi' hm' he' hk' hlimit' hoffset' =>
      cases ht.symm.trans ht'
      cases hi.symm.trans hi'
      cases he.symm.trans he'
      have hspells : Relator.RightUnique Value.Spells :=
        rightUnique_of_eq_ok_iff fun _ _ => readText_eq_ok_iff
      have hcounts : Relator.RightUnique Value.Counts :=
        rightUnique_of_eq_ok_iff fun _ _ => readNullable_readCount_eq_ok_iff
      cases hspells hsp hsp'
      cases Predicate.Clause.unique.forall₂ hm hm'
      cases (rightUnique_of_eq_ok_iff SortKey.read_eq_ok_iff).forall₂ hk hk'
      cases hcounts hlimit hlimit'
      cases hcounts hoffset hoffset'
      rfl

end FetchRequest

/-! ## Refusals -/

namespace Predicate

theorem explained_checkKind (fields : Record) (tag : String) : (checkKind fields tag).Explained := by
  refine explained_optional (fun v => ?_) fields "kind" ()
  split
  · exact explained_ok ()
  · exact explained_refuse _

theorem explained_simpleOfFields (fields : Record) : (simpleOfFields fields).Explained := by
  have hkind := explained_checkKind fields simpleTag
  have htext := explained_required explained_readText fields "text"
  have hparams := explained_optional explained_readItems fields "params" []
  exact ((hkind.both (htext.both hparams)).map _).closing _ _

theorem explained_groupOfFields {fields : Record} {c : Checked (List Predicate)}
    (h : c.Explained) : (groupOfFields fields c).Explained := by
  have hkind := explained_checkKind fields groupTag
  have hoperator : (operatorOfFields fields).Explained :=
    explained_required (explained_readWord _ _) fields _
  exact ((hkind.both (hoperator.both h)).map _).closing _ _

theorem explained_readForest {room : Nat} {v : Value}
    (h : ∀ items, v = .list items → ∀ w ∈ items, (read room w).Explained) :
    (readForest room v).Explained := by
  cases v with
  | list items =>
    rw [readForest, readAll_eq_indexed]
    exact explained_indexed (h items rfl) 0
  | null | bool | int | float | text | bytes | object | backend => exact explained_refuse _

theorem explained_inside {c : Checked Predicate} (h : c.Explained) (room : Nat) :
    (inside room c).Explained := by
  cases room with
  | zero => exact explained_refuse _
  | succ n => exact h

theorem explained_read (room : Nat) (v : Value) : (read room v).Explained := by
  induction v using Value.clauseInduction generalizing room with
  | object fields ih =>
    have hmembers : (readMembers (room - 1) fields).Explained := by
      rw [readMembers_eq, Checked.optional]
      cases hg : fields.get? "predicates" with
      | none => exact explained_ok []
      | some w =>
        refine (explained_readForest fun items hw u hu => ih items ?_ u hu (room - 1)).under _
        rw [Record.getD, hg, hw]
        rfl
    rw [read]
    split
    · exact (explained_inside (explained_simpleOfFields fields) room).under _
    · split
      · exact (explained_inside (explained_groupOfFields hmembers) room).under _
      · exact explained_refuse _
  | other v h =>
    cases v with
    | object fields => exact absurd rfl (h fields)
    | null | bool | int | float | text | bytes | list | backend => exact explained_refuse _

end Predicate

theorem SortKey.explained_read (v : Value) : (SortKey.read v).Explained := by
  cases v with
  | object fields =>
    have hcolumn := explained_required explained_readText fields "column"
    have hdirection := explained_optional
      (explained_readWord Direction.vocabulary Text.upper) fields "direction" .ascending
    exact ((hcolumn.both hdirection).map _).closing _ _
  | null | bool | int | float | text | bytes | list | backend => exact explained_refuse _

theorem SortKey.explained_readAll (v : Value) : (SortKey.readAll v).Explained := by
  cases v with
  | list entries => exact explained_indexed (fun v _ => SortKey.explained_read v) 0
  | null | bool | int | float | text | bytes | object | backend => exact explained_refuse _

namespace FetchRequest

theorem explained_read (v : Value) : (FetchRequest.read v).Explained := by
  cases v with
  | object fields =>
    have htable := explained_required explained_readText fields "table"
    have hforest : ∀ v, (Predicate.readForest Predicate.nestingLimit v).Explained := fun v =>
      Predicate.explained_readForest fun _ _ w _ => Predicate.explained_read _ w
    have hpredicates := explained_optional hforest fields "predicates" []
    have hsort := explained_optional SortKey.explained_readAll fields "sort" []
    have hcount := fun key =>
      explained_optional (explained_readNullable explained_readCount) fields key none
    have hwindow := (hcount "limit").both (hcount "offset")
    exact ((htable.both (hpredicates.both (hsort.both hwindow))).map _).closing _ _
  | null | bool | int | float | text | bytes | list | backend => exact explained_refuse _

end FetchRequest

/-! ## Conditions that stand too deep -/

namespace Predicate

end Predicate

namespace FetchRequest

end FetchRequest

end DataFetch
