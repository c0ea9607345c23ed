import DataFetch.Proofs.Request.Grammar
import DataFetch.Request.Draft

/-! # Drafts and payloads

A draft that was put together by calls stands for the payload that lists what was asked for by those
calls that were not refused. Main statement: whatever the calls are and however many of them fail, the
draft is built with the same outcome as the payload is read with, and it is compiled accordingly.
-/
namespace DataFetch

open Outcome

namespace Value

def fragmentClause (text : Value) (params : List Value) : Value :=
  .object [("text", text), ("params", .list params)]

def groupClause (operator : Operator) (members : List Value) : Value :=
  .object [("type", .text operator.word), ("predicates", .list members)]

def sortEntry (column direction : Value) : Value :=
  .object [("column", column), ("direction", direction)]

/-- The values that a single condition binds; a text or a row of bytes is one of them. -/
def boundList : Value → List Value
  | text s => [text s]
  | bytes bs => [bytes bs]
  | backend b => [backend b]
  | v => v.elements?.getD []

/-- The clause that lists a text in front of its values. -/
def memberClause (clause : Value) : Value :=
  match clause.elements? with
  | some (first :: params) => fragmentClause first params
  | _ => null

end Value

namespace DraftStep

/-- The clauses that a payload has for a call. -/
def clauses : DraftStep → List Value
  | condition text params => [Value.fragmentClause text params.boundList]
  | group operator members => [Value.groupClause operator (members.map Value.memberClause)]
  | _ => []

/-- The sort entries that a payload has for a call. -/
def entries : DraftStep → List Value
  | orderBy column direction => [Value.sortEntry column direction]
  | _ => []

end DraftStep

namespace Draft

/-- The calls that are not refused. -/
def accepted (layout : Layout) (d : Draft) : List DraftStep → List DraftStep
  | [] => []
  | s :: rest =>
    let (next, reply) := d.apply layout s
    (if reply.isOk then [s] else []) ++ next.accepted layout rest

/-- The payload that asks for the same as the calls that are not refused, in the window that all calls
leave behind. -/
def payload (layout : Layout) (table : Value) (steps : List DraftStep) : Value :=
  let calls := (start table).accepted layout steps
  let last := (start table).applyAll layout steps
  .object [("table", table), ("predicates", .list (calls.flatMap DraftStep.clauses)),
    ("sort", .list (calls.flatMap DraftStep.entries)), ("limit", last.limit),
    ("offset", last.offset)]

/-! ## Reading what a call asks for -/

theorem read_fragmentClause {text : Value} {params : List Value} {p : Predicate} (room : Nat)
    (h : fragment text params = .ok p) :
    Predicate.read (room + 1) (Value.fragmentClause text params) = .ok p := by
  have hr : Predicate.readSimple (Value.fragmentClause text params) = .ok p :=
    mapError_eq_ok_iff.mp h
  have hu : Predicate.read (room + 1) (Value.fragmentClause text params) =
      (Predicate.readSimple (Value.fragmentClause text params)).under
        (.key simpleTag) := rfl
  rw [hu, hr]
  rfl

theorem boundValues_eq_ok {params : Value} {values : List Value}
    (h : boundValues params = .ok values) : values = params.boundList := by
  cases params <;> cases h <;> rfl

theorem memberClause_of_splitClause {clause text : Value} {params : List Value}
    (h : splitClause clause = .ok (text, params)) :
    clause.memberClause = Value.fragmentClause text params := by
  rw [splitClause] at h
  rw [Value.memberClause]
  split at h
  · cases h
  · cases h
  · rename_i he
    cases h
    rw [he]

theorem read_members {clauses : List Value} {ps : List Predicate} (room : Nat)
    (h : members clauses = .ok ps) :
    List.Forall₂ (fun v p => Predicate.read (room + 1) v = .ok p)
      (clauses.map Value.memberClause) ps := by
  induction clauses generalizing ps with
  | nil =>
    cases h
    exact .nil
  | cons clause rest ih =>
    rw [members] at h
    obtain ⟨⟨text, params⟩, hsplit, h⟩ := bind_eq_ok_iff.mp h
    obtain ⟨p, hp, h⟩ := bind_eq_ok_iff.mp h
    obtain ⟨qs, hqs, h⟩ := bind_eq_ok_iff.mp h
    cases h
    have hm := memberClause_of_splitClause (mapError_eq_ok_iff.mp hsplit)
    rw [List.map_cons, hm]
    exact .cons (read_fragmentClause room hp) (ih hqs)

theorem read_groupClause (operator : Operator) {room : Nat} {members : List Value}
    {ps : List Predicate} (h : List.Forall₂ (fun v p => Predicate.read room v = .ok p) members ps) :
    Predicate.read (room + 1) (Value.groupClause operator members) = .ok (.group operator ps) := by
  have hm : Predicate.readAll room 0 members = .ok ps := by
    rw [Predicate.readAll_eq_indexed]
    exact Checked.indexed_eq_ok_iff.mpr h
  change ((Predicate.groupOfFields _
    ((Predicate.readAll room 0 members).under (.key "predicates"))).under _) = _
  rw [hm]
  cases operator <;> rfl

/-! ## One call -/

/-- What a draft holds was read from clauses and sort entries; its table is as given. -/
structure Holds (d : Draft) (given : Value) (clauses entries : List Value) : Prop where
  table : d.table = given
  predicates :
    List.Forall₂ (fun v p => Predicate.read Predicate.nestingLimit v = .ok p) clauses d.predicates
  sort : List.Forall₂ (fun v k => SortKey.read v = .ok k) entries d.sort

section Step

variable {layout : Layout} {d next : Draft} {given : Value} {clauses entries : List Value}
variable {s : DraftStep}

theorem guarded_of_isOk {c : Except Refusal Draft} (h : (d.guarded c).2.isOk) :
    ∃ next, c = .ok next ∧ (d.guarded c).1 = next := by
  cases c with
  | ok next => exact ⟨next, rfl, rfl⟩
  | error r => cases h

theorem guarded_of_not_isOk {c : Except Refusal Draft} (h : ¬ (d.guarded c).2.isOk) :
    (d.guarded c).1 = d := by
  cases c with
  | ok next => exact absurd rfl h
  | error r => rfl

theorem Holds.condition {text params : Value} (h : d.Holds given clauses entries)
    (hc : d.condition text params = .ok next) :
    next.Holds given (clauses ++ [Value.fragmentClause text params.boundList]) entries := by
  rw [Draft.condition] at hc
  obtain ⟨values, hv, hc⟩ := bind_eq_ok_iff.mp hc
  obtain ⟨p, hp, hc⟩ := bind_eq_ok_iff.mp hc
  cases hc
  have hvalues := boundValues_eq_ok (mapError_eq_ok_iff.mp hv)
  subst hvalues
  exact ⟨h.table, List.rel_append h.predicates (.cons (read_fragmentClause _ hp) .nil), h.sort⟩

theorem Holds.group {operator : Operator} {cs : List Value} (h : d.Holds given clauses entries)
    (hc : d.group operator cs = .ok next) :
    next.Holds given (clauses ++ [Value.groupClause operator (cs.map Value.memberClause)])
      entries := by
  rw [Draft.group] at hc
  obtain ⟨ps, hps, hc⟩ := bind_eq_ok_iff.mp hc
  cases hc
  have hg : Predicate.read Predicate.nestingLimit _ = _ :=
    read_groupClause operator (read_members _ hps)
  exact ⟨h.table, List.rel_append h.predicates (.cons hg .nil), h.sort⟩

theorem Holds.orderBy {column direction : Value} (h : d.Holds given clauses entries)
    (hc : d.orderBy column direction = .ok next) :
    next.Holds given clauses (entries ++ [Value.sortEntry column direction]) := by
  rw [Draft.orderBy] at hc
  obtain ⟨k, hk, hc⟩ := bind_eq_ok_iff.mp hc
  cases hc
  have hr : SortKey.read (Value.sortEntry column direction) = .ok k := mapError_eq_ok_iff.mp hk
  exact ⟨h.table, h.predicates, List.rel_append h.sort (.cons hr .nil)⟩

/-- A page changes the window only, also when its offset cannot be computed. -/
theorem Holds.page (h : d.Holds given clauses entries) (number size : Value) :
    (d.page number size).1.Holds given clauses entries := by
  rw [Draft.page]
  split <;> exact ⟨h.table, h.predicates, h.sort⟩

theorem Holds.append_nil (h : d.Holds given clauses entries) :
    d.Holds given (clauses ++ []) (entries ++ []) := by
  rw [List.append_nil, List.append_nil]
  exact h

/-- A call that is not refused adds what a payload has for it. -/
theorem Holds.of_isOk (h : d.Holds given clauses entries) (hs : (d.apply layout s).2.isOk) :
    (d.apply layout s).1.Holds given (clauses ++ s.clauses) (entries ++ s.entries) := by
  cases s with
  | condition text params =>
    obtain ⟨next, hc, hn⟩ := guarded_of_isOk hs
    rw [apply, hn]
    simpa [DraftStep.clauses, DraftStep.entries] using h.condition hc
  | group operator cs =>
    obtain ⟨next, hc, hn⟩ := guarded_of_isOk hs
    rw [apply, hn]
    simpa [DraftStep.clauses, DraftStep.entries] using h.group hc
  | orderBy column direction =>
    obtain ⟨next, hc, hn⟩ := guarded_of_isOk hs
    rw [apply, hn]
    simpa [DraftStep.clauses, DraftStep.entries] using h.orderBy hc
  | page number size => exact (h.page number size).append_nil
  | limit | offset | build | compile =>
    exact Holds.append_nil ⟨h.table, h.predicates, h.sort⟩
  | refused m => cases hs

/-- A call that is refused adds nothing. -/
theorem Holds.of_not_isOk (h : d.Holds given clauses entries)
    (hs : ¬ (d.apply layout s).2.isOk) : (d.apply layout s).1.Holds given clauses entries := by
  cases s with
  | condition | group | orderBy =>
    rw [apply, guarded_of_not_isOk hs]
    exact h
  | page number size => exact h.page number size
  | limit | offset | build | compile | refused => exact ⟨h.table, h.predicates, h.sort⟩

end Step

/-! ## All calls -/

theorem Holds.applyAll {layout : Layout} {d : Draft} {given : Value} {clauses entries : List Value}
    (h : d.Holds given clauses entries) (steps : List DraftStep) :
    (d.applyAll layout steps).Holds given
      (clauses ++ (d.accepted layout steps).flatMap DraftStep.clauses)
      (entries ++ (d.accepted layout steps).flatMap DraftStep.entries) := by
  induction steps generalizing d clauses entries with
  | nil => simpa [Draft.applyAll, accepted] using h
  | cons s rest ih =>
    by_cases hs : (d.apply layout s).2.isOk
    · have hn := ih (h.of_isOk hs)
      simpa [Draft.applyAll, accepted, hs] using hn
    · have hn := ih (h.of_not_isOk hs)
      simpa [Draft.applyAll, accepted, hs] using hn

/-- A payload with all fields, as it is read. -/
theorem read_fields (table predicates sort limit offset : Value) :
    FetchRequest.read (.object [("table", table), ("predicates", predicates), ("sort", sort),
      ("limit", limit), ("offset", offset)]) =
    (((Validation.readText table).under (.key "table")).both
      (((Predicate.readForest Predicate.nestingLimit predicates).under (.key "predicates")).both
        (((SortKey.readAll sort).under (.key "sort")).both
          (((Validation.readNullable Validation.readCount limit).under (.key "limit")).both
            ((Validation.readNullable Validation.readCount offset).under (.key "offset")))))).map
      fun (t, ps, s, l, o) => ⟨t, ps, s, l, o⟩ := by
  rw [FetchRequest.read, FetchRequest.ofFields, Checked.closing_of_known]
  · rfl
  · exact fun key h => h

/-- A draft is built as the payload is read from which it holds everything. -/
theorem Holds.build_eq {d : Draft} {given : Value} {clauses entries : List Value}
    (h : d.Holds given clauses entries) :
    d.build = FetchRequest.read (.object [("table", given), ("predicates", .list clauses),
      ("sort", .list entries), ("limit", d.limit), ("offset", d.offset)]) := by
  have hpredicates :
      Predicate.readForest Predicate.nestingLimit (.list clauses) = .ok d.predicates := by
    rw [Predicate.readForest, Predicate.readAll_eq_indexed]
    exact Checked.indexed_eq_ok_iff.mpr h.predicates
  have hsort : SortKey.readAll (.list entries) = .ok d.sort := Checked.indexed_eq_ok_iff.mpr h.sort
  rw [read_fields, hpredicates, hsort, Checked.under, Checked.under, Checked.ok_both,
    Checked.ok_both, Checked.both_map_right, Checked.both_map_right, Checked.map_map,
    Checked.map_map, build, h.table]
  rfl

/-- Whatever calls were made, a draft is built with the same outcome as the payload is read with that
lists what the calls that were not refused asked for, and it is compiled with the outcome of writing the
request in that payload. -/
theorem builds_and_compiles_as_payload (layout : Layout) (table : Value) (steps : List DraftStep) :
    let d := (start table).applyAll layout steps
    let outcome := FetchRequest.read (payload layout table steps)
    d.build = outcome ∧
      d.compile layout = (outcome.mapError .invalid).bind
        (fun r => (layout.compile r).mapError .misuse) ∧
      d.apply layout .build = (d, (outcome.mapError .invalid).map .request) ∧
      d.apply layout .compile = (d, (d.compile layout).map .command) := by
  intro d outcome
  -- the invariant holds of the empty draft and the empty payload, and every call keeps it
  have hstart : (start table).Holds table [] [] := ⟨rfl, .nil, .nil⟩
  have hbuild : d.build = outcome := (hstart.applyAll steps).build_eq
  refine ⟨hbuild, ?_, ?_, rfl⟩
  · rw [compile, hbuild]
    rfl
  · rw [apply, hbuild]

example :
    payload {} (.text "t") [.condition (.text "a = ?") (.text "xy"), .condition .null (.list []),
      .limit (.text "3")] =
    .object [("table", .text "t"),
      ("predicates", .list [.object [("text", .text "a = ?"), ("params", .list [.text "xy"])]]),
      ("sort", .list []), ("limit", .text "3"), ("offset", .null)] := by
  rfl

end Draft

end DataFetch
