import DataFetch.Proofs.Value.PlainForm
import DataFetch.Request.Dump

/-! # Payloads of requests

What dumping makes, described without its limits and its second attempts. Main statement: a request has
a payload exactly when the levels of each outermost condition fit and all bytes bound in it encode
texts. A second attempt, which takes more levels than the first, never makes a difference to this.
-/
namespace DataFetch

open Outcome

namespace Predicate

mutual
/-- The payload of a condition. -/
def payload (operatorKey : String) : Predicate → Value
  | simple text params => dumpFragment text (Value.plainForms params)
  | group operator members => dumpGroup operatorKey operator (payloads operatorKey members)

def payloads (operatorKey : String) : List Predicate → List Value
  | [] => []
  | p :: rest => p.payload operatorKey :: payloads operatorKey rest
end

mutual
/-- The levels of a condition with those of its values. -/
def levels : Predicate → Nat
  | simple _ params => Value.levelsOfItems params + 1
  | group _ members => levelsOf members + 1

def levelsOf : List Predicate → Nat
  | [] => 0
  | p :: rest => max p.levels (levelsOf rest)
end

/-- The levels of an outermost condition, where a group takes two. -/
def outerLevels : Predicate → Nat
  | simple text params => (simple text params).levels
  | group operator members => (group operator members).levels + 1

/-- All values bound in a condition, with those that they are made of. -/
def bound (p : Predicate) : List Value :=
  p.leaves.flatMap fun leaf => Value.partsOfItems leaf.2

def boundIn (ps : List Predicate) : List Value :=
  (leavesOf ps).flatMap fun leaf => Value.partsOfItems leaf.2

theorem bound_simple (text : String) (params : List Value) :
    (simple text params).bound = Value.partsOfItems params := by
  rw [bound, leaves, List.flatMap_singleton]

theorem bound_group (operator : Operator) (members : List Predicate) :
    (group operator members).bound = boundIn members := by
  rw [bound, boundIn, leaves]

theorem boundIn_nil : boundIn [] = [] := rfl

theorem boundIn_cons (p : Predicate) (rest : List Predicate) :
    boundIn (p :: rest) = p.bound ++ boundIn rest := by
  rw [boundIn, leavesOf, List.flatMap_append, bound, boundIn]

/-! ## First attempts -/

variable (operatorKey : String)

theorem dumpParts?_cons_eq_some_iff {room : Nat} {p : Predicate} {rest : List Predicate}
    {vs : List Value} : dumpParts? operatorKey room (p :: rest) = some vs ↔
      ∃ x xs, p.dumpPart? operatorKey room = some x ∧ dumpParts? operatorKey room rest = some xs ∧
        vs = x :: xs := by
  rw [dumpParts?]
  cases p.dumpPart? operatorKey room with
  | none => simp
  | some x =>
    constructor
    · intro h
      obtain ⟨xs, hxs, rfl⟩ := Option.map_eq_some_iff.mp h
      exact ⟨x, xs, rfl, hxs, rfl⟩
    · rintro ⟨_, xs, hx, hxs, rfl⟩
      cases hx
      exact Option.map_eq_some_iff.mpr ⟨xs, hxs, rfl⟩

mutual
theorem dumpPart?_eq_some_iff (p : Predicate) (room : Nat) (v : Value) :
    p.dumpPart? operatorKey room = some v ↔
      p.levels ≤ room ∧ (∀ x ∈ p.bound, x.Encoded) ∧ v = p.payload operatorKey := by
  cases p with
  | simple text params =>
    rw [dumpPart?, inside_eq_some_iff, levels, bound_simple, payload]
    simp only [toOption_eq_some_iff]
    exact level_fits_iff (Value.plainItems_eq_ok_iff params) _ room v
  | group operator members =>
    rw [dumpPart?, inside_eq_some_iff, levels, bound_group, payload]
    exact level_fits_iff (dumpParts?_eq_some_iff members) _ room v

theorem dumpParts?_eq_some_iff (ps : List Predicate) (room : Nat) (vs : List Value) :
    dumpParts? operatorKey room ps = some vs ↔
      levelsOf ps ≤ room ∧ (∀ x ∈ boundIn ps, x.Encoded) ∧ vs = payloads operatorKey ps := by
  cases ps with
  | nil => simp [dumpParts?, levelsOf, boundIn_nil, payloads, eq_comm]
  | cons p rest =>
    simp only [dumpParts?_cons_eq_some_iff, dumpPart?_eq_some_iff p room,
      dumpParts?_eq_some_iff rest room]
    rw [both_fit_iff (· :: ·), levelsOf, boundIn_cons, payloads, List.forall_mem_append]
end

/-! ## Members and outermost conditions -/

theorem dumpMembers_cons_eq_ok_iff {room : Nat} {p : Predicate} {rest : List Predicate}
    {vs : List Value} : dumpMembers operatorKey room (p :: rest) = .ok vs ↔
      ∃ x xs, p.dumpMember operatorKey room = .ok x ∧ dumpMembers operatorKey room rest = .ok xs ∧
        vs = x :: xs := by
  rw [dumpMembers]
  cases p.dumpMember operatorKey room with
  | error e => simp
  | ok x => simp [map_eq_ok_iff]

mutual
/-- A member has a payload exactly when it has one as a part of the whole: by itself its levels fit
only where they would have fitted before. -/
theorem dumpMember_eq_ok_iff (p : Predicate) (room : Nat) (v : Value) :
    p.dumpMember operatorKey room = .ok v ↔
      p.levels ≤ room ∧ (∀ x ∈ p.bound, x.Encoded) ∧ v = p.payload operatorKey := by
  cases p with
  | simple text params =>
    rw [dumpMember, inside_eq_ok_iff, levels, bound_simple, payload]
    simp only [mapError_eq_ok_iff]
    exact level_fits_iff (Value.plainItems_eq_ok_iff params) _ room v
  | group operator members =>
    rw [dumpMember]
    cases hp : dumpPart? operatorKey room (group operator members) with
    | some w =>
      rw [← dumpPart?_eq_some_iff, hp, Except.ok.injEq, Option.some.injEq]
    | none =>
      have hnot := not_fits_of_eq_none (dumpPart?_eq_some_iff operatorKey _ room) hp
      constructor
      · intro h
        by_cases hr : room < 2
        · simp [hr] at h
        · simp only [hr, if_false] at h
          obtain ⟨ms, hms, rfl⟩ := map_eq_ok_iff.mp h
          obtain ⟨hl, hs, -⟩ := (dumpMembers_eq_ok_iff members (room - 2) ms).mp hms
          refine (hnot ⟨?_, by rwa [bound_group]⟩).elim
          rw [levels]
          omega
      · rintro ⟨hl, hs, -⟩
        exact (hnot ⟨hl, hs⟩).elim

theorem dumpMembers_eq_ok_iff (ps : List Predicate) (room : Nat) (vs : List Value) :
    dumpMembers operatorKey room ps = .ok vs ↔
      levelsOf ps ≤ room ∧ (∀ x ∈ boundIn ps, x.Encoded) ∧ vs = payloads operatorKey ps := by
  cases ps with
  | nil => simp [dumpMembers, levelsOf, boundIn_nil, payloads, eq_comm]
  | cons p rest =>
    simp only [dumpMembers_cons_eq_ok_iff, dumpMember_eq_ok_iff p room,
      dumpMembers_eq_ok_iff rest room]
    rw [both_fit_iff (· :: ·), levelsOf, boundIn_cons, payloads, List.forall_mem_append]
end

theorem outerLevels_group_le_iff {operator : Operator} {members : List Predicate} :
    (group operator members).outerLevels ≤ Value.levelLimit ↔
      levelsOf members ≤ Value.levelLimit - 2 := by
  rw [outerLevels, levels, Value.levelLimit]
  omega

theorem dumpOutermost_eq_ok_iff (p : Predicate) (v : Value) :
    p.dumpOutermost operatorKey = .ok v ↔
      p.outerLevels ≤ Value.levelLimit ∧ (∀ x ∈ p.bound, x.Encoded) ∧ v = p.payload operatorKey := by
  cases p with
  | simple text params =>
    rw [dumpOutermost, outerLevels]
    exact dumpMember_eq_ok_iff operatorKey (simple text params) _ v
  | group operator members =>
    rw [dumpOutermost, outerLevels_group_le_iff, bound_group, payload]
    cases hp : dumpParts? operatorKey (Value.levelLimit - 2) members with
    | some ms =>
      obtain ⟨hl, hs, rfl⟩ := (dumpParts?_eq_some_iff operatorKey members _ ms).mp hp
      constructor
      · intro h
        cases h
        exact ⟨hl, hs, rfl⟩
      · rintro ⟨-, -, rfl⟩
        rfl
    | none =>
      -- Both attempts at an outermost group have the same room, so the second fails as well.
      have hnot := not_fits_of_eq_none (dumpParts?_eq_some_iff operatorKey members _) hp
      constructor
      · intro h
        obtain ⟨ms, hms, rfl⟩ := map_eq_ok_iff.mp h
        obtain ⟨hl, hs, -⟩ := (dumpMembers_eq_ok_iff operatorKey members _ ms).mp hms
        exact (hnot ⟨hl, hs⟩).elim
      · rintro ⟨hl, hs, -⟩
        exact (hnot ⟨hl, hs⟩).elim

theorem dumpAll_cons_eq_ok_iff {p : Predicate} {rest : List Predicate} {vs : List Value} :
    dumpAll operatorKey (p :: rest) = .ok vs ↔
      ∃ x xs, p.dumpOutermost operatorKey = .ok x ∧ dumpAll operatorKey rest = .ok xs ∧
        vs = x :: xs := by
  have hcons : dumpAll operatorKey (p :: rest) =
      (p.dumpOutermost operatorKey).bind fun x => (dumpAll operatorKey rest).map (x :: ·) := by
    rw [dumpAll, List.mapM_cons]
    rfl
  rw [hcons]
  cases p.dumpOutermost operatorKey with
  | error e => simp [Except.bind]
  | ok x => simp [Except.bind, map_eq_ok_iff]

/-- A forest has payloads exactly when the levels of each outermost condition fit and all bytes in it
encode texts. -/
theorem dumpAll_eq_ok_iff (ps : List Predicate) (vs : List Value) :
    dumpAll operatorKey ps = .ok vs ↔
      (∀ p ∈ ps, p.outerLevels ≤ Value.levelLimit) ∧ (∀ x ∈ boundIn ps, x.Encoded) ∧
        vs = payloads operatorKey ps := by
  induction ps generalizing vs with
  | nil => simp [dumpAll, boundIn_nil, payloads, pure, Except.pure, eq_comm]
  | cons p rest ih =>
    simp only [dumpAll_cons_eq_ok_iff, dumpOutermost_eq_ok_iff, ih, List.forall_mem_cons, boundIn_cons,
      List.forall_mem_append, payloads]
    constructor
    · rintro ⟨_, _, ⟨hp, hs, rfl⟩, ⟨hrest, hss, rfl⟩, rfl⟩
      exact ⟨⟨hp, hrest⟩, ⟨hs, hss⟩, rfl⟩
    · rintro ⟨⟨hp, hrest⟩, ⟨hs, hss⟩, rfl⟩
      exact ⟨_, _, ⟨hp, hs, rfl⟩, ⟨hrest, hss, rfl⟩, rfl⟩

theorem map_dumpAll_eq_ok_iff {ps : List Predicate} {f : List Value → Value} {v : Value} :
    (dumpAll operatorKey ps).map f = .ok v ↔
      ((∀ p ∈ ps, p.outerLevels ≤ Value.levelLimit) ∧ ∀ x ∈ boundIn ps, x.Encoded) ∧
        v = f (payloads operatorKey ps) := by
  simp only [map_eq_ok_iff, dumpAll_eq_ok_iff]
  constructor
  · rintro ⟨_, ⟨hl, hs, rfl⟩, rfl⟩
    exact ⟨⟨hl, hs⟩, rfl⟩
  · rintro ⟨⟨hl, hs⟩, rfl⟩
    exact ⟨_, ⟨hl, hs, rfl⟩, rfl⟩

/-! ## Places of values -/

/-- The values of the fragment at a place in a condition, given by the indices on the way to it. -/
def paramsAt? : List Nat → Predicate → Option (List Value)
  | [], simple _ params => some params
  | i :: rest, group _ members => members[i]?.bind (paramsAt? rest)
  | _, _ => none

/-- Where the payload holds the values of the fragment at a place. -/
def paramsPath : List Nat → List PathStep
  | [] => [.key "params"]
  | i :: rest => .key "predicates" :: .index i :: paramsPath rest

/-- The two names of the operator of a group. -/
def IsOperatorKey (key : String) : Prop :=
  key = "type" ∨ key = "operator"

theorem payloads_eq_map (ps : List Predicate) :
    payloads operatorKey ps = ps.map (payload operatorKey) := by
  induction ps with
  | nil => rfl
  | cons p rest ih => rw [payloads, ih, List.map_cons]

theorem at?_payloads (ps : List Predicate) (i : Nat) (path : List PathStep) :
    (Value.list (payloads operatorKey ps)).at? (.index i :: path) =
      ps[i]?.bind fun p => (p.payload operatorKey).at? path := by
  rw [Value.at?_index, payloads_eq_map, List.getElem?_map]
  cases ps[i]? with
  | none => rfl
  | some p => rfl

theorem at?_dumpGroup (hkey : IsOperatorKey operatorKey) (operator : Operator) (members : List Value)
    (path : List PathStep) : (dumpGroup operatorKey operator members).at? (.key "predicates" :: path) =
      (Value.list members).at? path := by
  rcases hkey with rfl | rfl <;> rfl

/-- Every value bound in a condition stands in the payload, in its plain form and at its place. -/
theorem at?_payload (hkey : IsOperatorKey operatorKey) {p : Predicate} {place : List Nat}
    {params : List Value} (h : p.paramsAt? place = some params) (path : List PathStep) :
    (p.payload operatorKey).at? (paramsPath place ++ path) =
      ((Value.list params).at? path).map Value.plainForm := by
  induction place generalizing p with
  | nil =>
    cases p with
    | simple text vs =>
      cases h
      exact Value.at?_plainForm path (.list params)
    | group operator members => cases h
  | cons i rest ih =>
    cases p with
    | simple text vs => cases h
    | group operator members =>
      obtain ⟨p, hp, hparams⟩ := Option.bind_eq_some_iff.mp h
      rw [payload, paramsPath, List.cons_append, List.cons_append, at?_dumpGroup operatorKey hkey,
        at?_payloads, hp]
      exact ih hparams

end Predicate

namespace FetchRequest

/-- All values bound in a request, with those that they are made of. -/
def bound (r : FetchRequest) : List Value :=
  Predicate.boundIn r.predicates

/-- The levels of each outermost condition fit. -/
def Fits (r : FetchRequest) : Prop :=
  ∀ p ∈ r.predicates, p.outerLevels ≤ Value.levelLimit

instance (r : FetchRequest) : Decidable r.Fits :=
  inferInstanceAs (Decidable (∀ p ∈ r.predicates, p.outerLevels ≤ Value.levelLimit))

/-- All bytes bound in the request encode texts. -/
def Encoded (r : FetchRequest) : Prop :=
  ∀ x ∈ r.bound, x.Encoded

/-- No bytes and no number that is not finite are bound in the request. -/
def Exact (r : FetchRequest) : Prop :=
  ∀ x ∈ r.bound, x.Exact

instance (r : FetchRequest) : Decidable r.Exact :=
  inferInstanceAs (Decidable (∀ x ∈ r.bound, x.Exact))

/-- All objects bound in the request name each of their fields once. -/
def Keyed (r : FetchRequest) : Prop :=
  ∀ x ∈ r.bound, x.Keyed

instance (r : FetchRequest) : Decidable r.Keyed :=
  inferInstanceAs (Decidable (∀ x ∈ r.bound, x.Keyed))

theorem Exact.encoded {r : FetchRequest} (h : r.Exact) : r.Encoded :=
  fun x hx => (h x hx).encoded

/-- The fields of the payload. -/
def fields (operatorKey : String) (r : FetchRequest) : Record :=
  [("table", .text r.table), ("predicates", .list (Predicate.payloads operatorKey r.predicates)),
    ("sort", .list (r.sort.map SortKey.dump)),
    ("limit", dumpCount r.limit), ("offset", dumpCount r.offset)]

/-- The values of the fragment at a place in a request. -/
def paramsAt? (r : FetchRequest) : List Nat → Option (List Value)
  | [] => none
  | i :: rest => r.predicates[i]?.bind (Predicate.paramsAt? rest)

variable {operatorKey : String} {r : FetchRequest} {v : Value}

theorem dump_eq_ok_iff : r.dump operatorKey = .ok v ↔
    (r.Fits ∧ r.Encoded) ∧ v = .object (r.fields operatorKey) :=
  Predicate.map_dumpAll_eq_ok_iff operatorKey

/-- Leaving out absent limits is leaving out the fields that hold null. -/
theorem compact_eq_ok_iff : r.compact operatorKey = .ok v ↔
    (r.Fits ∧ r.Encoded) ∧
      v = .object ((r.fields operatorKey).filter fun field => !field.2.isNull) := by
  have hfields : [("table", .text r.table),
        ("predicates", .list (Predicate.payloads operatorKey r.predicates)),
        ("sort", .list (r.sort.map SortKey.dump))] ++
          countField "limit" r.limit ++ countField "offset" r.offset =
      (r.fields operatorKey).filter fun field => !field.2.isNull := by
    unfold fields
    cases r.limit <;> cases r.offset <;> rfl
  rw [compact, Predicate.map_dumpAll_eq_ok_iff, hfields]
  rfl

/-- Every value bound in a request stands in both payloads, in its plain form and at its place. -/
theorem at?_fields (hkey : Predicate.IsOperatorKey operatorKey) {place : List Nat}
    {params : List Value} (h : r.paramsAt? place = some params) (path : List PathStep)
    {fields : Record} (hp : Record.get? fields "predicates" =
      some (.list (Predicate.payloads operatorKey r.predicates))) :
    (Value.object fields).at? (Predicate.paramsPath place ++ path) =
      ((Value.list params).at? path).map Value.plainForm := by
  cases place with
  | nil => cases h
  | cons i rest =>
    obtain ⟨p, hi, hparams⟩ := Option.bind_eq_some_iff.mp h
    rw [Predicate.paramsPath, List.cons_append, List.cons_append, Value.at?_key, hp, Option.bind_some,
      Predicate.at?_payloads, hi]
    exact Predicate.at?_payload operatorKey hkey hparams path

end FetchRequest

end DataFetch
