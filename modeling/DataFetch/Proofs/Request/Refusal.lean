import DataFetch.Request.Draft

/-! # Refused calls on a draft

A call that is refused was refused before it wrote anything, except a page: its limit is written before
its offset is computed. Main statement: calls that are refused can be left out of any run, where a page
stands for its limit alone.
-/
namespace DataFetch

/-- What a call does that is refused, as calls. -/
def DraftStep.remainder : DraftStep → List DraftStep
  | page _ size => [limit size]
  | _ => []

namespace Draft

variable {layout : Layout} {d : Draft} {s : DraftStep}

/-- The calls without those that are refused, which leave what remains of them. -/
def settled (layout : Layout) (d : Draft) : List DraftStep → List DraftStep
  | [] => []
  | s :: rest =>
    let (next, reply) := d.apply layout s
    (if reply.isOk then [s] else s.remainder) ++ next.settled layout rest

theorem applyAll_append (layout : Layout) (d : Draft) (steps rest : List DraftStep) :
    d.applyAll layout (steps ++ rest) = (d.applyAll layout steps).applyAll layout rest :=
  List.foldl_append

/-! ## One call -/

theorem fst_guarded_of_refused {c : Except Refusal Draft} (h : (d.guarded c).2.isOk = false) :
    (d.guarded c).1 = d := by
  cases c with
  | ok next => cases h
  | error r => rfl

/-- A page that is refused could not compute its offset, and has set the limit by then. -/
theorem fst_page_of_refused {number size : Value} (h : (d.page number size).2.isOk = false) :
    (d.page number size).1 = { d with limit := size } := by
  rw [page] at h ⊢
  cases ho : Value.pageOffset number size with
  | ok before =>
    rw [ho] at h
    cases h
  | error m => rfl

theorem apply_of_refused (h : (d.apply layout s).2.isOk = false) :
    (d.apply layout s).1 = d.applyAll layout s.remainder := by
  cases s with
  | condition | group | orderBy => exact fst_guarded_of_refused h
  | limit | offset => cases h
  | page number size =>
    have hreply : (d.apply layout (.page number size)).2 =
        (d.page number size).2.map fun _ => .done := rfl
    rw [hreply] at h
    refine fst_page_of_refused ?_
    cases ho : (d.page number size).2 with
    | ok u =>
      rw [ho] at h
      cases h
    | error r => rfl
  | build | compile | refused => rfl

/-- Besides the limit of a page, nothing is written by a call that is refused. -/
theorem applyAll_remainder (layout : Layout) (d : Draft) (s : DraftStep) :
    d.applyAll layout s.remainder =
      { d with limit := match s with
        | .page _ size => size
        | _ => d.limit } := by
  cases s <;> rfl

/-! ## Whole runs -/

theorem applyAll_settled (layout : Layout) (d : Draft) (steps : List DraftStep) :
    d.applyAll layout (d.settled layout steps) = d.applyAll layout steps := by
  induction steps generalizing d with
  | nil => rfl
  | cons s rest ih =>
    have hrest : d.applyAll layout (s :: rest) = (d.apply layout s).1.applyAll layout rest := rfl
    rw [settled, applyAll_append, hrest, ← ih]
    cases h : (d.apply layout s).2.isOk with
    | true => rfl
    | false => rw [apply_of_refused h, if_neg Bool.false_ne_true]

/-- Whatever was called before, a call that is refused leaves the draft as it was, and so all that is
called later goes as if it had not been made; a page that is refused leaves its limit behind and nothing
else. Of a whole run, all calls that are refused can be left out in this way. -/
theorem refused_calls_leave_limit_of_page (layout : Layout) (table : Value)
    (steps : List DraftStep) :
    let d := (start table).applyAll layout steps
    (∀ s, (d.apply layout s).2.isOk = false →
      let next := (d.apply layout s).1
      ((∀ number size, s ≠ .page number size) → next = d) ∧
      (∀ number size, s = .page number size → next = { d with limit := size }) ∧
      next.summary = d.summary ∧
      ∀ rest, (start table).applyAll layout (steps ++ s :: rest) =
        (start table).applyAll layout (steps ++ s.remainder ++ rest)) ∧
    d = (start table).applyAll layout ((start table).settled layout steps) := by
  intro d
  refine ⟨fun s h => ?_, (applyAll_settled layout (start table) steps).symm⟩
  intro next
  have hnext : next = d.applyAll layout s.remainder := apply_of_refused h
  have hlimit : next = { d with limit := _ } := hnext.trans (applyAll_remainder layout d s)
  refine ⟨fun hpage => ?_, fun number size hs => ?_, ?_, fun rest => ?_⟩
  · rw [hlimit]
    cases s with
    | page number size => exact absurd rfl (hpage number size)
    | _ => rfl
  · subst hs
    exact hlimit
  · rw [hlimit]
    rfl
  · have hrun : (start table).applyAll layout (steps ++ s :: rest) = next.applyAll layout rest := by
      rw [applyAll_append]
      rfl
    rw [hrun, hnext, applyAll_append, applyAll_append]

/-- A group that is refused at its last clause, and a page whose number is no number. -/
theorem refused_calls_leave_limit_of_page_without_number :
    let calls : List DraftStep :=
      [.limit (.int 3), .group .or [.list [.text "a = ?", .int 1], .list []], .offset (.int 2)]
    let broken : DraftStep := .page (.text "x") (.int 5)
    let d := (start (.text "t")).applyAll {} calls
    (start (.text "t")).settled {} calls = [.limit (.int 3), .offset (.int 2)] ∧
    d = (start (.text "t")).applyAll {} [.limit (.int 3), .offset (.int 2)] ∧
    (d.apply {} broken).2.isOk = false ∧ (d.apply {} broken).1 = { d with limit := .int 5 } := by
  intro calls broken d
  obtain ⟨hstep, hrun⟩ := refused_calls_leave_limit_of_page {} (.text "t") calls
  have hbroken : (d.apply {} broken).2.isOk = false := rfl
  exact ⟨rfl, hrun, hbroken, (hstep broken hbroken).2.1 _ _ rfl⟩

/-- A page that is refused takes the limit away that the draft had. -/
theorem refused_page_overwrites_limit :
    let d := (start (.text "t")).applyAll {} [.limit (.int 3)]
    let after := d.apply {} (.page (.text "x") (.int 5))
    after.2 = .error (.misuse (.operands "-" "str" "int")) ∧ d.limit = .int 3 ∧
      after.1.limit = .int 5 :=
  ⟨rfl, rfl, rfl⟩

end Draft

end DataFetch
