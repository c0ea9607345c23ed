import DataFetch.Engine.Session

/-! # What the steps of an operation do to a session

One equation for each step, in terms of the reply that is next in the script and of the script that is
left after it. What is still to be raised after a reply was to be raised before it.
-/
namespace DataFetch

def OpenReply.raises (r : OpenReply) : List EngineError :=
  [r.opening, r.foreignKeys, r.queryOnly].filterMap id

def StatementReply.raises (r : StatementReply) : List EngineError :=
  [r.cursor, r.execute, r.fetch, r.cursorClose, r.release].filterMap id

namespace Script

/-- Everything that is still to be raised. -/
def raises (sc : Script) : List EngineError :=
  sc.openings.flatMap OpenReply.raises ++ sc.checkouts.filterMap id ++
    sc.statements.flatMap StatementReply.raises ++ sc.closings.filterMap id

def opening (sc : Script) : OpenReply :=
  sc.openings.headD {}

def afterOpening (sc : Script) : Script :=
  { sc with openings := sc.openings.tail }

def checkout (sc : Script) : Option EngineError :=
  sc.checkouts.headD none

def afterCheckout (sc : Script) : Script :=
  { sc with checkouts := sc.checkouts.tail }

def statement (sc : Script) : StatementReply :=
  sc.statements.headD {}

def afterStatement (sc : Script) : Script :=
  { sc with statements := sc.statements.tail }

def closing (sc : Script) : Option EngineError :=
  sc.closings.headD none

def afterClosing (sc : Script) : Script :=
  { sc with closings := sc.closings.tail }

section

variable {sc : Script} {e : EngineError}

theorem mem_raises_iff :
    e ∈ sc.raises ↔
      (∃ r ∈ sc.openings, e ∈ r.raises) ∨ some e ∈ sc.checkouts ∨
        (∃ r ∈ sc.statements, e ∈ r.raises) ∨ some e ∈ sc.closings := by
  simp [raises]

theorem mem_raises_of_opening (h : e ∈ sc.opening.raises) : e ∈ sc.raises := by
  cases ho : sc.openings with
  | nil => simp [opening, ho, OpenReply.raises] at h
  | cons r rest =>
    rw [opening, ho] at h
    exact mem_raises_iff.mpr (.inl ⟨r, by simp [ho], h⟩)

theorem mem_raises_of_checkout (h : sc.checkout = some e) : e ∈ sc.raises := by
  cases ho : sc.checkouts with
  | nil => simp [checkout, ho] at h
  | cons r rest =>
    rw [checkout, ho] at h
    exact mem_raises_iff.mpr (.inr (.inl (by simp [ho, ← h])))

theorem mem_raises_of_statement (h : e ∈ sc.statement.raises) : e ∈ sc.raises := by
  cases ho : sc.statements with
  | nil => simp [statement, ho, StatementReply.raises] at h
  | cons r rest =>
    rw [statement, ho] at h
    exact mem_raises_iff.mpr (.inr (.inr (.inl ⟨r, by simp [ho], h⟩)))

theorem mem_raises_of_closing (h : sc.closing = some e) : e ∈ sc.raises := by
  cases ho : sc.closings with
  | nil => simp [closing, ho] at h
  | cons r rest =>
    rw [closing, ho] at h
    exact mem_raises_iff.mpr (.inr (.inr (.inr (by simp [ho, ← h]))))

theorem raises_afterOpening_subset (sc : Script) : sc.afterOpening.raises ⊆ sc.raises := by
  intro e he
  rw [mem_raises_iff] at he ⊢
  exact he.imp_left fun ⟨r, hr, h⟩ => ⟨r, List.mem_of_mem_tail hr, h⟩

theorem raises_afterCheckout_subset (sc : Script) : sc.afterCheckout.raises ⊆ sc.raises := by
  intro e he
  rw [mem_raises_iff] at he ⊢
  exact he.imp_right fun h => h.imp_left List.mem_of_mem_tail

theorem raises_afterStatement_subset (sc : Script) : sc.afterStatement.raises ⊆ sc.raises := by
  intro e he
  rw [mem_raises_iff] at he ⊢
  exact he.imp_right fun h =>
    h.imp_right fun h => h.imp_left fun ⟨r, hr, h⟩ => ⟨r, List.mem_of_mem_tail hr, h⟩

theorem raises_afterClosing_subset (sc : Script) : sc.afterClosing.raises ⊆ sc.raises := by
  intro e he
  rw [mem_raises_iff] at he ⊢
  exact he.imp_right fun h => h.imp_right fun h => h.imp_right List.mem_of_mem_tail

end

end Script

/-- A call among those of two parts, with what is before and after it, is in one of the parts. -/
theorem split_append {α : Type} {a b before after : List α} {x : α}
    (h : a ++ b = before ++ x :: after) :
    (∃ rest, a = before ++ x :: rest ∧ after = rest ++ b) ∨
      ∃ first, before = a ++ first ∧ b = first ++ x :: after := by
  rcases List.append_eq_append_iff.mp h with ⟨first, hb, ha⟩ | ⟨rest, ha, hb⟩
  · exact .inr ⟨first, hb, ha⟩
  · cases rest with
    | nil =>
      rw [List.append_nil] at ha
      exact .inr ⟨[], by rw [List.append_nil, ha], hb.symm⟩
    | cons y rest =>
      rw [List.cons_append] at hb
      cases hb
      exact .inl ⟨rest, ha, rfl⟩

namespace Run

variable {α β : Type}

@[simp]
theorem onSession_map (f : α → β) (m : Run α) (s : Session) :
    (f <$> m).onSession s = ((m.onSession s).1.map f, (m.onSession s).2) := by
  rw [map_eq_pure_bind, onSession_bind]
  cases m.onSession s with
  | mk outcome t => cases outcome <;> rfl

theorem onSession_nextOpening (s : Session) :
    nextOpening.onSession s = (.ok s.script.opening, { s with script := s.script.afterOpening }) := by
  obtain ⟨connected, handle, script, transcript, events, context, made⟩ := s
  obtain ⟨installed, openings, checkouts, statements, closings⟩ := script
  cases openings <;> rfl

theorem onSession_nextCheckout (s : Session) :
    nextCheckout.onSession s = (.ok s.script.checkout, { s with script := s.script.afterCheckout }) := by
  obtain ⟨connected, handle, script, transcript, events, context, made⟩ := s
  obtain ⟨installed, openings, checkouts, statements, closings⟩ := script
  cases checkouts <;> rfl

theorem onSession_nextStatement (s : Session) :
    nextStatement.onSession s =
      (.ok s.script.statement, { s with script := s.script.afterStatement }) := by
  obtain ⟨connected, handle, script, transcript, events, context, made⟩ := s
  obtain ⟨installed, openings, checkouts, statements, closings⟩ := script
  cases statements <;> rfl

theorem onSession_nextClosing (s : Session) :
    nextClosing.onSession s = (.ok s.script.closing, { s with script := s.script.afterClosing }) := by
  obtain ⟨connected, handle, script, transcript, events, context, made⟩ := s
  obtain ⟨installed, openings, checkouts, statements, closings⟩ := script
  cases closings <;> rfl

@[simp]
theorem onSession_nextNumber (s : Session) : nextNumber.onSession s = (.ok (s.made + 1), s) := rfl

@[simp]
theorem onSession_emit (level : LogLevel) (name : String) (fields : Record) (s : Session) :
    (emit level name fields).onSession s =
      (.ok (), { s with events := s.events ++ [⟨level, name, fields, s.context⟩] }) := rfl

theorem onSession_mapEngineError (recast : EngineError → Failure) (body : Run α) (s : Session) :
    (mapEngineError recast body).onSession s =
      match body.onSession s with
      | (.error (.engine e), t) => (.error (recast e), t)
      | outcome => outcome := rfl

theorem onSession_andFinally (body : Run α) (cleanup : Run Unit) (s : Session) :
    (andFinally body cleanup).onSession s =
      match cleanup.onSession (body.onSession s).2 with
      | (.ok (), u) => ((body.onSession s).1, u)
      | (.error f, u) => (.error f, u) := rfl

theorem onSession_onFault (body : Run α) (handler : Fault → Run α) (s : Session) :
    (onFault body handler).onSession s =
      match body.onSession s with
      | (.error (.fault f), t) => (handler f).onSession t
      | outcome => outcome := rfl

theorem onSession_liftMisuse_ok (a : α) (s : Session) :
    (liftMisuse (.ok a)).onSession s = (.ok a, s) := rfl

theorem onSession_liftMisuse_error (m : Misuse) (s : Session) :
    (liftMisuse (.error m : Except Misuse α)).onSession s = (.error (.refused (.misuse m)), s) := rfl

end Run

end DataFetch
