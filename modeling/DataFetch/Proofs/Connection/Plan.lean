import DataFetch.Proofs.Connection.Report

/-! # Statements handed to the driver

A plan lists the statements that an operation is to hand to the driver, with what is bound to each. An
operation that fails may stop anywhere in its plan; one that succeeds has carried it out. Opening hands
over nothing, and the plan of a statement is the statement.
-/
namespace DataFetch

/-- An operation that failed did not end without a failure. -/
theorem Failure.absurd_of? {α : Type} {f : Failure} {P : Prop}
    (h : of? (.error f : Except Failure α) = none) : P :=
  absurd h (Option.some_ne_none f)

/-- A statement as a driver is given it. -/
abbrev Issued := Value × Option (List Value)

def Call.issued? : Call → Option Issued
  | execute text params => some (text, params)
  | _ => none

/-- The statements among calls, in order. -/
def issuedIn (calls : List Exchange) : List Issued :=
  calls.filterMap fun x => x.call.issued?

theorem issuedIn_append (calls more : List Exchange) :
    issuedIn (calls ++ more) = issuedIn calls ++ issuedIn more :=
  List.filterMap_append

/-- What is handed to the driver comes from the front of the plan, and is all of it unless the operation
fails. -/
def Run.Issues {α : Type} (m : Run α) (s : Session) (plan : List Issued) : Prop :=
  ∃ calls, (m.onSession s).2.transcript = s.transcript ++ calls ∧ issuedIn calls <+: plan ∧
    (Failure.of? (m.onSession s).1 = none → issuedIn calls = plan)

namespace Run

variable {α β : Type} {s : Session}

theorem issues_pure (a : α) (s : Session) : (pure a : Run α).Issues s [] :=
  ⟨[], (List.append_nil _).symm, List.prefix_rfl, fun _ => rfl⟩

theorem issues_fail (f : Failure) (s : Session) (plan : List Issued) :
    (fail f : Run α).Issues s plan :=
  ⟨[], (List.append_nil _).symm, List.nil_prefix, Failure.absurd_of?⟩

theorem issues_liftMisuse (c : Except Misuse α) (s : Session) : (liftMisuse c).Issues s [] := by
  cases c with
  | ok a => exact issues_pure a s
  | error m => exact issues_fail _ s []

theorem Issues.bind {m : Run α} {f : α → Run β} {plan rest : List Issued} (hm : m.Issues s plan)
    (hf : ∀ a t, m.onSession s = (.ok a, t) → (f a).Issues t rest) :
    (m >>= f).Issues s (plan ++ rest) := by
  obtain ⟨calls, hcalls, hprefix, hall⟩ := hm
  cases hr : m.onSession s with
  | mk outcome t =>
    rw [hr] at hcalls hall
    cases outcome with
    | error e =>
      have hbind : (m >>= f).onSession s = (.error e, t) := by rw [onSession_bind, hr]
      rw [Issues, hbind]
      exact ⟨calls, hcalls, hprefix.trans (List.prefix_append _ _), Failure.absurd_of?⟩
    | ok a =>
      have hbind : (m >>= f).onSession s = (f a).onSession t := by rw [onSession_bind, hr]
      obtain ⟨more, hmore, hrest, hdone⟩ := hf a t hr
      have hplan : issuedIn calls = plan := hall rfl
      rw [Issues, hbind]
      refine ⟨calls ++ more, ?_, ?_, fun h => ?_⟩
      · rw [hmore, hcalls, List.append_assoc]
      · rw [issuedIn_append, hplan]
        exact List.prefix_append_right_inj plan |>.mpr hrest
      · rw [issuedIn_append, hplan, hdone h]

end Run

namespace Connection

variable {cn : Connection}

/-- What the driver is given to bind: a server that has nothing to bind is given nothing. -/
def boundAs (cn : Connection) (params : List Value) : Option (List Value) :=
  match cn.backend with
  | .sqlite => some params
  | .mysql => Mysql.boundParams params

/-! ## Opening -/

theorem issuedIn_setUpCalls (number : Nat) (readonly : Bool) (reply : OpenReply) :
    issuedIn (Sqlite.setUpCalls number readonly reply) = [] := by
  rw [Sqlite.setUpCalls]
  split <;> rfl

theorem Native.openEngine_issues_nothing (hn : cn.Native) (s : Session) :
    ∃ calls, (cn.openEngine.onSession s).2.transcript = s.transcript ++ calls ∧
      issuedIn calls = [] ∧
      (cn.openEngine.onSession s).2.script.statements = s.script.statements := by
  rw [openEngine, hn.engine]
  cases cn.backend with
  | sqlite =>
    simp only [Backend.engine, Sqlite.onSession_openEngine]
    cases Sqlite.addressFlag (Config.openPath cn.config.path) with
    | error m => exact ⟨[], (List.append_nil _).symm, rfl, rfl⟩
    | ok address =>
      cases s.script.opening.opening with
      | some e => exact ⟨_, rfl, rfl, rfl⟩
      | none => exact ⟨_, rfl, issuedIn_setUpCalls _ _ _, rfl⟩
  | mysql =>
    simp only [Backend.engine, Mysql.onSession_openEngine]
    cases s.script.installed with
    | false => exact ⟨[], (List.append_nil _).symm, rfl, rfl⟩
    | true =>
      rw [if_pos rfl]
      cases Mysql.poolKeywords cn.config with
      | error m => exact ⟨[], (List.append_nil _).symm, rfl, rfl⟩
      | ok keywords =>
        cases s.script.opening.opening with
        | some e => exact ⟨_, rfl, rfl, rfl⟩
        | none => exact ⟨_, rfl, rfl, rfl⟩

theorem Native.ready_issues_nothing (hn : cn.Native) (s : Session) :
    ∃ calls, (cn.ready s).2.transcript = s.transcript ++ calls ∧ issuedIn calls = [] ∧
      (cn.ready s).2.script.statements = s.script.statements := by
  rw [ready]
  cases hc : s.connected with
  | true => exact ⟨[], (List.append_nil _).symm, rfl, rfl⟩
  | false =>
    obtain ⟨calls, hcalls, hnone, hscript⟩ := hn.openEngine_issues_nothing s
    rcases hn.connect_cases s with ⟨hopen, -⟩ | ⟨-, t, ⟨f, he, hs⟩ | ⟨he, hs⟩⟩
    · rw [hc] at hopen
      cases hopen
    · rw [he] at hcalls hscript
      simp only [Bool.false_eq_true, if_false, hs]
      exact ⟨calls, hcalls, hnone, hscript⟩
    · rw [he] at hcalls hscript
      simp only [Bool.false_eq_true, if_false, hs]
      exact ⟨calls, hcalls, hnone, hscript⟩

/-! ## Statements -/

theorem issuedIn_cursorCalls (object : Nat) (reply : StatementReply) (text : Value)
    (params : List Value) :
    issuedIn (Mysql.cursorCalls object reply text params) =
      if reply.cursor.isNone then [(text, Mysql.boundParams params)] else [] := by
  rw [Mysql.cursorCalls]
  cases reply.cursor with
  | some e => rfl
  | none =>
    simp only [Option.isNone_none, if_true, Mysql.runCalls]
    split <;> rfl

/-- The statement is handed over between taking a connection out of the pool and giving it back, unless
no cursor can be opened. -/
theorem issuedIn_lentCalls (object : Nat) (reply : StatementReply) (text : Value)
    (params : List Value) :
    issuedIn (⟨object, .checkout, none⟩ :: Mysql.cursorCalls object reply text params ++
        [⟨object, .release, reply.release⟩]) =
      if reply.cursor.isNone then [(text, Mysql.boundParams params)] else [] := by
  rw [issuedIn_append, ← issuedIn_cursorCalls object]
  exact List.append_nil _

theorem releasedOutcome_of_cursor {reply : StatementReply} {e : EngineError}
    (h : reply.cursor = some e) : ∃ f, Mysql.releasedOutcome reply = .error f := by
  have hcursor : Mysql.cursorError? reply = some e := by rw [Mysql.cursorError?, h, Option.some_or]
  rw [Mysql.releasedOutcome, Mysql.statementOutcome, hcursor]
  cases reply.release with
  | some d => exact ⟨_, rfl⟩
  | none => exact ⟨_, rfl⟩

theorem Native.issues_executeOn (hn : cn.Native) (text : Value) (params : List Value) (s : Session) :
    (cn.executeOn text params).Issues s [(text, cn.boundAs params)] := by
  rw [executeOn, hn.engine, boundAs, Run.Issues]
  cases cn.backend with
  | sqlite =>
    simp only [Backend.engine, Sqlite.onSession_execute]
    cases s.handle with
    | none => exact ⟨[], (List.append_nil _).symm, List.nil_prefix, Failure.absurd_of?⟩
    | some h => exact ⟨_, rfl, List.prefix_rfl, fun _ => rfl⟩
  | mysql =>
    simp only [Backend.engine, Mysql.onSession_execute]
    cases s.handle with
    | none => exact ⟨[], (List.append_nil _).symm, List.nil_prefix, Failure.absurd_of?⟩
    | some h =>
      cases s.script.checkout with
      | some e => exact ⟨_, rfl, List.nil_prefix, Failure.absurd_of?⟩
      | none =>
        dsimp only
        generalize s.script.afterCheckout.statement = reply
        refine ⟨_, rfl, ?_⟩
        rw [issuedIn_lentCalls]
        cases hc : reply.cursor with
        | none => exact ⟨List.prefix_rfl, fun _ => rfl⟩
        | some e =>
          obtain ⟨f, hf⟩ := releasedOutcome_of_cursor hc
          rw [hf]
          exact ⟨List.nil_prefix, Failure.absurd_of?⟩

/-- What logging and annotating a statement leave alone. -/
theorem statement_frame (cn : Connection) (text : Value) (params : List Value) (s : Session) :
    ((cn.statement text params).onSession s).2.transcript =
        ((cn.executeOn text params).onSession s).2.transcript ∧
      (Failure.of? ((cn.statement text params).onSession s).1 = none →
        ((cn.statement text params).onSession s).1 =
          ((cn.executeOn text params).onSession s).1) := by
  obtain ⟨t, ⟨result, he, hs⟩ | ⟨f, he, hs⟩ | ⟨f, -, he, hs⟩⟩ := cn.statement_cases text params s
  · rw [he, hs]
    exact ⟨rfl, fun _ => rfl⟩
  · rw [he, hs]
    exact ⟨rfl, Failure.absurd_of?⟩
  · rw [he, hs]
    exact ⟨rfl, Failure.absurd_of?⟩

theorem Native.issues_statement (hn : cn.Native) (text : Value) (params : List Value)
    (s : Session) : (cn.statement text params).Issues s [(text, cn.boundAs params)] := by
  obtain ⟨calls, hcalls, hprefix, hall⟩ := hn.issues_executeOn text params s
  obtain ⟨htranscript, houtcome⟩ := statement_frame cn text params s
  refine ⟨calls, htranscript.trans hcalls, hprefix, fun h => hall ?_⟩
  rwa [houtcome h] at h

theorem Native.issues_run (hn : cn.Native) (text : Value) (bound : List Value) (s : Session) :
    (cn.run text (.list bound)).Issues s [(text, cn.boundAs bound)] := by
  obtain ⟨calls, hcalls, hnone, -⟩ := hn.ready_issues_nothing s
  rw [Run.Issues, onSession_run]
  cases hr : cn.ready s with
  | mk outcome t =>
    rw [hr] at hcalls
    cases outcome with
    | error f =>
      refine ⟨calls, hcalls, ?_, Failure.absurd_of?⟩
      rw [hnone]
      exact List.nil_prefix
    | ok u =>
      obtain ⟨more, hmore, hprefix, hall⟩ := hn.issues_statement text bound t
      have hissued : issuedIn (calls ++ more) = issuedIn more := by
        rw [issuedIn_append, hnone, List.nil_append]
      refine ⟨calls ++ more, ?_, ?_, ?_⟩
      · rw [← List.append_assoc, ← hcalls]
        exact hmore
      · rw [hissued]
        exact hprefix
      · rw [hissued]
        exact hall

/-! ## What a statement that succeeds yields -/

theorem Native.rowsOutcome_of_executeOn (hn : cn.Native) {text : Value} {params : List Value}
    {s : Session} {result : StatementResult}
    (h : ((cn.executeOn text params).onSession s).1 = .ok result) :
    cn.rowsOutcome s.script.statement = .ok result := by
  rw [executeOn, hn.engine] at h
  rw [rowsOutcome]
  cases hb : cn.backend with
  | sqlite =>
    simp only [hb, Backend.engine, Sqlite.onSession_execute] at h
    cases hh : s.handle with
    | none => simp [hh] at h
    | some held =>
      simp only [hh, Sqlite.statementOutcome] at h
      split at h
      · cases h
      · exact h
  | mysql =>
    simp only [hb, Backend.engine, Mysql.onSession_execute] at h
    cases hh : s.handle with
    | none => simp [hh] at h
    | some held =>
      cases hc : s.script.checkout with
      | some e => simp [hh, hc] at h
      | none =>
        simp only [hh, hc, Mysql.releasedOutcome, Mysql.statementOutcome] at h
        split at h
        · cases h
        · split at h
          · cases h
          · exact h

theorem lastrowid_of_rowsOutcome {reply : StatementReply} {result : StatementResult}
    (h : cn.rowsOutcome reply = .ok result) : result.lastrowid = reply.lastrowid := by
  rw [rowsOutcome] at h
  cases hb : cn.backend with
  | sqlite =>
    simp only [hb, Sqlite.rowsOutcome] at h
    split at h
    · cases h
      rfl
    · cases h
  | mysql =>
    simp only [hb] at h
    cases h
    rfl

/-- A statement that is run reports the identifier that the engine's next reply has. -/
theorem Native.lastrowid_of_run (hn : cn.Native) {text : Value} {bound : List Value}
    {s t : Session} {result : StatementResult}
    (h : (cn.run text (.list bound)).onSession s = (.ok result, t)) :
    result.lastrowid = s.script.statement.lastrowid := by
  obtain ⟨-, -, -, hscript⟩ := hn.ready_issues_nothing s
  rw [onSession_run] at h
  cases hr : cn.ready s with
  | mk outcome u =>
    rw [hr] at h hscript
    cases outcome with
    | error f => cases h
    | ok v =>
      have hstatement : ((cn.statement text bound).onSession u).1 = .ok result :=
        congrArg Prod.fst h
      have hexecute : ((cn.executeOn text bound).onSession u).1 = .ok result := by
        rw [← (statement_frame cn text bound u).2 (by rw [hstatement]; rfl)]
        exact hstatement
      have hsame : u.script.statement = s.script.statement :=
        congrArg (fun replies : List StatementReply => replies.headD {}) hscript
      rw [lastrowid_of_rowsOutcome (hn.rowsOutcome_of_executeOn hexecute), hsame]

end Connection

end DataFetch
