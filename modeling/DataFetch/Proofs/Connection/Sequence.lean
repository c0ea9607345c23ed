import DataFetch.Proofs.Connection.Records

/-! # Plans that stop at the first failure

Writing a record takes up to two statements, and each is run only once the one before it has succeeded.
Main statement: an operation on a record runs its plan up to the first statement that fails and ends as
that statement does, and it runs the whole plan exactly when no call fails.
-/
namespace DataFetch

/-- A statement of a plan. The number of rows that a counted one has touched is asked for. -/
structure Planned where
  template : Template
  counted : Bool

/-- Failures that no call of a driver is behind: there is no driver, or a value was of no use. -/
def Failure.Unprovoked (f : Failure) : Prop :=
  f = .fault Mysql.notInstalled ∨ ∃ r, f = .refused r

/-- What succeeds was calm, and what was calm fails only as it may. -/
structure Explained (may : Failure → Prop) (calm : Prop) (o : Option Failure) : Prop where
  quiet : o = none → calm
  cause : ∀ f, o = some f → calm → may f

namespace Explained

variable {may : Failure → Prop} {calm : Prop} {f : Failure}

theorem success (h : calm) : Explained may calm none :=
  ⟨fun _ => h, fun _ hf => nomatch hf⟩

theorem raised (h : ¬ calm) : Explained may calm (some f) :=
  ⟨fun ho => (nomatch ho), fun _ _ hcalm => absurd hcalm h⟩

theorem allowed (h : may f) : Explained may calm (some f) :=
  ⟨fun ho => (nomatch ho), fun _ hf _ => Option.some.inj hf ▸ h⟩

end Explained

theorem Sqlite.quiet_setUpCalls_iff {number : Nat} {readonly : Bool} {reply : OpenReply} :
    (∀ x ∈ setUpCalls number readonly reply, x.raised = none) ↔
      setUpError? readonly reply = none := by
  rw [setUpCalls, setUpError?]
  cases reply.foreignKeys with
  | some e => simp
  | none => cases readonly <;> simp

theorem Mysql.quiet_cursorCalls_iff {object : Nat} {reply : StatementReply} {text : Value}
    {params : List Value} :
    (∀ x ∈ cursorCalls object reply text params, x.raised = none) ↔ cursorError? reply = none := by
  rw [cursorCalls, cursorError?, runCalls, runError?]
  cases reply.cursor with
  | some e => simp
  | none =>
    cases reply.execute with
    | some e => simp
    | none => cases reply.hasColumns <;> simp [and_comm]

namespace Connection

variable {cn : Connection} {α β : Type}

def planned (cn : Connection) (x : Planned) : Issued :=
  cn.issuing x.template

/-- Runs one statement of a plan, and opens the connection for it if need be. -/
def attempt (cn : Connection) (x : Planned) : Run Unit :=
  let text : Value := .text x.template.text
  let params : Value := .list x.template.values
  if x.counted then (fun _ => ()) <$> cn.executeNonQuery text params
  else (fun _ => ()) <$> cn.run text params

/-- Every statement of a plan was run in turn and succeeded. -/
inductive CarriedOut (cn : Connection) : List Planned → Session → Session → Prop
  | nothing (s : Session) : CarriedOut cn [] s s
  | next {x : Planned} {rest : List Planned} {s t u : Session} :
    (cn.attempt x).onSession s = (.ok (), t) → CarriedOut cn rest t u →
      CarriedOut cn (x :: rest) s u

/-- A plan was run up to the first statement that fails, if one does, and that one decides. -/
def Ends (cn : Connection) (plan : List Planned) (s : Session) : Option Failure → Session → Prop
  | none, t => cn.CarriedOut plan s t
  | some f, t => ∃ done x rest u, plan = done ++ x :: rest ∧ cn.CarriedOut done s u ∧
    (cn.attempt x).onSession u = (.error f, t)

/-- An operation is its plan, run as far as it goes. -/
def Follows (cn : Connection) (plan : List Planned) (s : Session) (m : Run α) : Prop :=
  cn.Ends plan s (Failure.of? (m.onSession s).1) (m.onSession s).2

theorem CarriedOut.append {plan more : List Planned} {s t u : Session}
    (h : cn.CarriedOut plan s t) (hmore : cn.CarriedOut more t u) :
    cn.CarriedOut (plan ++ more) s u := by
  induction h with
  | nothing s => exact hmore
  | next hx _ ih => exact .next hx (ih hmore)

/-- A plan is carried out in one way only, so that what fails after a part of it fails in all of it. -/
theorem CarriedOut.not_of_fails {done rest : List Planned} {x : Planned} {s t u v : Session}
    {f : Failure} (h : cn.CarriedOut done s u) (hx : (cn.attempt x).onSession u = (.error f, v)) :
    ¬ cn.CarriedOut (done ++ x :: rest) s t := by
  induction h with
  | nothing s =>
    intro hall
    cases hall with
    | next hok _ =>
      rw [hx] at hok
      cases hok
  | next hy _ ih =>
    intro hall
    cases hall with
    | next hok hrest =>
      rw [hy] at hok
      cases hok
      exact ih hx hrest

theorem Ends.eq_none_iff {plan : List Planned} {s t : Session} {o : Option Failure}
    (h : cn.Ends plan s o t) : o = none ↔ cn.CarriedOut plan s t := by
  cases o with
  | none => exact iff_of_true rfl h
  | some f =>
    obtain ⟨done, x, rest, u, rfl, hdone, hx⟩ := h
    exact iff_of_false (Option.some_ne_none f) (hdone.not_of_fails hx)

/-! ## Plans put together -/

theorem follows_pure (cn : Connection) (a : α) (s : Session) : cn.Follows [] s (pure a : Run α) :=
  .nothing s

theorem follows_of_attempt {m : Run α} {x : Planned} (h : cn.attempt x = (fun _ => ()) <$> m)
    (s : Session) : cn.Follows [x] s m := by
  have hx := congrArg (fun r : Run Unit => r.onSession s) h
  simp only [Run.onSession_map] at hx
  rw [Follows]
  cases hr : m.onSession s with
  | mk outcome t =>
    rw [hr] at hx
    cases outcome with
    | ok a => exact .next hx (.nothing t)
    | error f => exact ⟨[], x, [], s, rfl, .nothing s, hx⟩

theorem Follows.bind {m : Run α} {f : α → Run β} {plan rest : List Planned} {s : Session}
    (hm : cn.Follows plan s m)
    (hf : ∀ a t, m.onSession s = (.ok a, t) → cn.Follows rest t (f a)) :
    cn.Follows (plan ++ rest) s (m >>= f) := by
  rw [Follows] at hm
  rw [Follows, Run.onSession_bind]
  cases hr : m.onSession s with
  | mk outcome t =>
    rw [hr] at hm
    cases outcome with
    | error e =>
      obtain ⟨done, x, others, u, rfl, hdone, hx⟩ := hm
      exact ⟨done, x, others ++ rest, u, List.append_assoc _ _ _, hdone, hx⟩
    | ok a =>
      have hdone : cn.CarriedOut plan s t := hm
      have hthen : cn.Follows rest t (f a) := hf a t hr
      rw [Follows] at hthen
      dsimp only
      cases ho : Failure.of? ((f a).onSession t).1 with
      | none =>
        rw [ho] at hthen
        exact hdone.append hthen
      | some e =>
        rw [ho] at hthen
        obtain ⟨more, x, others, u, rfl, hmore, hx⟩ := hthen
        exact ⟨plan ++ more, x, others, u, (List.append_assoc _ _ _).symm, hdone.append hmore, hx⟩

theorem follows_run (cn : Connection) (t : Template) (s : Session) :
    cn.Follows [⟨t, false⟩] s (cn.run (.text t.text) (.list t.values)) :=
  follows_of_attempt rfl s

theorem follows_executeNonQuery (cn : Connection) (t : Template) (s : Session) :
    cn.Follows [⟨t, true⟩] s (cn.executeNonQuery (.text t.text) (.list t.values)) :=
  follows_of_attempt rfl s

/-! ## The plans of the operations on records -/

theorem follows_readBack (cn : Connection) (table : String) (id : Value) (s : Session) :
    cn.Follows [⟨cn.selectTemplate table id, false⟩] s (cn.readBack table id) := by
  have hrun := (cn.follows_run (cn.selectTemplate table id) s).bind fun result t _ =>
    cn.follows_pure result.rows.head? t
  rw [text_selectTemplate] at hrun
  exact hrun

/-- The record that was inserted is read back by the identifier that the driver reports for it. -/
theorem Native.follows_insert (hn : cn.Native) (table : String) (record : Record) (s : Session) :
    cn.Follows
      [⟨cn.insertTemplate table (record.erase cn.kind.idColumn), false⟩,
        ⟨cn.selectTemplate table s.script.statement.lastrowid, false⟩]
      s (cn.insert (.text table) record) := by
  have hinsert : cn.insert (.text table) record =
      (cn.run (.text (cn.insertText table (record.erase cn.kind.idColumn).keys))
        (.list (record.erase cn.kind.idColumn).values) >>= fun result =>
          cn.readBack table result.lastrowid) := rfl
  have hrun := cn.follows_run (cn.insertTemplate table (record.erase cn.kind.idColumn)) s
  rw [text_insertTemplate, values_insertTemplate] at hrun
  rw [hinsert]
  refine hrun.bind fun result t hr => ?_
  rw [← hn.lastrowid_of_run hr]
  exact cn.follows_readBack table result.lastrowid t

theorem follows_update (cn : Connection) (table : String) {record : Record} {id : Value}
    (hid : record.get? cn.kind.idColumn = some id) (s : Session) :
    let data := record.erase cn.kind.idColumn
    cn.Follows
      ((if data.isEmpty then [] else [⟨cn.updateTemplate table data id, true⟩]) ++
        [⟨cn.selectTemplate table id, false⟩])
      s (cn.update (.text table) record) := by
  intro data
  rw [update_of_get? cn table hid]
  cases data.isEmpty with
  | true => exact cn.follows_readBack table id s
  | false =>
    have hwrite := cn.follows_executeNonQuery (cn.updateTemplate table data id) s
    rw [text_updateTemplate, values_updateTemplate] at hwrite
    exact hwrite.bind fun _ t _ => cn.follows_readBack table id t

theorem delete_eq (cn : Connection) (table : String) (id : Value) :
    cn.delete (.text table) id =
      (cn.readBack table id >>= fun existing =>
        cn.executeNonQuery (.text (cn.deleteText table)) (.list [id]) >>= fun _ =>
          pure existing) := rfl

theorem follows_delete (cn : Connection) (table : String) (id : Value) (s : Session) :
    cn.Follows [⟨cn.selectTemplate table id, false⟩, ⟨cn.deleteTemplate table id, true⟩] s
      (cn.delete (.text table) id) := by
  rw [delete_eq]
  refine (cn.follows_readBack table id s).bind fun existing t _ => ?_
  have hwrite := cn.follows_executeNonQuery (cn.deleteTemplate table id) t
  rw [text_deleteTemplate] at hwrite
  exact hwrite.bind fun _ u _ => cn.follows_pure existing u

/-! ## What the driver sees of a plan -/

/-- None of these calls raised anything. SQLite hands rows over without a call of its own. -/
def Quiet (cn : Connection) (calls : List Exchange) (used : List StatementReply) : Prop :=
  (∀ x ∈ calls, x.raised = none) ∧ (cn.backend = .sqlite → ∀ r ∈ used, r.fetch = none)

theorem quiet_nil_iff {calls : List Exchange} :
    cn.Quiet calls [] ↔ ∀ x ∈ calls, x.raised = none := by
  simp [Quiet]

theorem quiet_append {calls more : List Exchange} {used others : List StatementReply} :
    cn.Quiet (calls ++ more) (used ++ others) ↔ cn.Quiet calls used ∧ cn.Quiet more others := by
  simp only [Quiet, List.forall_mem_append]
  tauto

/-- The calls between two sessions, and the replies that they used up. -/
structure Account (cn : Connection) (plan : List Issued) (s : Session) (o : Option Failure)
    (t : Session) (calls : List Exchange) (used : List StatementReply) : Prop where
  transcript : t.transcript = s.transcript ++ calls
  replies : s.script.statements = used ++ t.script.statements
  front : issuedIn calls <+: plan
  whole : o = none → issuedIn calls = plan
  explained : Explained Failure.Unprovoked (cn.Quiet calls used) o

namespace Account

variable {plan rest : List Issued} {s t u : Session} {o : Option Failure}
  {calls more : List Exchange} {used others : List StatementReply}

theorem nothing (s : Session) : cn.Account [] s none s [] [] where
  transcript := (List.append_nil _).symm
  replies := rfl
  front := List.prefix_rfl
  whole _ := rfl
  explained := .success (quiet_nil_iff.mpr (List.forall_mem_nil _))

theorem trans (h : cn.Account plan s none t calls used) (hmore : cn.Account rest t o u more others) :
    cn.Account (plan ++ rest) s o u (calls ++ more) (used ++ others) where
  transcript := by rw [hmore.transcript, h.transcript, List.append_assoc]
  replies := by rw [h.replies, hmore.replies, List.append_assoc]
  front := by
    rw [issuedIn_append, h.whole rfl]
    exact (List.prefix_append_right_inj plan).mpr hmore.front
  whole ho := by rw [issuedIn_append, h.whole rfl, hmore.whole ho]
  explained :=
    ⟨fun ho => quiet_append.mpr ⟨h.explained.quiet rfl, hmore.explained.quiet ho⟩,
      fun f hf hquiet => hmore.explained.cause f hf (quiet_append.mp hquiet).2⟩

/-- Behind a statement that failed, more may stand in the plan. -/
theorem stop {f : Failure} (h : cn.Account plan s (some f) t calls used) (rest : List Issued) :
    cn.Account (plan ++ rest) s (some f) t calls used where
  transcript := h.transcript
  replies := h.replies
  front := h.front.trans (List.prefix_append plan rest)
  whole ho := nomatch ho
  explained := h.explained

end Account

/-! ## One statement of a plan -/

theorem Native.explained_openEngine (hn : cn.Native) (s : Session) :
    let r := cn.openEngine.onSession s
    ∃ calls, r.2.transcript = s.transcript ++ calls ∧
      Explained Failure.Unprovoked (∀ x ∈ calls, x.raised = none) (Failure.of? r.1) := by
  rw [openEngine, hn.engine]
  cases cn.backend with
  | sqlite =>
    simp only [Backend.engine, Sqlite.onSession_openEngine]
    cases Sqlite.addressFlag (Config.openPath cn.config.path) with
    | error m => exact ⟨[], (List.append_nil _).symm, .allowed (.inr ⟨_, rfl⟩)⟩
    | ok address =>
      cases s.script.opening.opening with
      | some e => exact ⟨_, rfl, .raised (by simp)⟩
      | none =>
        refine ⟨_, rfl, ?_⟩
        rw [List.forall_mem_cons, Sqlite.quiet_setUpCalls_iff]
        dsimp only
        cases Sqlite.setUpError? cn.config.readonly.isTruthy s.script.opening with
        | none => exact .success ⟨rfl, rfl⟩
        | some e => exact .raised (by simp)
  | mysql =>
    simp only [Backend.engine, Mysql.onSession_openEngine]
    cases s.script.installed with
    | false => exact ⟨[], (List.append_nil _).symm, .allowed (.inl rfl)⟩
    | true =>
      rw [if_pos rfl]
      cases Mysql.poolKeywords cn.config with
      | error m => exact ⟨[], (List.append_nil _).symm, .allowed (.inr ⟨_, rfl⟩)⟩
      | ok keywords =>
        cases s.script.opening.opening with
        | some e => exact ⟨_, rfl, .raised (by simp)⟩
        | none => exact ⟨_, rfl, .success (by simp)⟩

theorem Native.explained_ready (hn : cn.Native) (s : Session) :
    ∃ calls, (cn.ready s).2.transcript = s.transcript ++ calls ∧
      Explained Failure.Unprovoked (∀ x ∈ calls, x.raised = none) (Failure.of? (cn.ready s).1) := by
  obtain ⟨calls, hcalls, hexplained⟩ := hn.explained_openEngine s
  rw [ready]
  cases hc : s.connected with
  | true => exact ⟨[], (List.append_nil _).symm, .success (List.forall_mem_nil _)⟩
  | false =>
    rw [if_neg Bool.false_ne_true]
    rcases hn.connect_cases s with ⟨hopen, -⟩ | ⟨-, t, ⟨f, he, hs⟩ | ⟨he, hs⟩⟩
    · rw [hc] at hopen
      cases hopen
    · rw [he] at hcalls hexplained
      rw [hs]
      exact ⟨calls, hcalls, hexplained⟩
    · rw [he] at hcalls hexplained
      rw [hs]
      exact ⟨calls, hcalls, hexplained⟩

theorem Native.account_ready (hn : cn.Native) (s : Session) :
    ∃ calls, cn.Account [] s (Failure.of? (cn.ready s).1) (cn.ready s).2 calls [] := by
  obtain ⟨calls, htranscript, hissued, hreplies⟩ := hn.ready_issues_nothing s
  obtain ⟨more, hmore, hexplained⟩ := hn.explained_ready s
  have hsame : calls = more := List.append_cancel_left (htranscript.symm.trans hmore)
  refine ⟨calls, htranscript, hreplies.symm, hissued ▸ List.prefix_rfl, fun _ => hissued, ?_⟩
  rw [quiet_nil_iff, hsame]
  exact hexplained

theorem fetch_statement_iff {sc : Script} :
    (∀ r ∈ sc.statements.take 1, r.fetch = none) ↔ sc.statement.fetch = none := by
  rw [Script.statement]
  cases sc.statements <;> simp

/-- The engine's part of a statement, on a driver object that is held. -/
theorem Native.explained_executeOn (hn : cn.Native) (text : Value) (params : List Value) {s : Session}
    (hs : s.handle.isSome = true) :
    let r := (cn.executeOn text params).onSession s
    ∃ calls used, r.2.transcript = s.transcript ++ calls ∧
      s.script.statements = used ++ r.2.script.statements ∧
      Explained (fun f => ∃ m, f = .refused m) (cn.Quiet calls used) (Failure.of? r.1) := by
  obtain ⟨h, hh⟩ := Option.isSome_iff_exists.mp hs
  have hused : s.script.statements = s.script.statements.take 1 ++ s.script.statements.tail := by
    rw [← List.drop_one, List.take_append_drop]
  rw [executeOn, hn.engine]
  cases hb : cn.backend with
  | sqlite =>
    simp only [Backend.engine, Sqlite.onSession_execute, hh]
    refine ⟨_, s.script.statements.take 1, rfl, hused, ?_⟩
    have hquiet : cn.Quiet [⟨h, .execute text (some params), s.script.statement.execute⟩]
        (s.script.statements.take 1) ↔ Sqlite.statementError? s.script.statement = none := by
      rw [Quiet, List.forall_mem_singleton, fetch_statement_iff, Sqlite.statementError?,
        Option.or_eq_none_iff]
      simp [hb]
    rw [hquiet, Sqlite.statementOutcome]
    cases Sqlite.statementError? s.script.statement with
    | some e => exact .raised (Option.some_ne_none e)
    | none =>
      dsimp only
      rw [Sqlite.rowsOutcome]
      cases s.script.statement.rowsByName with
      | error m => exact .allowed ⟨_, rfl⟩
      | ok rows => exact .success rfl
  | mysql =>
    have hquiet : ∀ calls used, cn.Quiet calls used ↔ ∀ x ∈ calls, x.raised = none := by
      intro calls used
      simp [Quiet, hb]
    simp only [Backend.engine, Mysql.onSession_execute, hh, hquiet]
    cases s.script.checkout with
    | some e => exact ⟨_, [], rfl, rfl, .raised (by simp)⟩
    | none =>
      refine ⟨_, s.script.statements.take 1, rfl, hused, ?_⟩
      dsimp only
      generalize s.script.afterCheckout.statement = reply
      rw [List.forall_mem_append, List.forall_mem_cons, Mysql.quiet_cursorCalls_iff,
        Mysql.releasedOutcome, Mysql.statementOutcome]
      cases reply.release with
      | some e => exact .raised (by simp)
      | none =>
        cases Mysql.cursorError? reply with
        | some e => exact .raised (by simp)
        | none => exact .success (by simp)

theorem Native.account_statement (hn : cn.Native) (text : Value) (params : List Value) {s : Session}
    (hs : s.handle.isSome = true) :
    let r := (cn.statement text params).onSession s
    ∃ calls used, cn.Account [(text, cn.boundAs params)] s (Failure.of? r.1) r.2 calls used := by
  obtain ⟨calls, htranscript, hfront, hwhole⟩ := hn.issues_statement text params s
  obtain ⟨more, used, hmore, hreplies, hexplained⟩ := hn.explained_executeOn text params hs
  refine ⟨calls, used, htranscript, ?_, hfront, hwhole, ?_⟩
  · obtain ⟨t, ⟨_, he, h⟩ | ⟨_, he, h⟩ | ⟨_, -, he, h⟩⟩ := cn.statement_cases text params s <;>
    · rw [he] at hreplies
      rw [h]
      exact hreplies
  · have hsame : calls = more := by
      rw [(cn.statement_frame text params s).1] at htranscript
      exact List.append_cancel_left (htranscript.symm.trans hmore)
    rw [hsame]
    obtain ⟨t, ⟨_, he, h⟩ | ⟨_, he, h⟩ | ⟨_, -, he, h⟩⟩ := cn.statement_cases text params s
    · rw [he] at hexplained
      rw [h]
      exact .success (hexplained.quiet rfl)
    · rw [he] at hexplained
      rw [h]
      -- a fault is never what a quiet engine ends in
      refine .raised fun hquiet => ?_
      obtain ⟨m, hm⟩ := hexplained.cause _ rfl hquiet
      cases hm
    · rw [he] at hexplained
      rw [h]
      exact ⟨hexplained.quiet, fun f hf hquiet => .inr (hexplained.cause f hf hquiet)⟩

theorem Native.held_of_ready (hn : cn.Native) {s t : Session} (hs : s.Coherent)
    (h : cn.ready s = (.ok (), t)) : t.handle.isSome = true := by
  rw [ready] at h
  cases hc : s.connected with
  | true =>
    rw [hc, if_pos rfl] at h
    cases h
    exact hs.held hc
  | false =>
    rw [hc, if_neg Bool.false_ne_true] at h
    have hmoves := hn.moves_connect hs
    have hopen := connected_of_connect hn s
    rw [h] at hmoves hopen
    exact hmoves.coherent.held (hopen rfl)

theorem Native.account_run (hn : cn.Native) (text : Value) (bound : List Value) {s : Session}
    (hs : s.Coherent) :
    let r := (cn.run text (.list bound)).onSession s
    ∃ calls used, cn.Account [(text, cn.boundAs bound)] s (Failure.of? r.1) r.2 calls used := by
  obtain ⟨calls, hready⟩ := hn.account_ready s
  rw [onSession_run]
  cases hr : cn.ready s with
  | mk outcome t =>
    rw [hr] at hready
    cases outcome with
    | error f => exact ⟨calls, [], hready.stop _⟩
    | ok u =>
      obtain ⟨more, used, hmore⟩ := hn.account_statement text bound (hn.held_of_ready hs hr)
      exact ⟨calls ++ more, [] ++ used, hready.trans hmore⟩

theorem Native.account_executeNonQuery (hn : cn.Native) (text : Value) (bound : List Value)
    {s : Session} (hs : s.Coherent) :
    let r := (cn.executeNonQuery text (.list bound)).onSession s
    ∃ calls used, cn.Account [(text, cn.boundAs bound)] s (Failure.of? r.1) r.2 calls used := by
  obtain ⟨calls, used, hrun⟩ := hn.account_run text bound hs
  rw [executeNonQuery, Run.onSession_bind]
  cases hr : (cn.run text (.list bound)).onSession s with
  | mk outcome t =>
    rw [hr] at hrun
    cases outcome with
    | error f => exact ⟨calls, used, hrun⟩
    | ok result =>
      dsimp only
      cases result.rowcount.atLeastZero with
      | ok n => exact ⟨calls, used, hrun⟩
      | error m =>
        have hrefused : cn.Account [] t (some (.refused (.misuse m))) t [] [] :=
          ⟨(List.append_nil _).symm, rfl, List.prefix_rfl, fun _ => rfl, .allowed (.inr ⟨_, rfl⟩)⟩
        have hboth := hrun.trans hrefused
        rw [List.append_nil] at hboth
        exact ⟨_, _, hboth⟩

/-- What one statement of a plan does. -/
theorem Native.step_attempt (hn : cn.Native) (x : Planned) {s : Session} (hs : s.Coherent) :
    let r := (cn.attempt x).onSession s
    r.2.Coherent ∧ ∃ calls used, cn.Account [cn.planned x] s (Failure.of? r.1) r.2 calls used := by
  have hgoverns := hn.governs_moves
  rw [attempt]
  cases x.counted with
  | true =>
    simp only [if_true, Run.onSession_map, Failure.of?_map]
    exact ⟨(hgoverns.obeys_executeNonQuery hn _ _ s hs).coherent,
      hn.account_executeNonQuery _ x.template.values hs⟩
  | false =>
    simp only [Bool.false_eq_true, if_false, Run.onSession_map, Failure.of?_map]
    exact ⟨(hgoverns.obeys_run hn _ _ s hs).coherent, hn.account_run _ x.template.values hs⟩

/-! ## Whole plans -/

theorem CarriedOut.account (hn : cn.Native) {plan : List Planned} {s t : Session}
    (h : cn.CarriedOut plan s t) (hs : s.Coherent) :
    t.Coherent ∧ ∃ calls used, cn.Account (plan.map cn.planned) s none t calls used := by
  -- coherence is carried along, so that no statement starts without a driver object
  induction h with
  | nothing s => exact ⟨hs, [], [], .nothing s⟩
  | next hx _ ih =>
    rename_i x rest s t u _
    obtain ⟨ht, calls, used, hfirst⟩ := hn.step_attempt x hs
    rw [hx] at ht hfirst
    obtain ⟨hu, more, others, hrest⟩ := ih ht
    exact ⟨hu, calls ++ more, used ++ others, hfirst.trans hrest⟩

/-- An operation runs its plan up to the first statement that fails and ends as that one does. It runs the
whole plan exactly when no call fails. -/
structure Sequenced (cn : Connection) (plan : List Planned) (s : Session) (o : Option Failure)
    (t : Session) : Prop where
  carriedOut : o = none ↔ cn.CarriedOut plan s t
  stopped : ∀ f, o = some f → ∃ done x rest u before during, plan = done ++ x :: rest ∧
    cn.CarriedOut done s u ∧ (cn.attempt x).onSession u = (.error f, t) ∧
    u.transcript = s.transcript ++ before ∧ issuedIn before = done.map cn.planned ∧
    (∀ call ∈ before, call.raised = none) ∧
    t.transcript = u.transcript ++ during ∧ issuedIn during <+: [cn.planned x]
  account : ∃ calls used, cn.Account (plan.map cn.planned) s o t calls used

theorem Ends.sequenced (hn : cn.Native) {plan : List Planned} {s t : Session} {o : Option Failure}
    (h : cn.Ends plan s o t) (hs : s.Coherent) : cn.Sequenced plan s o t := by
  refine ⟨h.eq_none_iff, ?_, ?_⟩
  · intro f ho
    subst ho
    obtain ⟨done, x, rest, u, hplan, hdone, hx⟩ := h
    obtain ⟨hu, before, _, hbefore⟩ := hdone.account hn hs
    obtain ⟨-, during, _, hduring⟩ := hn.step_attempt x hu
    rw [hx] at hduring
    have hquiet := hbefore.explained.quiet rfl
    exact ⟨done, x, rest, u, before, during, hplan, hdone, hx, hbefore.transcript,
      hbefore.whole rfl, hquiet.1, hduring.transcript, hduring.front⟩
  · cases o with
    | none => exact (h.account hn hs).2
    | some f =>
      obtain ⟨done, x, rest, u, rfl, hdone, hx⟩ := h
      obtain ⟨hu, calls, used, hfirst⟩ := hdone.account hn hs
      obtain ⟨-, more, others, hlast⟩ := hn.step_attempt x hu
      rw [hx] at hlast
      have hall := hfirst.trans (hlast.stop (rest.map cn.planned))
      rw [List.map_append, List.map_cons]
      exact ⟨_, _, hall⟩

/-! ## Operations on records -/

theorem issuing_delete_ne_select (cn : Connection) (table : String) (id key : Value) :
    cn.issuing (cn.deleteTemplate table id) ≠ cn.issuing (cn.selectTemplate table key) := by
  intro h
  have htext : (cn.deleteTemplate table id).text = (cn.selectTemplate table key).text :=
    Value.text.inj (congrArg Prod.fst h)
  have hhead := congrArg (fun text : String => text.toList.head?) htext
  simp [deleteTemplate, selectTemplate, Template.text, Slot.text] at hhead

theorem onSession_delete (cn : Connection) (table : String) (id : Value) (s : Session) :
    (cn.delete (.text table) id).onSession s =
      match (cn.readBack table id).onSession s with
      | (.ok existing, t) =>
        (((cn.executeNonQuery (.text (cn.deleteText table)) (.list [id])).onSession t).1.map
          fun _ => existing,
          ((cn.executeNonQuery (.text (cn.deleteText table)) (.list [id])).onSession t).2)
      | (.error f, t) => (.error f, t) := by
  rw [delete_eq, Run.onSession_bind]
  cases (cn.readBack table id).onSession s with
  | mk outcome t =>
    cases outcome with
    | error f => rfl
    | ok existing =>
      dsimp only
      rw [bind_pure_comp, Run.onSession_map]

theorem onSession_update_of_get?_none (cn : Connection) (table : Value) {record : Record}
    (hid : record.get? cn.kind.idColumn = none) (s : Session) :
    (cn.update table record).onSession s = (.error (.fault (cn.withoutIdentifier table)), s) := by
  rw [update, Record.pop?, hid]
  rfl

/-- Whatever the driver does, each operation on a record is its plan run up to the first failure: nothing
is deleted that was not read, and nothing at all is done to update a record without an identifier. -/
theorem record_operations_stop_at_first_failure (hm : cn.Made) (script : Script)
    (context : LogContext) (ops : List Operation) (hops : ∀ op ∈ ops, op.isPublic = true)
    (table : String) (record : Record) (id : Value) :
    let s := cn.sessionAfter { script, context } ops
    let data := record.erase cn.kind.idColumn
    let inserted := (cn.insert (.text table) record).onSession s
    let updated := (cn.update (.text table) record).onSession s
    let read := (cn.executeSingle (.text (cn.selectTemplate table id).text) (.list [id])).onSession s
    let deleted := (cn.delete (.text table) id).onSession s
    cn.Sequenced
      [⟨cn.insertTemplate table data, false⟩,
        ⟨cn.selectTemplate table s.script.statement.lastrowid, false⟩]
      s (Failure.of? inserted.1) inserted.2 ∧
    (record.get? cn.kind.idColumn = some id →
      cn.Sequenced
        ((if data.isEmpty then [] else [⟨cn.updateTemplate table data id, true⟩]) ++
          [⟨cn.selectTemplate table id, false⟩])
        s (Failure.of? updated.1) updated.2) ∧
    (record.get? cn.kind.idColumn = none → ∀ v,
      ∃ f, (cn.update v record).onSession s = (.error (.fault f), s) ∧ f.kind = .query) ∧
    cn.Sequenced [⟨cn.selectTemplate table id, false⟩, ⟨cn.deleteTemplate table id, true⟩]
      s (Failure.of? deleted.1) deleted.2 ∧
    (∀ f t, read = (.error f, t) → deleted = (.error f, t) ∧
      ∃ calls, t.transcript = s.transcript ++ calls ∧
        cn.issuing (cn.deleteTemplate table id) ∉ issuedIn calls) ∧
    ∀ row t, deleted = (.ok row, t) → read.1 = .ok row := by
  have hn := hm.native
  intro s data inserted updated read deleted
  have hs : s.Coherent := (hn.coherent_sessionAfter script context hops).1
  have hread : read = (cn.readBack table id).onSession s := by
    rw [readBack, ← text_selectTemplate cn table id]
  have hdeleted : deleted = _ := cn.onSession_delete table id s
  rw [← hread] at hdeleted
  refine ⟨(hn.follows_insert table record s).sequenced hn hs, ?_, ?_,
    (cn.follows_delete table id s).sequenced hn hs, ?_, ?_⟩
  · intro hid
    exact (cn.follows_update table hid s).sequenced hn hs
  · intro hid v
    exact ⟨_, cn.onSession_update_of_get?_none v hid s, rfl⟩
  · intro f t hf
    refine ⟨?_, ?_⟩
    · rw [hf] at hdeleted
      exact hdeleted
    · obtain ⟨calls, htranscript, hfront, -⟩ := hn.issues_readBack table id s
      rw [← hread, hf] at htranscript
      refine ⟨calls, htranscript, fun hmem => ?_⟩
      have hselect := List.mem_singleton.mp (hfront.subset hmem)
      exact cn.issuing_delete_ne_select table id id hselect
  · intro row t hrow
    cases hr : read with
    | mk outcome u =>
      rw [hr, hrow] at hdeleted
      cases outcome with
      | error f => cases hdeleted
      | ok existing =>
        obtain ⟨_, -, hexisting⟩ := Outcome.map_eq_ok_iff.mp (congrArg Prod.fst hdeleted).symm
        rw [hexisting]

/-- The record is inserted and the pool has no connection left to read it back by its identifier. -/
theorem record_operations_stop_at_second_checkout :
    let cn := ofMysqlArguments .mysql []
    let exhausted : EngineError := ⟨.driver "PoolError", "pool exhausted"⟩
    let script : Script :=
      { checkouts := [none, some exhausted], statements := [{ lastrowid := .int 7 }] }
    let s := cn.sessionAfter { script } []
    let plan : List Planned :=
      [⟨cn.insertTemplate "t" [("a", .int 1)], false⟩, ⟨cn.selectTemplate "t" (.int 7), false⟩]
    let inserted := (cn.insert (.text "t") [("a", .int 1)]).onSession s
    cn.Sequenced plan s (Failure.of? inserted.1) inserted.2 ∧ inserted.1.isOk = false ∧
      issuedIn inserted.2.transcript = [(.text "INSERT INTO `t` (`a`) VALUES (?)", some [.int 1])] ∧
      ((cn.update (.text "t") [("a", .int 1)]).onSession s).2 = s := by
  intro cn exhausted script s plan inserted
  have hm : cn.Made := ⟨.mysql, .inl ⟨[], rfl⟩⟩
  have hrun := record_operations_stop_at_first_failure hm script [] [] (List.forall_mem_nil _) "t"
    [("a", .int 1)] .null
  obtain ⟨f, hf, -⟩ := hrun.2.2.1 rfl (.text "t")
  exact ⟨hrun.1, rfl, rfl, congrArg Prod.snd hf⟩

end Connection

end DataFetch
