import DataFetch.Proofs.Connection.Rule
import DataFetch.Proofs.Engine.Mysql
import DataFetch.Proofs.Log.Context
import DataFetch.Settings.Basic
import Mathlib.Data.List.Forall2

/-! # Passwords

A password is handed to the driver when a pool is opened and goes nowhere else. Main statement: whatever
is asked of two connections that differ in their passwords, with the same driver, both answer, fail, log
and call alike, but for the password of the pools that they open.
-/
namespace DataFetch

/-- The record with null under a name that occurs. -/
def Record.hide (r : Record) (key : String) : Record :=
  r.map fun (k, v) => (k, if k = key then .null else v)

theorem Record.has_congr {r other : Record} (h : r.keys = other.keys) (key : String) :
    r.has key = other.has key := by
  rw [Bool.eq_iff_iff, ← not_iff_not, Bool.not_eq_true, Bool.not_eq_true, has_eq_false_iff,
    has_eq_false_iff, h]

theorem Record.hide_append (r more : Record) (key : String) :
    (r ++ more : Record).hide key = r.hide key ++ more.hide key :=
  List.map_append

def Call.hidden : Call → Call
  | pool keywords => pool (keywords.hide "password")
  | call => call

def Exchange.hidden (x : Exchange) : Exchange :=
  { x with call := x.call.hidden }

/-- A session as it is seen by who may not see passwords. -/
def Session.hidden (s : Session) : Session :=
  { s with transcript := s.transcript.map Exchange.hidden }

theorem Session.exists_transcript_of_hidden {s t : Session} (h : s.hidden = t.hidden) :
    ∃ calls, t = { s with transcript := calls } ∧
      s.transcript.map Exchange.hidden = calls.map Exchange.hidden := by
  obtain ⟨connected, handle, script, transcript, events, context, made⟩ := s
  simp only [hidden, mk.injEq] at h
  obtain ⟨rfl, rfl, rfl, htranscript, rfl, rfl, rfl⟩ := h
  exact ⟨t.transcript, rfl, htranscript⟩

theorem Session.connected_of_hidden {s t : Session} (h : s.hidden = t.hidden) :
    s.connected = t.connected := by
  have hconnected := congrArg Session.connected h
  exact hconnected

/-- Two operations that cannot be told apart on sessions that cannot be. -/
def Run.Alike {α : Type} (m n : Run α) : Prop :=
  ∀ s t, s.hidden = t.hidden →
    (m.onSession s).1 = (n.onSession t).1 ∧ (m.onSession s).2.hidden = (n.onSession t).2.hidden

namespace Run.Alike

variable {α β : Type} {m n : Run α}

theorem exists_outcome (hm : Alike m n) {s t : Session} (h : s.hidden = t.hidden) :
    ∃ outcome u v, m.onSession s = (outcome, u) ∧ n.onSession t = (outcome, v) ∧
      u.hidden = v.hidden := by
  obtain ⟨houtcome, hafter⟩ := hm s t h
  exact ⟨_, (m.onSession s).2, (n.onSession t).2, rfl, Prod.ext houtcome.symm rfl, hafter⟩

theorem pure (a : α) : Alike (Pure.pure a : Run α) (Pure.pure a) :=
  fun _ _ h => ⟨rfl, h⟩

theorem fail (f : Failure) : Alike (Run.fail f : Run α) (Run.fail f) :=
  fun _ _ h => ⟨rfl, h⟩

theorem bind {f g : α → Run β} (hm : Alike m n) (hf : ∀ a, Alike (f a) (g a)) :
    Alike (m >>= f) (n >>= g) := by
  intro s t h
  obtain ⟨outcome, u, v, hs, ht, huv⟩ := hm.exists_outcome h
  rw [onSession_bind, onSession_bind, hs, ht]
  cases outcome with
  | error f => exact ⟨rfl, huv⟩
  | ok a => exact hf a u v huv

theorem liftMisuse (c : Except Misuse α) : Alike (Run.liftMisuse c) (Run.liftMisuse c) := by
  cases c with
  | ok a => exact .pure a
  | error m => exact .fail _

theorem liftRefusal (c : Except Refusal α) :
    Alike (Connection.liftRefusal c) (Connection.liftRefusal c) := by
  cases c with
  | ok a => exact .pure a
  | error r => exact .fail _

theorem rebind (f : LogContext → LogContext) :
    Alike (modify fun s => { s with context := f s.context } : Run Unit)
      (modify fun s => { s with context := f s.context }) :=
  fun _ _ h => ⟨rfl, congrArg (fun u : Session => { u with context := f u.context }) h⟩

theorem inScope (entries : Record) (hm : Alike m n) :
    Alike (Run.inScope entries m) (Run.inScope entries n) := by
  intro s t h
  have hbound := congrArg (fun u : Session => { u with context := u.context.bind entries }) h
  obtain ⟨houtcome, hafter⟩ := hm { s with context := s.context.bind entries }
    { t with context := t.context.bind entries } hbound
  exact ⟨houtcome, congrArg
    (fun u : Session => { u with context := u.context.unbind entries.keys }) hafter⟩

end Run.Alike

/-! ## The engine -/

namespace Connection

/-- The same connection with another password. -/
def withPassword (cn : Connection) (password : Value) : Connection :=
  { cn with config := { cn.config with password } }

end Connection

namespace Mysql

theorem hide_ownKeywords (c : Config) (password : Value) :
    (ownKeywords { c with password }).hide "password" = (ownKeywords c).hide "password" := by
  simp [ownKeywords, Record.hide, Config.optionEntries]

/-- Whether an option has the name of another keyword does not depend on the password. -/
theorem poolKeywords_cases (c : Config) (password : Value) :
    (∃ m, poolKeywords c = .error m ∧ poolKeywords { c with password } = .error m) ∨
      ∃ keywords other, poolKeywords c = .ok keywords ∧
        poolKeywords { c with password } = .ok other ∧
        keywords.hide "password" = other.hide "password" := by
  have hextra : extraKeywords { c with password } = extraKeywords c := rfl
  have hhas : ∀ key, (ownKeywords { c with password }).has key = (ownKeywords c).has key :=
    Record.has_congr rfl
  simp only [poolKeywords, hextra, hhas]
  split
  · exact .inl ⟨_, rfl, rfl⟩
  · refine .inr ⟨_, _, rfl, rfl, ?_⟩
    rw [Record.hide_append, Record.hide_append, hide_ownKeywords c password]

theorem alike_openEngine (cn : Connection) (password : Value) :
    Run.Alike (openEngine cn) (openEngine (cn.withPassword password)) := by
  intro s t h
  obtain ⟨calls, rfl, hcalls⟩ := Session.exists_transcript_of_hidden h
  simp only [onSession_openEngine, Connection.withPassword]
  cases s.script.installed with
  | false => exact ⟨rfl, h⟩
  | true =>
    rw [if_pos rfl, if_pos rfl]
    obtain ⟨m, hone, htwo⟩ | ⟨keywords, other, hone, htwo, hhidden⟩ :=
      poolKeywords_cases cn.config password
    · rw [hone, htwo]
      exact ⟨rfl, h⟩
    · rw [hone, htwo]
      cases s.script.opening.opening with
      | some e => exact ⟨rfl, by simp [Session.hidden, Exchange.hidden, Call.hidden, hcalls, hhidden]⟩
      | none => exact ⟨rfl, by simp [Session.hidden, Exchange.hidden, Call.hidden, hcalls, hhidden]⟩

theorem alike_closeEngine : Run.Alike closeEngine closeEngine :=
  fun _ _ h => ⟨rfl, congrArg (fun u : Session => { u with handle := none }) h⟩

theorem alike_execute (text : Value) (params : List Value) :
    Run.Alike (execute text params) (execute text params) := by
  intro s t h
  obtain ⟨calls, rfl, hcalls⟩ := Session.exists_transcript_of_hidden h
  simp only [onSession_execute]
  cases hh : s.handle with
  | none => exact ⟨rfl, by simp [Session.hidden, hcalls, hh]⟩
  | some held =>
    cases s.script.checkout with
    | some e => exact ⟨rfl, by simp [Session.hidden, hcalls]⟩
    | none => exact ⟨rfl, by simp [Session.hidden, hcalls]⟩

end Mysql

/-! ## Operations -/

namespace Connection

theorem alike_describe (cn : Connection) (password : Value) :
    Run.Alike (cn.perform .describe) ((cn.withPassword password).perform .describe) := by
  intro s t h
  have hconnected := Session.connected_of_hidden h
  have hsummary : ∀ connected, (cn.withPassword password).summary connected = cn.summary connected :=
    fun _ => rfl
  simp only [perform, Run.onSession_bind, Run.onSession_get, Run.onSession_pure, hsummary,
    hconnected]
  exact ⟨trivial, h⟩

section

variable {cn : Connection} (hn : cn.Native) (hb : cn.backend = .mysql) (password : Value)
include hn hb

theorem engine_eq_mysql : cn.kind.engine = .mysql := by
  rw [hn.engine, hb]
  rfl

theorem alike_openEngine : Run.Alike cn.openEngine (cn.withPassword password).openEngine := by
  have hk := engine_eq_mysql hn hb
  have hk' : (cn.withPassword password).kind.engine = .mysql := hk
  rw [openEngine, openEngine, hk, hk']
  exact Mysql.alike_openEngine cn password

theorem alike_closeEngine : Run.Alike cn.closeEngine (cn.withPassword password).closeEngine := by
  have hk := engine_eq_mysql hn hb
  have hk' : (cn.withPassword password).kind.engine = .mysql := hk
  rw [closeEngine, closeEngine, hk, hk']
  exact Mysql.alike_closeEngine

theorem alike_executeOn (text : Value) (params : List Value) :
    Run.Alike (cn.executeOn text params) ((cn.withPassword password).executeOn text params) := by
  have hk := engine_eq_mysql hn hb
  have hk' : (cn.withPassword password).kind.engine = .mysql := hk
  rw [executeOn, executeOn, hk, hk']
  exact Mysql.alike_execute text params

theorem alike_connect : Run.Alike cn.connect (cn.withPassword password).connect := by
  have hn' : (cn.withPassword password).Native := ⟨hn.engine, hn.config⟩
  intro s t h
  have hconnected := Session.connected_of_hidden h
  obtain ⟨outcome, u, v, hs, ht, huv⟩ := (alike_openEngine hn hb password).exists_outcome h
  rw [onSession_connect hn, onSession_connect hn', ← hconnected]
  cases s.connected with
  | true => exact ⟨rfl, h⟩
  | false =>
    simp only [Bool.false_eq_true, if_false]
    rw [hs, ht]
    cases outcome with
    | error f => exact ⟨rfl, huv⟩
    | ok _ => exact ⟨rfl, congrArg cn.openedIn huv⟩

theorem alike_close : Run.Alike cn.close (cn.withPassword password).close := by
  intro s t h
  have hconnected := Session.connected_of_hidden h
  obtain ⟨outcome, u, v, hs, ht, huv⟩ := (alike_closeEngine hn hb password).exists_outcome h
  rw [onSession_close, onSession_close, ← hconnected]
  cases s.connected with
  | false => exact ⟨rfl, h⟩
  | true =>
    simp only [if_true]
    rw [hs, ht]
    cases outcome with
    | error f => exact ⟨rfl, huv⟩
    | ok _ => exact ⟨rfl, congrArg cn.closedIn huv⟩

theorem alike_statement (text : Value) (params : List Value) :
    Run.Alike (cn.statement text params) ((cn.withPassword password).statement text params) := by
  intro s t h
  obtain ⟨outcome, u, v, hs, ht, huv⟩ :=
    (alike_executeOn hn hb password text params).exists_outcome h
  have hlogged : ∀ level name fields,
      (u.logged level name fields).hidden = (v.logged level name fields).hidden :=
    fun level name fields => congrArg (fun w : Session => w.logged level name fields) huv
  rw [onSession_statement, onSession_statement, hs, ht]
  cases outcome with
  | ok result => exact ⟨rfl, hlogged _ _ _⟩
  | error f =>
    cases f with
    | fault f => exact ⟨rfl, hlogged _ _ _⟩
    | engine e | refused r => exact ⟨rfl, huv⟩

theorem alike_run (text params : Value) :
    Run.Alike (cn.run text params) ((cn.withPassword password).run text params) := by
  have hrest : Run.Alike (cn.statementWith text params)
      ((cn.withPassword password).statementWith text params) :=
    (Run.Alike.liftMisuse _).bind fun bound => alike_statement hn hb password text bound
  intro s t h
  have hconnected := Session.connected_of_hidden h
  obtain ⟨outcome, u, v, hs, ht, huv⟩ := (alike_connect hn hb password).exists_outcome h
  rw [onSession_run, onSession_run, ready, ready, ← hconnected]
  cases s.connected with
  | true => exact hrest s t h
  | false =>
    simp only [Bool.false_eq_true, if_false]
    rw [hs, ht]
    cases outcome with
    | error f => exact ⟨rfl, huv⟩
    | ok _ => exact hrest u v huv

theorem alike_executeArray (text params : Value) :
    Run.Alike (cn.executeArray text params) ((cn.withPassword password).executeArray text params) :=
  (alike_run hn hb password text params).bind fun _ => .pure _

theorem alike_executeSingle (text params : Value) :
    Run.Alike (cn.executeSingle text params)
      ((cn.withPassword password).executeSingle text params) :=
  (alike_run hn hb password text params).bind fun _ => .pure _

theorem alike_executeScalar (text params : Value) :
    Run.Alike (cn.executeScalar text params)
      ((cn.withPassword password).executeScalar text params) :=
  (alike_executeSingle hn hb password text params).bind fun _ => .pure _

theorem alike_executeNonQuery (text params : Value) :
    Run.Alike (cn.executeNonQuery text params)
      ((cn.withPassword password).executeNonQuery text params) :=
  (alike_run hn hb password text params).bind fun _ => .liftMisuse _

theorem alike_fetch (r : FetchRequest) :
    Run.Alike (cn.fetch r) ((cn.withPassword password).fetch r) := by
  apply (Run.Alike.liftMisuse _).bind
  intro command
  exact (alike_executeArray hn hb password _ _).inScope _

theorem alike_insert (table : Value) (record : Record) :
    Run.Alike (cn.insert table record) ((cn.withPassword password).insert table record) := by
  apply (Run.Alike.liftMisuse _).bind
  intro name
  apply (alike_run hn hb password _ _).bind
  intro result
  exact alike_executeSingle hn hb password _ _

theorem alike_update (table : Value) (record : Record) :
    Run.Alike (cn.update table record) ((cn.withPassword password).update table record) := by
  have hkind : (cn.withPassword password).kind = cn.kind := rfl
  rw [update, update, hkind]
  cases record.pop? cn.kind.idColumn with
  | none => exact .fail _
  | some entry =>
    apply (Run.Alike.liftMisuse _).bind
    intro name
    have hread : Run.Alike (cn.readBack name entry.1)
        ((cn.withPassword password).readBack name entry.1) :=
      alike_executeSingle hn hb password _ _
    cases entry.2.isEmpty with
    | true => exact hread
    | false => exact (alike_executeNonQuery hn hb password _ _).bind fun _ => hread

theorem alike_delete (table id : Value) :
    Run.Alike (cn.delete table id) ((cn.withPassword password).delete table id) := by
  apply (Run.Alike.liftMisuse _).bind
  intro name
  apply (alike_executeSingle hn hb password _ _).bind
  intro existing
  exact (alike_executeNonQuery hn hb password _ _).bind fun _ => .pure _

theorem alike_tableExists (table : Value) :
    Run.Alike (cn.tableExists table) ((cn.withPassword password).tableExists table) :=
  (alike_executeScalar hn hb password _ _).bind fun _ => .pure _

theorem alike_columnExists (table column : Value) :
    Run.Alike (cn.columnExists table column)
      ((cn.withPassword password).columnExists table column) := by
  have hk := engine_eq_mysql hn hb
  have hk' : (cn.withPassword password).kind.engine = .mysql := hk
  have hb' : (cn.withPassword password).backend = .mysql := hb
  rw [columnExists, columnExists, hk, hk']
  dsimp only
  rw [columnCounted, columnCounted, hb, hb']
  exact (alike_executeScalar hn hb password _ _).bind fun _ => .pure _

theorem alike_performLifecycle (step : Lifecycle) :
    Run.Alike (cn.performLifecycle step) ((cn.withPassword password).performLifecycle step) := by
  cases step with
  | connect => exact alike_connect hn hb password
  | close => exact alike_close hn hb password

theorem alike_gather (steps : List Lifecycle) :
    Run.Alike (cn.gather steps) ((cn.withPassword password).gather steps) := by
  induction steps with
  | nil => exact .pure ()
  | cons step rest ih =>
    intro s t h
    obtain ⟨first, u, v, hs, ht, huv⟩ := (alike_performLifecycle hn hb password step).exists_outcome h
    obtain ⟨others, w, x, hu, hv, hwx⟩ := ih.exists_outcome huv
    simp only [gather, Run.onSession_ofFunction, hs, ht, hu, hv]
    exact ⟨trivial, hwx⟩

/-- What one operation does cannot be told apart. -/
theorem alike_perform (op : Operation) :
    Run.Alike (cn.perform op) ((cn.withPassword password).perform op) := by
  cases op with
  | connect | enter => exact (alike_connect hn hb password).bind fun _ => .pure _
  | close | leave => exact (alike_close hn hb password).bind fun _ => .pure _
  | gather steps => exact (alike_gather hn hb password steps).bind fun _ => .pure _
  | scalar text params => exact (alike_executeScalar hn hb password _ _).bind fun _ => .pure _
  | single text params => exact (alike_executeSingle hn hb password _ _).bind fun _ => .pure _
  | array text params => exact (alike_executeArray hn hb password _ _).bind fun _ => .pure _
  | nonQuery text params => exact (alike_executeNonQuery hn hb password _ _).bind fun _ => .pure _
  | tableExists table => exact (alike_tableExists hn hb password _).bind fun _ => .pure _
  | columnExists table column => exact (alike_columnExists hn hb password _ _).bind fun _ => .pure _
  | insert table record => exact (alike_insert hn hb password _ _).bind fun _ => .pure _
  | update table record => exact (alike_update hn hb password _ _).bind fun _ => .pure _
  | delete table id => exact (alike_delete hn hb password _ _).bind fun _ => .pure _
  | fetch payload =>
    have hfetch : Run.Alike (cn.fetchPayload payload) ((cn.withPassword password).fetchPayload payload) :=
      (Run.Alike.liftRefusal _).bind fun r => alike_fetch hn hb password r
    exact hfetch.bind fun _ => .pure _
  | fetchDraft table steps =>
    apply (Run.Alike.liftRefusal _).bind
    intro d
    have hfetch : Run.Alike (cn.fetchDraft d) ((cn.withPassword password).fetchDraft d) :=
      (Run.Alike.liftRefusal _).bind fun r => alike_fetch hn hb password r
    exact hfetch.bind fun _ => .pure _
  | engineExecute text params =>
    apply (Run.Alike.liftMisuse _).bind
    intro bound
    exact (alike_executeOn hn hb password text bound).bind fun _ => .pure _
  | engineClose => exact (alike_closeEngine hn hb password).bind fun _ => .pure _
  | describe => exact cn.alike_describe password
  | layout => exact .pure _
  | bind entries => exact (Run.Alike.rebind fun c => c.bind entries).bind fun _ => .pure _
  | unbind keys => exact (Run.Alike.rebind fun c => c.unbind keys).bind fun _ => .pure _

/-- What a run of operations does cannot be told apart after any of them. -/
theorem alike_performAll (ops : List Operation) {s t : Session} (h : s.hidden = t.hidden) :
    List.Forall₂ (fun r r' => r.1 = r'.1 ∧ r.2.hidden = r'.2.hidden) (cn.performAll s ops)
      ((cn.withPassword password).performAll t ops) := by
  induction ops generalizing s t with
  | nil => exact .nil
  | cons op rest ih =>
    have hstep := alike_perform hn hb password op s t h
    exact .cons hstep (ih hstep.2)

end

/-! ## Connections made with two passwords -/

/-- Both were refused alike, or they are one connection to a server with two passwords. -/
def Twins {ε : Type} (made other : Except ε Connection) : Prop :=
  (∃ e, made = .error e ∧ other = .error e) ∨
    ∃ cn password, made = .ok cn ∧ other = .ok (cn.withPassword password) ∧ cn.Native ∧
      cn.backend = .mysql

theorem Twins.mapError {ε ι : Type} {made other : Except ε Connection} (h : Twins made other)
    (f : ε → ι) : Twins (made.mapError f) (other.mapError f) := by
  obtain ⟨e, rfl, rfl⟩ | ⟨cn, password, rfl, rfl, hn, hb⟩ := h
  · exact .inl ⟨f e, rfl, rfl⟩
  · exact .inr ⟨cn, password, rfl, rfl, hn, hb⟩

theorem optionsOf_erase {names : List String} {key : String} (h : key ∈ names) (r : Record) :
    optionsOf names (r.erase key) = optionsOf names r := by
  rw [optionsOf, Record.erase, List.filter_filter]
  refine List.filter_congr fun entry _ => ?_
  by_cases hk : entry.1 = key <;> simp [hk, h]

theorem check_mysqlSignature_erase (r : Record) :
    mysqlSignature.check 1 (r.erase "password").keys = mysqlSignature.check 1 r.keys := by
  have hnames : (r.erase "password").keys.findSome? (mysqlSignature.refuseName? 1) =
      r.keys.findSome? (mysqlSignature.refuseName? 1) := by
    induction r with
    | nil => rfl
    | cons entry rest ih =>
      simp only [Record.erase, Record.keys] at ih ⊢
      by_cases hk : entry.1 = "password"
      · have hnone : mysqlSignature.refuseName? 1 entry.1 = none := by
          rw [hk]
          rfl
        rw [List.map_cons, List.findSome?_cons, hnone, ← ih, List.filter_cons_of_neg (by simp [hk])]
      · rw [List.filter_cons_of_pos (by simp [hk]), List.map_cons, List.map_cons, List.findSome?_cons,
          List.findSome?_cons, ih]
  have hnumber : ∀ names, mysqlSignature.refuseNumber? 1 names = none := fun _ => rfl
  rw [Signature.check, Signature.check, Signature.refuse?, Signature.refuse?, hnames, hnumber, hnumber]

theorem ofMysqlArguments_eq_withPassword (kind : ConnectionKind) {x y : Record}
    (h : x.erase "password" = y.erase "password") :
    ofMysqlArguments kind y =
      (ofMysqlArguments kind x).withPassword (y.getD "password" .null) := by
  have hget : ∀ key default, key ≠ "password" → y.getD key default = x.getD key default := by
    intro key default hkey
    have herased : ∀ r : Record, (r.erase "password").get? key = r.get? key := by
      intro r
      rw [Record.get?_erase, if_neg (Ne.symm hkey)]
    rw [Record.getD, Record.getD, ← herased y, ← h, herased]
  have herased : ∀ r : Record, optionsOf mysqlNames (r.erase "password") = optionsOf mysqlNames r :=
    optionsOf_erase (by decide)
  have hoptions : optionsOf mysqlNames y = optionsOf mysqlNames x := by
    rw [← herased y, ← h, herased]
  simp only [ofMysqlArguments, withPassword, hoptions]
  rw [hget "host" _ (by decide), hget "port" _ (by decide), hget "database" _ (by decide),
    hget "username" _ (by decide), hget "pool_size" _ (by decide),
    hget "connect_timeout" _ (by decide), hget "charset" _ (by decide)]

theorem twins_ofArguments {kind : ConnectionKind} (hk : kind.engine = .mysql) {x y : Record}
    (h : x.erase "password" = y.erase "password") :
    Twins (ofArguments kind x) (ofArguments kind y) := by
  have hcheck : mysqlSignature.check 1 y.keys = mysqlSignature.check 1 x.keys := by
    rw [← check_mysqlSignature_erase y, ← h, check_mysqlSignature_erase]
  have hmade : ∀ r : Record, ofArguments kind r =
      (mysqlSignature.check 1 r.keys).map fun _ => ofMysqlArguments kind r := by
    intro r
    rw [ofArguments, hk]
    dsimp only
    cases mysqlSignature.check 1 r.keys <;> rfl
  have hx := hmade x
  rw [hmade y, hcheck, hx, ofMysqlArguments_eq_withPassword kind h]
  cases hc : mysqlSignature.check 1 x.keys with
  | error m => exact .inl ⟨m, rfl, rfl⟩
  | ok u =>
    rw [hc] at hx
    exact .inr ⟨_, _, rfl, rfl, native_of_ofArguments hx, rfl⟩

/-- An option that has the name of an argument is found whatever the password is. -/
theorem withOptions_mysqlArguments (kind : ConnectionKind) (c : Config) (password other : Value)
    (options rest : Record) :
    (∃ m, withOptions kind (mysqlArguments { c with password } options) rest = .error m ∧
      withOptions kind (mysqlArguments { c with password := other } options) rest = .error m) ∨
    ∃ x y, withOptions kind (mysqlArguments { c with password } options) rest = .ok x ∧
      withOptions kind (mysqlArguments { c with password := other } options) rest = .ok y ∧
      x.erase "password" = y.erase "password" := by
  have hhas : ∀ p key, (mysqlArguments { c with password := p } options).has key =
      (mysqlArguments c options).has key :=
    fun _ => Record.has_congr rfl
  simp only [withOptions, hhas]
  cases rest.keys.find? fun key => (mysqlArguments c options).has key with
  | some key => exact .inl ⟨_, rfl, rfl⟩
  | none =>
    refine .inr ⟨_, _, rfl, rfl, ?_⟩
    simp [mysqlArguments, Record.erase]

theorem twins_ofMysqlConfig {kind : ConnectionKind} (hk : kind.engine = .mysql) (c : Config)
    (password other : Value) :
    Twins (ofMysqlConfig kind { c with password })
      (ofMysqlConfig kind { c with password := other }) := by
  cases he : c.options.entries with
  | error m =>
    have hmade : ∀ p, ofMysqlConfig kind { c with password := p } = .error m := by
      intro p
      rw [ofMysqlConfig, he]
      rfl
    exact .inl ⟨m, hmade password, hmade other⟩
  | ok entries =>
    let options := Record.ofEntries (entries.map fun entry => (entry.1.nameText, entry.2))
    have hmade : ∀ p, ofMysqlConfig kind { c with password := p } =
        (withOptions kind (mysqlArguments { c with password := p } options)
          (options.erase "charset")).bind fun arguments =>
            if entries.all fun entry => entry.1.asText?.isSome then ofArguments kind arguments
            else .error .keywordName := by
      intro p
      rw [ofMysqlConfig, he]
      rfl
    rw [hmade, hmade]
    obtain ⟨m, hone, htwo⟩ | ⟨x, y, hone, htwo, hxy⟩ :=
      withOptions_mysqlArguments kind c password other options (options.erase "charset")
    · rw [hone, htwo]
      exact .inl ⟨m, rfl, rfl⟩
    · rw [hone, htwo]
      simp only [Except.bind]
      cases entries.all fun entry => entry.1.asText?.isSome with
      | true => exact twins_ofArguments hk hxy
      | false => exact .inl ⟨_, rfl, rfl⟩

theorem twins_ofConfig {kind : ConnectionKind} (hk : kind.engine = .mysql) (c : Config)
    (password other : Value) :
    Twins (ofConfig kind { c with password }) (ofConfig kind { c with password := other }) := by
  rw [ofConfig, ofConfig, hk]
  exact twins_ofMysqlConfig hk c password other

theorem twins_createFromConfig {d : Directory}
    (hd : ∀ kind, d.find (.text "mysql") = .ok kind → kind.engine = .mysql) {c : Config}
    (hc : c.backend = .backend .mysql) (password other : Value) :
    Twins (d.createFromConfig { c with password })
      (d.createFromConfig { c with password := other }) := by
  have hmade : ∀ p, d.createFromConfig { c with password := p } =
      (d.find (.text "mysql")).bind fun kind =>
        (ofConfig kind { c with password := p }).mapError .misuse := by
    intro p
    rw [Directory.createFromConfig, hc]
    rfl
  rw [hmade, hmade]
  cases hfind : d.find (.text "mysql") with
  | error e => exact .inl ⟨e, rfl, rfl⟩
  | ok kind => exact (twins_ofConfig (hd kind hfind) c password other).mapError _

theorem twins_connect {settings : Settings} (hs : settings.backend = .mysql)
    (password other : Option String) :
    Twins (Settings.connect { settings with password })
      (Settings.connect { settings with password := other }) := by
  cases hd : settings.database.isEmpty with
  | true =>
    have hmade : ∀ p, Settings.connect { settings with password := p } =
        .error (.fault (Fault.missingConfig (.text "QUARRY_DB_DATABASE"))) := by
      intro p
      rw [Settings.connect, Settings.toConfig, hs, hd]
      rfl
    exact .inl ⟨_, hmade password, hmade other⟩
  | false =>
    let c : Config :=
      { backend := .backend .mysql
        path := .text settings.path
        host := .text settings.host
        port := .int settings.port
        database := .text settings.database
        username := Settings.textOrNull settings.username
        poolSize := .int settings.poolSize
        connectTimeout := .int settings.connectTimeout
        readonly := .bool settings.readonly }
    have hmade : ∀ p, Settings.connect { settings with password := p } =
        Directory.initial.createFromConfig
          { c with password := Settings.textOrNull (p.filter fun word => !word.isEmpty) } := by
      intro p
      rw [Settings.connect, Settings.toConfig, hs, hd]
      rfl
    have hkind : ∀ kind, Directory.initial.find (.text "mysql") = .ok kind →
        kind.engine = .mysql := by
      intro kind hfind
      have hmysql : Directory.initial.find (.text "mysql") = .ok .mysql := rfl
      rw [hmysql] at hfind
      cases hfind
      rfl
    rw [hmade, hmade]
    exact twins_createFromConfig hkind rfl _ _

/-- Two ways to ask for a connection to a server that say the same but for the password. -/
inductive AskedAlike :
    Except DirectoryError Connection → Except DirectoryError Connection → Prop
  | arguments {kind : ConnectionKind} (hk : kind.engine = .mysql) {x y : Record}
    (h : x.erase "password" = y.erase "password") :
    AskedAlike ((ofArguments kind x).mapError .misuse) ((ofArguments kind y).mapError .misuse)
  | config {kind : ConnectionKind} (hk : kind.engine = .mysql) (c : Config)
    (password other : Value) :
    AskedAlike ((ofConfig kind { c with password }).mapError .misuse)
      ((ofConfig kind { c with password := other }).mapError .misuse)
  | directory {d : Directory}
    (hd : ∀ kind, d.find (.text "mysql") = .ok kind → kind.engine = .mysql) {c : Config}
    (hc : c.backend = .backend .mysql) (password other : Value) :
    AskedAlike (d.createFromConfig { c with password })
      (d.createFromConfig { c with password := other })
  | settings {settings : Settings} (hs : settings.backend = .mysql)
    (password other : Option String) :
    AskedAlike (Settings.connect { settings with password })
      (Settings.connect { settings with password := other })

theorem AskedAlike.twins {made other : Except DirectoryError Connection}
    (h : AskedAlike made other) : Twins made other := by
  cases h with
  | arguments hk h => exact (twins_ofArguments hk h).mapError _
  | config hk c password other => exact (twins_ofConfig hk c password other).mapError _
  | directory hd hc password other => exact twins_createFromConfig hd hc password other
  | settings hs password other => exact twins_connect hs password other

/-- A password reaches the driver when a pool is opened and nothing else of what can be seen. -/
theorem password_reaches_driver_only {made other : Except DirectoryError Connection}
    (h : AskedAlike made other) :
    (∃ e, made = .error e ∧ other = .error e) ∨
      ∃ cn password, made = .ok cn ∧ other = .ok (cn.withPassword password) ∧
        (cn.withPassword password).config.target = cn.config.target ∧
        (∀ connected, (cn.withPassword password).summary connected = cn.summary connected) ∧
        ∀ script context ops,
          List.Forall₂ (fun r r' => r.1 = r'.1 ∧ r.2.hidden = r'.2.hidden)
            (cn.performAll { script, context } ops)
            ((cn.withPassword password).performAll { script, context } ops) := by
  obtain ⟨e, hmade, hother⟩ | ⟨cn, password, hmade, hother, hn, hb⟩ := h.twins
  · exact .inl ⟨e, hmade, hother⟩
  · refine .inr ⟨cn, password, hmade, hother, rfl, fun _ => rfl, fun script context ops => ?_⟩
    exact alike_performAll hn hb password ops rfl

/-- One password is a word and the other is missing; the first pool cannot be opened. -/
theorem password_reaches_driver_only_for_settings :
    let settings : Settings := { backend := .mysql, database := "shop", username := some "ann" }
    let script : Script := { openings := [{ opening := some ⟨.driver "InterfaceError", "refused"⟩ }] }
    let ops : List Operation := [.connect, .scalar (.text "SELECT 1") (.list []), .describe]
    ∃ cn password,
      Settings.connect { settings with password := some "hunter2" } = .ok cn ∧
      Settings.connect { settings with password := none } = .ok (cn.withPassword password) ∧
      cn.config.password = .text "hunter2" ∧
      List.Forall₂ (fun r r' => r.1 = r'.1 ∧ r.2.hidden = r'.2.hidden)
        (cn.performAll { script } ops) ((cn.withPassword password).performAll { script } ops) := by
  intro settings script ops
  have hasked : AskedAlike (Settings.connect { settings with password := some "hunter2" })
      (Settings.connect { settings with password := none }) :=
    .settings rfl (some "hunter2") none
  have hword : (Settings.connect { settings with password := some "hunter2" }).toOption.map
      (fun cn => cn.config.password) = some (.text "hunter2") := by
    dsimp only [settings]
    rfl
  obtain ⟨e, hmade, -⟩ | ⟨cn, password, hmade, hother, -, -, hruns⟩ :=
    password_reaches_driver_only hasked
  · rw [hmade] at hword
    cases hword
  · rw [hmade] at hword
    exact ⟨cn, password, hmade, hother, Option.some.inj hword, hruns script [] ops⟩

end Connection

end DataFetch
