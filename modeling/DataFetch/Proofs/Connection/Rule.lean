import DataFetch.Connection.Operation
import DataFetch.Proofs.Connection.Steps

/-! # Rules that operations obey

A rule relates the session before an operation, the failure that the operation ends in, if it fails, and
the session after it. Main statement: a rule that passes through the composition of steps is obeyed by
every operation as soon as opening the connection, running statements on an open one and, where an
operation closes, closing obey it.
-/
namespace DataFetch

/-- What may lie between the session before an operation, the failure in which it ends and the session
after it. -/
abbrev Rule := Session → Option Failure → Session → Prop

def Failure.of? {α : Type} : Except Failure α → Option Failure
  | .ok _ => none
  | .error f => some f

@[simp]
theorem Failure.of?_map {α β : Type} (f : α → β) (c : Except Failure α) :
    of? (c.map f) = of? c := by
  cases c <;> rfl

/-- Every session and outcome that an operation leads to is one that the rule allows. -/
def Run.Obeys {α : Type} (R : Rule) (m : Run α) : Prop :=
  ∀ s, R s (Failure.of? (m.onSession s).1) (m.onSession s).2

namespace Operation

/-- Is an operation asked of the connection itself and by itself? The others go past it to the engine or
take turns with one another. -/
def isPublic : Operation → Bool
  | gather _ | engineExecute _ _ | engineClose => false
  | _ => true

def closes : Operation → Bool
  | close | leave => true
  | _ => false

end Operation

namespace Connection

variable {cn : Connection}

/-- A rule that passes through the steps of operations, and that opening and statements on an open
connection obey. -/
structure Governs (R : Rule) (cn : Connection) : Prop where
  idle : ∀ s, R s none s
  refused : ∀ s r, R s (some (.refused r)) s
  unidentified : ∀ s table, R s (some (.fault (cn.withoutIdentifier table))) s
  trans : ∀ {s t u o}, R s none t → R t o u → R s o u
  /-- The values that are bound in the log context do not matter. -/
  bound : ∀ {s t o} (c d : LogContext), R { s with context := c } o t → R s o { t with context := d }
  connect : cn.connect.Obeys R
  statement : ∀ text params s, s.connected = true →
    R s (Failure.of? ((cn.statement text params).onSession s).1)
      ((cn.statement text params).onSession s).2

namespace Governs

variable {R : Rule} {α β : Type}

/-! ## Ways to put steps together -/

theorem obeys_pure (h : cn.Governs R) (a : α) : (pure a : Run α).Obeys R :=
  h.idle

theorem obeys_bind (h : cn.Governs R) {m : Run α} {f : α → Run β} (hm : m.Obeys R)
    (hf : ∀ a, (f a).Obeys R) : (m >>= f).Obeys R := by
  intro s
  have hs := hm s
  rw [Run.onSession_bind]
  cases hr : m.onSession s with
  | mk outcome t =>
    rw [hr] at hs
    cases outcome with
    | error e => exact hs
    | ok a => exact h.trans hs (hf a t)

theorem obeys_get (h : cn.Governs R) : (get : Run Session).Obeys R :=
  h.idle

theorem obeys_liftMisuse (h : cn.Governs R) (c : Except Misuse α) : (Run.liftMisuse c).Obeys R := by
  cases c with
  | ok a => exact h.idle
  | error m => exact fun s => h.refused s (.misuse m)

theorem obeys_liftRefusal (h : cn.Governs R) (c : Except Refusal α) : (liftRefusal c).Obeys R := by
  cases c with
  | ok a => exact h.idle
  | error r => exact fun s => h.refused s r

theorem obeys_inScope (h : cn.Governs R) (entries : Record) {m : Run α} (hm : m.Obeys R) :
    (Run.inScope entries m).Obeys R :=
  fun _ => h.bound _ _ (hm _)

theorem obeys_rebind (h : cn.Governs R) (f : LogContext → LogContext) :
    (modify fun s => { s with context := f s.context } : Run Unit).Obeys R :=
  fun s => h.bound s.context (f s.context) (h.idle s)

/-! ## Statements, each on a connection that is opened first if need be -/

theorem obeys_run (h : cn.Governs R) (hn : cn.Native) (text params : Value) :
    (cn.run text params).Obeys R := by
  have hrest : ∀ t, t.connected = true →
      R t (Failure.of? ((cn.statementWith text params).onSession t).1)
        ((cn.statementWith text params).onSession t).2 := by
    intro t ht
    rw [onSession_statementWith]
    cases params.elements with
    | error m => exact h.refused t (.misuse m)
    | ok bound => exact h.statement text bound t ht
  intro s
  rw [onSession_run, ready]
  cases hs : s.connected with
  | true => exact hrest s hs
  | false =>
    have hc := h.connect s
    have ht := connected_of_connect hn s
    rw [if_neg Bool.false_ne_true]
    cases hr : cn.connect.onSession s with
    | mk outcome t =>
      rw [hr] at hc ht
      cases outcome with
      | error f => exact hc
      | ok u => exact h.trans hc (hrest t (ht rfl))

theorem obeys_executeArray (h : cn.Governs R) (hn : cn.Native) (text params : Value) :
    (cn.executeArray text params).Obeys R :=
  h.obeys_bind (h.obeys_run hn text params) fun _ => h.obeys_pure _

theorem obeys_executeSingle (h : cn.Governs R) (hn : cn.Native) (text params : Value) :
    (cn.executeSingle text params).Obeys R :=
  h.obeys_bind (h.obeys_run hn text params) fun _ => h.obeys_pure _

theorem obeys_executeScalar (h : cn.Governs R) (hn : cn.Native) (text params : Value) :
    (cn.executeScalar text params).Obeys R :=
  h.obeys_bind (h.obeys_executeSingle hn text params) fun _ => h.obeys_pure _

theorem obeys_executeNonQuery (h : cn.Governs R) (hn : cn.Native) (text params : Value) :
    (cn.executeNonQuery text params).Obeys R :=
  h.obeys_bind (h.obeys_run hn text params) fun _ => h.obeys_liftMisuse _

theorem obeys_fetch (h : cn.Governs R) (hn : cn.Native) (r : FetchRequest) :
    (cn.fetch r).Obeys R := by
  apply h.obeys_bind (h.obeys_liftMisuse _)
  intro command
  exact h.obeys_inScope _ (h.obeys_executeArray hn _ _)

theorem obeys_insert (h : cn.Governs R) (hn : cn.Native) (table : Value) (record : Record) :
    (cn.insert table record).Obeys R := by
  apply h.obeys_bind (h.obeys_liftMisuse _)
  intro name
  apply h.obeys_bind (h.obeys_run hn _ _)
  intro result
  exact h.obeys_executeSingle hn _ _

theorem obeys_update (h : cn.Governs R) (hn : cn.Native) (table : Value) (record : Record) :
    (cn.update table record).Obeys R := by
  unfold update
  cases record.pop? cn.kind.idColumn with
  | none => exact fun s => h.unidentified s table
  | some entry =>
    apply h.obeys_bind (h.obeys_liftMisuse _)
    intro name
    have hread : (cn.readBack name entry.1).Obeys R := h.obeys_executeSingle hn _ _
    cases entry.2.isEmpty with
    | true => exact hread
    | false => exact h.obeys_bind (h.obeys_executeNonQuery hn _ _) fun _ => hread

theorem obeys_delete (h : cn.Governs R) (hn : cn.Native) (table id : Value) :
    (cn.delete table id).Obeys R := by
  apply h.obeys_bind (h.obeys_liftMisuse _)
  intro name
  apply h.obeys_bind (h.obeys_executeSingle hn _ _)
  intro existing
  exact h.obeys_bind (h.obeys_executeNonQuery hn _ _) fun _ => h.obeys_pure _

theorem obeys_tableExists (h : cn.Governs R) (hn : cn.Native) (table : Value) :
    (cn.tableExists table).Obeys R :=
  h.obeys_bind (h.obeys_executeScalar hn _ _) fun _ => h.obeys_pure _

theorem obeys_columnDescribed (h : cn.Governs R) (hn : cn.Native) (table column : Value) :
    (cn.columnDescribed table column).Obeys R := by
  apply h.obeys_bind (h.obeys_tableExists hn table)
  intro found
  cases found with
  | false => exact h.obeys_pure false
  | true =>
    apply h.obeys_bind (h.obeys_liftMisuse _)
    intro name
    exact h.obeys_bind (h.obeys_executeArray hn _ _) fun _ => h.obeys_liftMisuse _

theorem obeys_columnCounted (h : cn.Governs R) (hn : cn.Native) (table column : Value) :
    (cn.columnCounted table column).Obeys R := by
  unfold columnCounted
  cases cn.backend.columnExistsQuery? with
  | none => exact fun s => h.refused s _
  | some query => exact h.obeys_bind (h.obeys_executeScalar hn _ _) fun _ => h.obeys_pure _

theorem obeys_columnExists (h : cn.Governs R) (hn : cn.Native) (table column : Value) :
    (cn.columnExists table column).Obeys R := by
  unfold columnExists
  cases cn.kind.engine with
  | sqlite => exact h.obeys_columnDescribed hn table column
  | mysql | custom => exact h.obeys_columnCounted hn table column

/-- What is asked of a connection obeys a rule that governs it. -/
theorem obeys_perform (h : cn.Governs R) (hn : cn.Native) {op : Operation}
    (hp : op.isPublic = true) (hc : op.closes = true → cn.close.Obeys R) :
    (cn.perform op).Obeys R := by
  cases op with
  | connect | enter => exact h.obeys_bind h.connect fun _ => h.obeys_pure _
  | close | leave => exact h.obeys_bind (hc rfl) fun _ => h.obeys_pure _
  | gather steps | engineExecute text params | engineClose => cases hp
  | scalar text params => exact h.obeys_bind (h.obeys_executeScalar hn _ _) fun _ => h.obeys_pure _
  | single text params => exact h.obeys_bind (h.obeys_executeSingle hn _ _) fun _ => h.obeys_pure _
  | array text params => exact h.obeys_bind (h.obeys_executeArray hn _ _) fun _ => h.obeys_pure _
  | nonQuery text params =>
    exact h.obeys_bind (h.obeys_executeNonQuery hn _ _) fun _ => h.obeys_pure _
  | tableExists table => exact h.obeys_bind (h.obeys_tableExists hn _) fun _ => h.obeys_pure _
  | columnExists table column =>
    exact h.obeys_bind (h.obeys_columnExists hn _ _) fun _ => h.obeys_pure _
  | insert table record => exact h.obeys_bind (h.obeys_insert hn _ _) fun _ => h.obeys_pure _
  | update table record => exact h.obeys_bind (h.obeys_update hn _ _) fun _ => h.obeys_pure _
  | delete table id => exact h.obeys_bind (h.obeys_delete hn _ _) fun _ => h.obeys_pure _
  | fetch payload =>
    refine h.obeys_bind ?_ fun _ => h.obeys_pure _
    exact h.obeys_bind (h.obeys_liftRefusal _) fun r => h.obeys_fetch hn r
  | fetchDraft table steps =>
    apply h.obeys_bind (h.obeys_liftRefusal _)
    intro d
    refine h.obeys_bind ?_ fun _ => h.obeys_pure _
    exact h.obeys_bind (h.obeys_liftRefusal _) fun r => h.obeys_fetch hn r
  | describe => exact h.obeys_bind h.obeys_get fun _ => h.obeys_pure _
  | layout => exact h.obeys_pure _
  | bind entries => exact h.obeys_bind (h.obeys_rebind fun c => c.bind entries) fun _ => h.obeys_pure _
  | unbind keys => exact h.obeys_bind (h.obeys_rebind fun c => c.unbind keys) fun _ => h.obeys_pure _

end Governs

theorem sessionAfter_keeps {P : Session → Prop} {ops : List Operation}
    (hstep : ∀ op ∈ ops, ∀ s, P s → P ((cn.perform op).onSession s).2) {s : Session} (hs : P s) :
    P (cn.sessionAfter s ops) := by
  induction ops generalizing s with
  | nil => exact hs
  | cons op rest ih =>
    rw [sessionAfter, List.foldl_cons]
    apply ih
    · exact fun o ho => hstep o (List.mem_cons_of_mem op ho)
    · exact hstep op List.mem_cons_self s hs

end Connection

end DataFetch
