import DataFetch.Proofs.Connection.Rule
import DataFetch.Proofs.Engine.Mysql

/-! # Connections of the pool

A statement on MySQL takes a connection out of the pool, works on one cursor of it and gives it back,
whatever the driver raises in between. Main statement: the calls of every operation are such visits one
after another, so that nothing is kept, given back twice or used after it was given back.
-/
namespace DataFetch

namespace Call

/-- Does a call run a statement on an open cursor? -/
def worksOnCursor : Call → Bool
  | execute _ _ | fetchAll => true
  | _ => false

/-- Is a call made on a connection that was taken out of the pool, or on its cursor? -/
def onLent : Call → Bool
  | cursor _ | execute _ _ | fetchAll | cursorClose | release => true
  | _ => false

end Call

/-- What is called on connection `n` while it is out of the pool: a cursor is opened, worked on and
closed, once, or could not be opened. -/
inductive CursorUse (n : Nat) : List Exchange → Prop
  | refused (keywords : Record) (e : EngineError) : CursorUse n [⟨n, .cursor keywords, some e⟩]
  | closed (keywords : Record) {work : List Exchange} (closing : Option EngineError)
      (hwork : ∀ x ∈ work, x.object = n ∧ x.call.worksOnCursor = true) :
      CursorUse n (⟨n, .cursor keywords, none⟩ :: (work ++ [⟨n, .cursorClose, closing⟩]))

/-- The calls by which a pool that had made `m` driver objects comes to have made `n`. -/
inductive PoolCalls : Nat → Nat → List Exchange → Prop
  | nil (m : Nat) : PoolCalls m m []
  | opened (m : Nat) (keywords : Record) : PoolCalls m (m + 1) [⟨m + 1, .pool keywords, none⟩]
  | unopened (m : Nat) (keywords : Record) (e : EngineError) :
      PoolCalls m m [⟨m + 1, .pool keywords, some e⟩]
  | refused (m : Nat) (e : EngineError) : PoolCalls m m [⟨m + 1, .checkout, some e⟩]
  | lent (m : Nat) {during : List Exchange} (giving : Option EngineError)
      (huse : CursorUse (m + 1) during) :
      PoolCalls m (m + 1)
        (⟨m + 1, .checkout, none⟩ :: (during ++ [⟨m + 1, .release, giving⟩]))
  | append {l m n : Nat} {first rest : List Exchange} :
      PoolCalls l m first → PoolCalls m n rest → PoolCalls l n (first ++ rest)

/-! ## What the calls of one connection are -/

namespace CursorUse

variable {n : Nat} {calls : List Exchange}

theorem object_eq (h : CursorUse n calls) : ∀ x ∈ calls, x.object = n := by
  cases h with
  | refused keywords e => simp
  | closed keywords closing hwork =>
    intro x hx
    rcases List.mem_cons.mp hx with rfl | hx
    · rfl
    · rcases List.mem_append.mp hx with hx | hx
      · exact (hwork x hx).1
      · cases List.mem_singleton.mp hx
        rfl

/-- While a connection is out, none is taken and none given back. -/
theorem call_ne (h : CursorUse n calls) :
    ∀ x ∈ calls, x.call ≠ .checkout ∧ x.call ≠ .release := by
  cases h with
  | refused keywords e => simp
  | closed keywords closing hwork =>
    intro x hx
    rcases List.mem_cons.mp hx with rfl | hx
    · simp
    · rcases List.mem_append.mp hx with hx | hx
      · have hw := (hwork x hx).2
        constructor
        · intro hc
          rw [hc] at hw
          cases hw
        · intro hc
          rw [hc] at hw
          cases hw
      · cases List.mem_singleton.mp hx
        simp

end CursorUse

/-! ## What follows for all calls of a pool -/

/-- Every connection that was taken out is given back after the use of its cursor and before anything
else, and nothing is called on it afterwards. -/
def GivesBack (calls : List Exchange) : Prop :=
  ∀ before n after, calls = before ++ ⟨n, .checkout, none⟩ :: after →
    ∃ during giving rest, after = during ++ ⟨n, .release, giving⟩ :: rest ∧ CursorUse n during ∧
      ∀ x ∈ rest, x.object ≠ n

/-- Connections and cursors are used after the connection was taken out. -/
def UsesLent (calls : List Exchange) : Prop :=
  ∀ before x after, calls = before ++ x :: after → x.call.onLent = true →
    ⟨x.object, .checkout, none⟩ ∈ before

theorem givesBack_of_not_mem {calls : List Exchange} (h : ∀ n, ⟨n, .checkout, none⟩ ∉ calls) :
    GivesBack calls := by
  intro before n after hc
  exact absurd (by simp [hc]) (h n)

theorem usesLent_of_onLent {calls : List Exchange} (h : ∀ x ∈ calls, x.call.onLent = false) :
    UsesLent calls := by
  intro before x after hc hx
  rw [h x (by simp [hc])] at hx
  cases hx

theorem GivesBack.append {first rest : List Exchange} {m : Nat} (hfirst : GivesBack first)
    (hrest : GivesBack rest) (hlow : ∀ n, ⟨n, .checkout, none⟩ ∈ first → n ≤ m)
    (hhigh : ∀ x ∈ rest, m < x.object) : GivesBack (first ++ rest) := by
  intro before n after h
  rcases split_append h with ⟨tail, hf, rfl⟩ | ⟨head, rfl, hr⟩
  · obtain ⟨during, giving, others, rfl, huse, hothers⟩ := hfirst before n tail hf
    refine ⟨during, giving, others ++ rest, by simp, huse, ?_⟩
    have hn : n ≤ m := hlow n (by simp [hf])
    intro x hx
    rcases List.mem_append.mp hx with hx | hx
    · exact hothers x hx
    · have hm := hhigh x hx
      omega
  · exact hrest head n after hr

theorem UsesLent.append {first rest : List Exchange} (hfirst : UsesLent first)
    (hrest : UsesLent rest) : UsesLent (first ++ rest) := by
  intro before x after h hx
  rcases split_append h with ⟨tail, hf, -⟩ | ⟨head, rfl, hr⟩
  · exact hfirst before x tail hf hx
  · exact List.mem_append_right first (hrest head x after hr hx)

namespace CursorUse

variable {n : Nat} {during : List Exchange}

theorem givesBack (h : CursorUse n during) (giving : Option EngineError) :
    GivesBack (⟨n, .checkout, none⟩ :: (during ++ [⟨n, .release, giving⟩])) := by
  intro before k after hc
  cases before with
  | nil =>
    rw [List.nil_append] at hc
    cases hc
    exact ⟨during, giving, [], rfl, h, List.forall_mem_nil _⟩
  | cons y before =>
    -- no other connection is taken out before this one is given back
    have hmem : ⟨k, .checkout, none⟩ ∈ during ++ [⟨n, .release, giving⟩] := by
      rw [(List.cons.inj hc).2]
      simp
    rcases List.mem_append.mp hmem with hk | hk
    · exact absurd rfl (h.call_ne _ hk).1
    · cases List.mem_singleton.mp hk

theorem usesLent (h : CursorUse n during) (giving : Option EngineError) :
    UsesLent (⟨n, .checkout, none⟩ :: (during ++ [⟨n, .release, giving⟩])) := by
  intro before x after hc hx
  cases before with
  | nil =>
    rw [List.nil_append] at hc
    cases hc
    cases hx
  | cons y before =>
    obtain ⟨rfl, hrest⟩ := List.cons.inj hc
    have hmem : x ∈ during ++ [⟨n, .release, giving⟩] := by
      rw [hrest]
      simp
    have hobject : x.object = n := by
      rcases List.mem_append.mp hmem with hd | hd
      · exact h.object_eq x hd
      · cases List.mem_singleton.mp hd
        rfl
    rw [hobject]
    exact List.mem_cons_self

end CursorUse

namespace PoolCalls

variable {m n : Nat} {calls : List Exchange}

theorem le (h : PoolCalls m n calls) : m ≤ n := by
  induction h with
  | nil | unopened | refused => exact Nat.le_refl _
  | opened | lent => exact Nat.le_succ _
  | append _ _ hf hr => exact Nat.le_trans hf hr

/-- Calls are made on new driver objects only. -/
theorem lt_object (h : PoolCalls m n calls) : ∀ x ∈ calls, m < x.object := by
  induction h with
  | nil => simp
  | opened | unopened | refused => simp
  | lent m giving huse =>
    intro x hx
    have hx : x.object = m + 1 := by
      rcases List.mem_cons.mp hx with rfl | hx
      · rfl
      · rcases List.mem_append.mp hx with hx | hx
        · exact huse.object_eq x hx
        · cases List.mem_singleton.mp hx
          rfl
    omega
  | append hfirst _ hf hr =>
    intro x hx
    rcases List.mem_append.mp hx with hx | hx
    · exact hf x hx
    · have hle := hfirst.le
      have hlt := hr x hx
      omega

/-- A connection that was taken out or given back is one of the driver objects that were made. -/
theorem object_le (h : PoolCalls m n calls) :
    ∀ x ∈ calls, x.raised = none ∨ x.call.onLent = true → x.object ≤ n := by
  induction h with
  | nil => simp
  | opened => simp
  | unopened | refused => simp [Call.onLent]
  | lent m giving huse =>
    intro x hx _
    rcases List.mem_cons.mp hx with rfl | hx
    · exact Nat.le_refl _
    · rcases List.mem_append.mp hx with hx | hx
      · exact Nat.le_of_eq (huse.object_eq x hx)
      · cases List.mem_singleton.mp hx
        exact Nat.le_refl _
  | append _ hrest hf hr =>
    intro x hx hmade
    rcases List.mem_append.mp hx with hx | hx
    · exact Nat.le_trans (hf x hx hmade) hrest.le
    · exact hr x hx hmade

theorem givesBack (h : PoolCalls m n calls) : GivesBack calls := by
  induction h with
  | nil | opened | unopened | refused => exact givesBack_of_not_mem (by simp)
  | lent m giving huse => exact huse.givesBack giving
  | append hfirst hrest hf hr =>
    exact hf.append hr (fun n hn => hfirst.object_le _ hn (.inl rfl)) hrest.lt_object

theorem usesLent (h : PoolCalls m n calls) : UsesLent calls := by
  induction h with
  | nil | opened | unopened | refused => exact usesLent_of_onLent (by simp [Call.onLent])
  | lent m giving huse => exact huse.usesLent giving
  | append _ _ hf hr => exact hf.append hr

end PoolCalls

/-! ## What operations call -/

/-- Whatever is called on the pool comes in visits. -/
def Visits : Rule := fun s _ t =>
  ∃ calls, t.transcript = s.transcript ++ calls ∧ PoolCalls s.made t.made calls

theorem Visits.nothing (s : Session) (o : Option Failure) : Visits s o s :=
  ⟨[], (List.append_nil _).symm, .nil _⟩

theorem Visits.trans {s t u : Session} {o : Option Failure} (hst : Visits s none t)
    (htu : Visits t o u) : Visits s o u := by
  obtain ⟨first, hfirst, hpool⟩ := hst
  obtain ⟨rest, hrest, hpool'⟩ := htu
  exact ⟨first ++ rest, by rw [hrest, hfirst, List.append_assoc], hpool.append hpool'⟩

namespace Mysql

theorem visits_openEngine (cn : Connection) (s : Session) :
    Visits s (Failure.of? ((openEngine cn).onSession s).1) ((openEngine cn).onSession s).2 := by
  rw [onSession_openEngine]
  cases s.script.installed with
  | false => exact .nothing s _
  | true =>
    rw [if_pos rfl]
    cases poolKeywords cn.config with
    | error m => exact .nothing s _
    | ok keywords =>
      dsimp only
      cases s.script.opening.opening with
      | some e => exact ⟨_, rfl, .unopened _ _ e⟩
      | none => exact ⟨_, rfl, .opened _ _⟩

theorem worksOnCursor_runCalls (object : Nat) (reply : StatementReply) (text : Value)
    (params : List Value) :
    ∀ x ∈ runCalls object reply text params, x.object = object ∧ x.call.worksOnCursor = true := by
  intro x hx
  rcases List.mem_cons.mp hx with rfl | hx
  · exact ⟨rfl, rfl⟩
  · split at hx
    · cases List.mem_singleton.mp hx
      exact ⟨rfl, rfl⟩
    · cases hx

theorem cursorUse_cursorCalls (object : Nat) (reply : StatementReply) (text : Value)
    (params : List Value) : CursorUse object (cursorCalls object reply text params) := by
  rw [cursorCalls]
  cases reply.cursor with
  | some e => exact .refused _ e
  | none => exact .closed _ _ (worksOnCursor_runCalls object reply text params)

theorem visits_execute (text : Value) (params : List Value) (s : Session) :
    Visits s (Failure.of? ((execute text params).onSession s).1)
      ((execute text params).onSession s).2 := by
  rw [onSession_execute]
  cases s.handle with
  | none => exact .nothing s _
  | some h =>
    dsimp only
    cases s.script.checkout with
    | some e => exact ⟨_, rfl, .refused _ e⟩
    | none => exact ⟨_, rfl, .lent _ _ (cursorUse_cursorCalls _ _ _ _)⟩

end Mysql

namespace Connection

variable {cn : Connection}

theorem visits_connect (hn : cn.Native) (hb : cn.backend = .mysql) : cn.connect.Obeys Visits := by
  intro s
  have hs := Mysql.visits_openEngine cn s
  have hopen : cn.openEngine = Mysql.openEngine cn := by
    rw [openEngine, hn.engine, hb]
    rfl
  rcases hn.connect_cases s with ⟨-, h⟩ | ⟨-, t, ⟨f, ho, h⟩ | ⟨ho, h⟩⟩
  · rw [h]
    exact .nothing s _
  · rw [h, ← ho, hopen]
    exact hs
  · rw [← hopen, ho] at hs
    rw [h]
    exact hs

theorem visits_statement (hn : cn.Native) (hb : cn.backend = .mysql) (text : Value)
    (params : List Value) (s : Session) :
    Visits s (Failure.of? ((cn.statement text params).onSession s).1)
      ((cn.statement text params).onSession s).2 := by
  have hs := Mysql.visits_execute text params s
  have hexecute : cn.executeOn text params = Mysql.execute text params := by
    rw [executeOn, hn.engine, hb]
    rfl
  rw [← hexecute] at hs
  rcases cn.statement_cases text params s with ⟨t, ⟨result, he, h⟩ | ⟨f, he, h⟩ | ⟨f, -, he, h⟩⟩
  all_goals
    rw [he] at hs
    rw [h]
    exact hs

theorem visits_close (hn : cn.Native) (hb : cn.backend = .mysql) : cn.close.Obeys Visits := by
  intro s
  have hclose : cn.closeEngine = Mysql.closeEngine := by
    rw [closeEngine, hn.engine, hb]
    rfl
  rw [onSession_close, hclose, Mysql.onSession_closeEngine]
  cases s.connected with
  | true => exact ⟨[], (List.append_nil _).symm, .nil _⟩
  | false => exact .nothing s _

theorem governs_visits (hn : cn.Native) (hb : cn.backend = .mysql) : cn.Governs Visits where
  idle s := .nothing s _
  refused s _ := .nothing s _
  unidentified s _ := .nothing s _
  trans := .trans
  bound _ _ h := h
  connect := visits_connect hn hb
  statement text params s _ := visits_statement hn hb text params s

theorem visits_perform (hn : cn.Native) (hb : cn.backend = .mysql) {op : Operation}
    (hp : op.isPublic = true) : (cn.perform op).Obeys Visits :=
  (governs_visits hn hb).obeys_perform hn hp fun _ => visits_close hn hb

theorem poolCalls_sessionAfter (hn : cn.Native) (hb : cn.backend = .mysql) (script : Script)
    (context : LogContext) {ops : List Operation} (hops : ∀ op ∈ ops, op.isPublic = true) :
    let s := cn.sessionAfter { script, context } ops
    PoolCalls 0 s.made s.transcript := by
  apply sessionAfter_keeps (P := fun s => PoolCalls 0 s.made s.transcript)
  · intro op hop s hs
    obtain ⟨calls, htranscript, hcalls⟩ := visits_perform hn hb (hops op hop) s
    rw [htranscript]
    exact hs.append hcalls
  · exact .nil 0

/-- Whatever the driver raises, every connection that an operation takes out of the pool is given back
once, before the next one is taken out and before the operation ends; the one cursor that is opened on it
is closed once before that; and nothing is called on a connection that was not taken out or was given
back, also not by a later operation. -/
theorem lent_connections_given_back (hm : cn.Made) (hb : cn.backend = .mysql) (script : Script)
    (context : LogContext) (ops : List Operation) (hops : ∀ op ∈ ops, op.isPublic = true)
    (op : Operation) (hp : op.isPublic = true) :
    let s := cn.sessionAfter { script, context } ops
    ∃ calls, ((cn.perform op).onSession s).2.transcript = s.transcript ++ calls ∧
      (∀ before n after, calls = before ++ ⟨n, .checkout, none⟩ :: after →
        ∃ during giving rest, after = during ++ ⟨n, .release, giving⟩ :: rest ∧
          CursorUse n during ∧ ∀ x ∈ rest, x.object ≠ n) ∧
      (∀ before x after, calls = before ++ x :: after → x.call.onLent = true →
        ⟨x.object, .checkout, none⟩ ∈ before) ∧
      ∀ x ∈ calls, ∀ y ∈ s.transcript, y.call = .release → x.object ≠ y.object := by
  have hn := hm.native
  have hbefore := poolCalls_sessionAfter hn hb script context hops
  intro s
  obtain ⟨calls, htranscript, hcalls⟩ := visits_perform hn hb hp s
  refine ⟨calls, htranscript, hcalls.givesBack, hcalls.usesLent, ?_⟩
  intro x hx y hy hrelease
  have hlow : y.object ≤ s.made := hbefore.object_le y hy (.inr (by rw [hrelease]; rfl))
  have hhigh := hcalls.lt_object x hx
  omega

/-- The second statement of an insertion fails, and so do closing its cursor and giving its connection
back. -/
theorem lent_connections_given_back_after_failures :
    let cn := ofMysqlArguments .mysql []
    let gone : EngineError := ⟨.driver "InterfaceError", "connection gone"⟩
    let duplicate : StatementReply :=
      { execute := some ⟨.integrity, "duplicate entry"⟩
        cursorClose := some ⟨.foreign "RuntimeError", "cursor is busy"⟩
        release := some gone }
    let script : Script := { statements := [{}, duplicate] }
    let r := (cn.perform (.insert (.text "t") [("a", .int 1)])).onSession { script }
    r.1 = .error (.engine gone) ∧ ∃ before during giving rest,
      r.2.transcript =
        before ++ ⟨3, .checkout, none⟩ :: (during ++ ⟨3, .release, giving⟩ :: rest) ∧
      CursorUse 3 during ∧ ∀ x ∈ rest, x.object ≠ 3 := by
  intro cn gone duplicate script r
  have hm : cn.Made := ⟨.mysql, .inl ⟨[], rfl⟩⟩
  obtain ⟨calls, htranscript, hgiven, -, -⟩ :=
    lent_connections_given_back hm rfl script [] [] (by simp) (.insert (.text "t") [("a", .int 1)]) rfl
  have hcalls : r.2.transcript = calls := htranscript
  have hsplit : calls = calls.take 6 ++ ⟨3, .checkout, none⟩ :: calls.drop 7 := by
    rw [← hcalls]
    rfl
  obtain ⟨during, giving, rest, hafter, huse, hrest⟩ := hgiven _ 3 _ hsplit
  rw [hafter] at hsplit
  exact ⟨rfl, calls.take 6, during, giving, rest, hcalls.trans hsplit, huse, hrest⟩

end Connection

end DataFetch
