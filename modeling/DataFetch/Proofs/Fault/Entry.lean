import DataFetch.Fault.Basic
import DataFetch.Proofs.Outcome
import DataFetch.Proofs.Value.Record

/-! # Entries that a fault is given

A context takes an entry as an attribute if it has one of that name, and into its metadata otherwise.
That goes by every attribute that a context has, not only by its fields. Main statement: which names
make a call fail, which make the context fail when it is shown later, and that all others do neither.
-/
namespace DataFetch

open Outcome

/-- The fault after calls that each add entries to its context. -/
def Fault.withContexts (f : Fault) (calls : List Record) : Except Misuse Fault :=
  calls.foldlM withContext f

namespace FaultContext

variable {c next : FaultContext} {key : String} {v : Value} {entries metadata : Record}

/-- The attributes that nobody can set. -/
def lockedNames : List String := ["__class__", "__weakref__"]

/-- Does the metadata take entries? -/
def Open (c : FaultContext) : Prop :=
  ∃ metadata, c.attributes.get? "metadata" = some (.object metadata)

/-- Is there metadata, empty or with entries that can be read off? -/
def Readable (c : FaultContext) : Prop :=
  ∃ m, c.attributes.get? "metadata" = some m ∧ (m.isTruthy = true → ∃ es, m.entries = .ok es)

/-- Is an entry under this name taken as an attribute? -/
def Owns (c : FaultContext) (key : String) : Prop :=
  c.has key = true ∧ key ≠ "metadata"

/-- Can an entry be put under this name? -/
def Takes (c : FaultContext) (key : String) : Prop :=
  key ∉ lockedNames ∧ (c.Owns key ∨ c.Open)

theorem Open.readable (h : c.Open) : c.Readable := by
  obtain ⟨metadata, hm⟩ := h
  exact ⟨_, hm, fun _ => ⟨_, rfl⟩⟩

theorem takes_iff_of_open (h : c.Open) : c.Takes key ↔ key ∉ lockedNames :=
  and_iff_left (.inr h)

theorem has_iff :
    c.has key = true ↔ key ∈ c.attributes.keys ∨ key ∈ fieldNames ∨ key ∈ reserved := by
  simp [has, Record.has_iff, or_assoc]

theorem owns_of_mem_reserved (h : key ∈ reserved) : c.Owns key := by
  refine ⟨has_iff.mpr (.inr (.inr h)), ?_⟩
  rintro rfl
  revert h
  decide

theorem lockedNames_subset : lockedNames ⊆ reserved := by
  decide

/-! ## One entry -/

theorem put_of_owns (h : c.Owns key) (hl : key ∉ lockedNames) (hw : key ≠ "__dict__") (v : Value) :
    c.put key v = .ok ⟨c.attributes.put key v⟩ := by
  have hlocked : Attribute.locked? label key v = none := by
    simp only [lockedNames, List.mem_cons, List.not_mem_nil, or_false, not_or] at hl
    simp [Attribute.locked?, hl, hw]
  have hset : c.set key v = ⟨c.attributes.put key v⟩ := by
    cases v <;> simp [set, hw]
  rw [put, if_pos (by simpa [Owns] using h), hlocked]
  dsimp only
  rw [hset]

theorem put_of_mem_lockedNames (h : key ∈ lockedNames) (v : Value) : ∃ m, c.put key v = .error m := by
  have howns : c.Owns key := owns_of_mem_reserved (lockedNames_subset h)
  obtain ⟨m, hm⟩ : ∃ m, Attribute.locked? label key v = some m := by
    rcases List.mem_cons.mp h with rfl | h
    · exact ⟨_, rfl⟩
    · cases List.mem_singleton.mp h
      exact ⟨_, rfl⟩
  refine ⟨m, ?_⟩
  rw [put, if_pos (by simpa [Owns] using howns), hm]

theorem put_of_not_owns (h : ¬ c.Owns key) (v : Value) : c.put key v = c.putMetadata key v := by
  rw [put, if_neg (by simpa [Owns] using h)]

theorem putMetadata_of_object (h : c.attributes.get? "metadata" = some (.object metadata))
    (key : String) (v : Value) :
    c.putMetadata key v =
      .ok ⟨c.attributes.put "metadata" (.object (metadata.put key v))⟩ := by
  rw [putMetadata, h]
  rfl

theorem putMetadata_of_not_open (h : ¬ c.Open) (key : String) (v : Value) :
    ∃ m, c.putMetadata key v = .error m := by
  rw [putMetadata]
  split
  · exact ⟨_, rfl⟩
  · rename_i entries hm
    exact absurd ⟨entries, hm⟩ h
  · exact ⟨_, rfl⟩
  · exact ⟨_, rfl⟩

/-- The attributes as a whole can be replaced by other attributes only. -/
def replaced : Value → Except Misuse FaultContext
  | .object fields => .ok ⟨fields⟩
  | v => .error (.unsuitable
      ("__dict__ must be set to a dictionary, not a '" ++ v.kindName ++ "'"))

theorem put_whole (c : FaultContext) (v : Value) : c.put "__dict__" v = replaced v := by
  have howns : c.Owns "__dict__" := owns_of_mem_reserved (by decide)
  rw [put, if_pos (by simpa [Owns] using howns)]
  cases v <;> rfl

/-- What is left as it was by entries under these names, and what they change. -/
structure Follows (c next : FaultContext) (names : List String) : Prop where
  has_eq : ∀ name, next.has name = c.has name
  open_iff : next.Open ↔ c.Open
  readable_iff : next.Readable ↔ c.Readable
  mem_iff : "to_dict" ∈ next.attributes.keys ↔
    "to_dict" ∈ c.attributes.keys ∨ "to_dict" ∈ names

theorem Follows.takes_iff {names : List String} (h : c.Follows next names) :
    next.Takes key ↔ c.Takes key := by
  rw [Takes, Takes, Owns, Owns, h.has_eq, h.open_iff]

theorem follows_of_owns (h : c.Owns key) (v : Value) :
    c.Follows ⟨c.attributes.put key v⟩ [key] := by
  have hmetadata : Record.get? (c.attributes.put key v) "metadata" =
      c.attributes.get? "metadata" := by
    rw [Record.get?_put, if_neg h.2]
  refine ⟨fun name => ?_, ?_, ?_, ?_⟩
  · rw [Bool.eq_iff_iff, has_iff, has_iff, Record.mem_keys_put]
    by_cases hname : name = key
    · subst hname
      have hhas := has_iff.mp h.1
      simp [hhas]
    · simp [hname]
  · rw [Open, Open, hmetadata]
  · rw [Readable, Readable, hmetadata]
  · rw [Record.mem_keys_put, List.mem_singleton, or_comm]

theorem follows_of_not_owns (h : ¬ c.Owns key)
    (hm : c.attributes.get? "metadata" = some (.object metadata)) (other : Record) :
    c.Follows ⟨c.attributes.put "metadata" (.object other)⟩ [key] := by
  have hkeys : Record.keys (c.attributes.put "metadata" (.object other)) = c.attributes.keys :=
    Record.keys_put_of_mem (Record.mem_keys_of_has (Record.has_of_get?_eq_some hm)) _
  have hopen : Open ⟨c.attributes.put "metadata" (.object other)⟩ :=
    ⟨other, by rw [Record.get?_put, if_pos rfl]⟩
  have hc : c.Open := ⟨metadata, hm⟩
  refine ⟨fun name => ?_, iff_of_true hopen hc, iff_of_true hopen.readable hc.readable, ?_⟩
  · rw [Bool.eq_iff_iff, has_iff, has_iff, hkeys]
  · rw [hkeys, List.mem_singleton]
    refine (or_iff_left ?_).symm
    rintro rfl
    exact h (owns_of_mem_reserved (by decide))

/-- An entry is either refused or taken, by its name. -/
theorem put_cases (c : FaultContext) (hw : key ≠ "__dict__") (v : Value) :
    (∃ m, c.put key v = .error m ∧ ¬ c.Takes key) ∨
      ∃ next, c.put key v = .ok next ∧ c.Takes key ∧ c.Follows next [key] := by
  by_cases hl : key ∈ lockedNames
  · obtain ⟨m, hm⟩ := put_of_mem_lockedNames (c := c) hl v
    exact .inl ⟨m, hm, fun ht => ht.1 hl⟩
  by_cases ho : c.Owns key
  · exact .inr ⟨_, put_of_owns ho hl hw v, ⟨hl, .inl ho⟩, follows_of_owns ho v⟩
  by_cases hm : c.Open
  · obtain ⟨metadata, hget⟩ := id hm
    refine .inr ⟨_, ?_, ⟨hl, .inr hm⟩, follows_of_not_owns ho hget (.put metadata key v)⟩
    rw [put_of_not_owns ho, putMetadata_of_object hget]
  · obtain ⟨m, herror⟩ := putMetadata_of_not_open hm key v
    refine .inl ⟨m, ?_, fun ht => ht.2.elim ho hm⟩
    rw [put_of_not_owns ho, herror]

/-! ## All entries -/

theorem putAll_cons (c : FaultContext) (key : String) (v : Value) (rest : Record) :
    c.putAll ((key, v) :: rest) = c.put key v >>= fun next => next.putAll rest :=
  rfl

theorem putAll_append (c : FaultContext) (entries rest : Record) :
    c.putAll (entries ++ rest) = c.putAll entries >>= fun next => next.putAll rest :=
  List.foldlM_append

/-- Whether all entries are taken is told by their names. -/
theorem putAll_eq_ok_iff (hw : "__dict__" ∉ entries.keys) :
    (∃ next, c.putAll entries = .ok next) ↔ ∀ key ∈ entries.keys, c.Takes key := by
  induction entries generalizing c with
  | nil => exact iff_of_true ⟨c, rfl⟩ (List.forall_mem_nil _)
  | cons entry rest ih =>
    obtain ⟨key, v⟩ := entry
    rw [Record.keys_cons, List.mem_cons, not_or] at hw
    rw [putAll_cons, Record.keys_cons, List.forall_mem_cons]
    obtain ⟨m, hput, hkey⟩ | ⟨next, hput, hkey, hnext⟩ := c.put_cases (Ne.symm hw.1) v
    · rw [hput]
      exact iff_of_false nofun fun h => hkey h.1
    · have hrest : (∀ name ∈ Record.keys rest, next.Takes name) ↔
          ∀ name ∈ Record.keys rest, c.Takes name := by
        simp only [hnext.takes_iff]
      rw [hput]
      exact (ih hw.2).trans (hrest.trans (and_iff_right hkey).symm)

theorem follows_of_putAll (hw : "__dict__" ∉ entries.keys) (h : c.putAll entries = .ok next) :
    c.Follows next entries.keys := by
  induction entries generalizing c with
  | nil =>
    cases h
    exact ⟨fun _ => rfl, .rfl, .rfl, (or_iff_left List.not_mem_nil).symm⟩
  | cons entry rest ih =>
    obtain ⟨key, v⟩ := entry
    rw [Record.keys_cons, List.mem_cons, not_or] at hw
    rw [putAll_cons] at h
    obtain ⟨m, hput, -⟩ | ⟨middle, hput, -, hmiddle⟩ := c.put_cases (Ne.symm hw.1) v
    · rw [hput] at h
      cases h
    · rw [hput] at h
      have hrest := ih hw.2 h
      refine ⟨fun name => (hrest.has_eq name).trans (hmiddle.has_eq name),
        hrest.open_iff.trans hmiddle.open_iff, hrest.readable_iff.trans hmiddle.readable_iff, ?_⟩
      rw [hrest.mem_iff, hmiddle.mem_iff, List.mem_singleton, or_assoc, Record.keys_cons,
        List.mem_cons]

/-! ## Showing a context -/

theorem view_eq_ok_iff :
    (∃ shown, c.view = .ok shown) ↔ c.Readable ∧ "to_dict" ∉ c.attributes.keys := by
  rw [view, Readable, ← Record.get?_eq_none_iff]
  cases c.attributes.get? "to_dict" with
  | some w => simp
  | none =>
    cases c.attributes.get? "metadata" with
    | none => simp
    | some m =>
      cases ht : m.isTruthy with
      | false => simp [ht]
      | true => cases he : m.entries <;> simp [ht, he, entriesOf, Except.map]

end FaultContext

namespace Fault

variable {f : Fault}

theorem withContext_of_not_mem {entries : Record} (h : "self" ∉ entries.keys) :
    f.withContext entries =
      (f.context.putAll entries).map fun context => { f with context } := by
  have hnames : entries.keys.findSome? (contextSignature.refuseName? 1) = none := by
    refine List.findSome?_eq_none_iff.mpr fun key hkey => ?_
    have hself : key ≠ "self" := fun he => h (he ▸ hkey)
    simp [Signature.refuseName?, contextSignature, hself]
  have hcheck : contextSignature.check 1 entries.keys = .ok () := by
    rw [Signature.check, Signature.refuse?, hnames]
    rfl
  rw [withContext, hcheck]
  rfl

/-- How entries are spread over calls does not matter. -/
theorem withContexts_eq {calls : List Record} (h : ∀ call ∈ calls, "self" ∉ call.keys) :
    f.withContexts calls =
      (f.context.putAll calls.flatten).map fun context => { f with context } := by
  induction calls generalizing f with
  | nil => rfl
  | cons call rest ih =>
    have hcall := withContext_of_not_mem (f := f) (h call List.mem_cons_self)
    have hcons : f.withContexts (call :: rest) =
        f.withContext call >>= fun g => g.withContexts rest := rfl
    rw [hcons, hcall, List.flatten_cons, FaultContext.putAll_append]
    cases f.context.putAll call with
    | error m => rfl
    | ok context => exact ih fun other hother => h other (List.mem_cons_of_mem call hother)

theorem self_not_mem_flatten {calls : List Record} (h : ∀ call ∈ calls, "self" ∉ call.keys) :
    "self" ∉ Record.keys calls.flatten := by
  rw [Record.keys_flatten, List.mem_flatMap]
  rintro ⟨call, hcall, hmem⟩
  exact h call hcall hmem

/-- Whoever replaces the attributes as a whole starts over with them. -/
theorem withContexts_of_whole {calls : List Record} (h : ∀ call ∈ calls, "self" ∉ call.keys)
    {before after : Record} {v : Value} (hgiven : calls.flatten = before ++ ("__dict__", v) :: after) :
    f.withContexts calls = f.withContexts [before] >>= fun _ =>
      FaultContext.replaced v >>= fun context => { f with context }.withContexts [after] := by
  have hself := self_not_mem_flatten h
  rw [hgiven, Record.keys_append, Record.keys_cons, List.mem_append, List.mem_cons] at hself
  have hbefore : ∀ call ∈ [before], "self" ∉ Record.keys call := by simp_all
  have hafter : ∀ call ∈ [after], "self" ∉ Record.keys call := by simp_all
  have hwhole : ∀ context : FaultContext, context.putAll (("__dict__", v) :: after) =
      FaultContext.replaced v >>= fun next => next.putAll after := by
    intro context
    rw [FaultContext.putAll_cons, FaultContext.put_whole]
  rw [withContexts_eq h, withContexts_eq hbefore, hgiven, FaultContext.putAll_append,
    List.flatten_singleton]
  cases f.context.putAll before with
  | error m => rfl
  | ok context =>
    dsimp only [bind, Except.bind] at hwhole ⊢
    rw [hwhole]
    cases FaultContext.replaced v with
    | error m => rfl
    | ok next =>
      have hlast := withContexts_eq (f := { f with context := next }) hafter
      rw [List.flatten_singleton] at hlast
      exact hlast.symm

theorem report_eq_ok_iff :
    (∃ report, f.report = .ok report) ↔ ∃ shown, f.context.view = .ok shown := by
  rw [report]
  cases f.context.view <;> simp [Except.map]

/-- Whether calls fail is told by the names of their entries, and so is whether the context can be shown
afterwards; the short forms of the fault never change. A context whose metadata takes entries is broken by
three names only, unless its attributes are replaced as a whole. -/
theorem contexts_break_by_names (f : Fault) {calls : List Record}
    (hself : ∀ call ∈ calls, "self" ∉ call.keys) :
    (f.context.Open → f.context.Readable ∧
      ∀ key, f.context.Takes key ↔ key ∉ FaultContext.lockedNames) ∧
    ("__dict__" ∉ Record.keys calls.flatten →
      ((∃ g, f.withContexts calls = .ok g) ↔
        ∀ key ∈ Record.keys calls.flatten, f.context.Takes key) ∧
      ∀ g, f.withContexts calls = .ok g →
        g = { f with context := g.context } ∧ g.summary = f.summary ∧ g.text = f.text ∧
        ((∃ shown, g.context.view = .ok shown) ↔ f.context.Readable ∧
          "to_dict" ∉ f.context.attributes.keys ∧ "to_dict" ∉ Record.keys calls.flatten) ∧
        ((∃ report, g.report = .ok report) ↔ ∃ shown, g.context.view = .ok shown)) ∧
    ∀ before v after, calls.flatten = before ++ ("__dict__", v) :: after →
      f.withContexts calls = f.withContexts [before] >>= fun _ =>
        FaultContext.replaced v >>= fun context => { f with context }.withContexts [after] := by
  refine ⟨fun ho => ⟨ho.readable, fun key => FaultContext.takes_iff_of_open ho⟩, fun hw => ?_,
    fun before v after => withContexts_of_whole hself⟩
  rw [withContexts_eq hself]
  refine ⟨?_, fun g hg => ?_⟩
  · rw [← FaultContext.putAll_eq_ok_iff hw]
    cases f.context.putAll calls.flatten <;> simp [Except.map]
  · obtain ⟨context, hcontext, rfl⟩ := map_eq_ok_iff.mp hg
    have hfollows := FaultContext.follows_of_putAll hw hcontext
    refine ⟨rfl, rfl, rfl, ?_, report_eq_ok_iff⟩
    rw [FaultContext.view_eq_ok_iff, hfollows.readable_iff, hfollows.mem_iff, not_or]

/-- Names that every context has, and the name of the metadata itself, do no harm. -/
theorem contexts_break_by_names_but_not_by_these :
    let f := Fault.make .query "boom"
    let calls : List Record :=
      [[("__repr__", .int 1), ("request_id", .text "abc")], [("metadata", .null)]]
    (∀ call ∈ calls, "self" ∉ call.keys) ∧ f.context.Open ∧
      ∃ g, f.withContexts calls = .ok g ∧ g.summary = "QueryError('boom', category=DATABASE)" ∧
        (∃ shown, g.context.view = .ok shown) ∧ ∃ report, g.report = .ok report := by
  intro f calls
  have hself : ∀ call ∈ calls, "self" ∉ call.keys := by decide
  have hopen : f.context.Open := ⟨[], rfl⟩
  obtain ⟨hordinary, hnames, -⟩ := contexts_break_by_names f hself
  obtain ⟨hreadable, htakes⟩ := hordinary hopen
  obtain ⟨hcalls, hshown⟩ := hnames (by decide)
  obtain ⟨g, hg⟩ := hcalls.mpr fun key hkey => (htakes key).mpr (by revert key; decide)
  obtain ⟨-, hsummary, -, hview, hreport⟩ := hshown g hg
  have hv := hview.mpr ⟨hreadable, by decide, by decide⟩
  exact ⟨hself, hopen, g, hg, hsummary.trans (by decide), hv, hreport.mpr hv⟩

/-- An entry that has the name under which a context is shown takes its place. -/
theorem name_of_view_breaks_context :
    ∃ g, (Fault.make .query "boom").withContexts [[("to_dict", .int 1)]] = .ok g ∧
      g.context.view = .error (.notCallable "int") ∧ g.report = .error (.notCallable "int") :=
  ⟨_, rfl, rfl, rfl⟩

end Fault

end DataFetch
