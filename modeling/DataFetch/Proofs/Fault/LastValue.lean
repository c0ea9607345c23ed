import DataFetch.Proofs.Fault.Entry

/-! # What a context shows

A field of a context and an entry of its metadata are told apart by the name alone, and neither store
ever gets a name of the other. Main statement: under each name the context shows the last value that was
given, and a field that is null is not shown.
-/
namespace DataFetch

open Outcome

namespace FaultContext

variable {c : FaultContext} {key : String} {metadata entries : Record}

/-- The context has the attributes of a new one, and among its metadata there is no field. -/
structure Plain (c : FaultContext) (metadata : Record) : Prop where
  names : c.attributes.keys = fieldNames ++ ["metadata"]
  holds : c.attributes.get? "metadata" = some (.object metadata)
  nodup : metadata.keys.Nodup
  apart : ∀ name ∈ fieldNames, name ∉ metadata.keys

theorem plain_fresh (backend table statement paramCount : Value) (hn : metadata.keys.Nodup)
    (ha : ∀ name ∈ fieldNames, name ∉ metadata.keys) :
    Plain ⟨fresh backend table statement paramCount (.object metadata)⟩ metadata :=
  ⟨rfl, rfl, hn, ha⟩

/-! ## Giving entries -/

theorem Plain.owns_iff (h : c.Plain metadata) (hr : key ∉ reserved) :
    c.Owns key ↔ key ∈ fieldNames := by
  rw [Owns, has_iff, h.names, List.mem_append, List.mem_singleton]
  constructor
  · rintro ⟨(hfield | rfl) | hfield | hreserved, hm⟩
    · exact hfield
    · exact absurd rfl hm
    · exact hfield
    · exact absurd hreserved hr
  · intro hfield
    refine ⟨.inr (.inl hfield), ?_⟩
    rintro rfl
    revert hfield
    decide

/-- The entries that are for the metadata. -/
def extra (entries : Record) : Record :=
  entries.filter fun entry => !fieldNames.contains entry.1

theorem extra_cons_of_mem (h : key ∈ fieldNames) (v : Value) (entries : Record) :
    extra ((key, v) :: entries) = extra entries :=
  List.filter_cons_of_neg (by simpa using h)

theorem extra_cons_of_not_mem (h : key ∉ fieldNames) (v : Value) (entries : Record) :
    extra ((key, v) :: entries) = (key, v) :: extra entries :=
  List.filter_cons_of_pos (by simpa using h)

theorem last?_extra (entries : Record) (h : key ∉ fieldNames) :
    Record.last? (extra entries) key = entries.last? key := by
  rw [extra, Record.last?_filter fun name => !fieldNames.contains name, if_pos (by simpa using h)]

theorem Plain.put_field (h : c.Plain metadata) (hr : key ∉ reserved) (hk : key ∈ fieldNames)
    (v : Value) :
    c.put key v = .ok ⟨c.attributes.put key v⟩ ∧ Plain ⟨c.attributes.put key v⟩ metadata := by
  have howns := (h.owns_iff hr).mpr hk
  have hmem : key ∈ c.attributes.keys := by
    rw [h.names]
    exact List.mem_append_left _ hk
  have hlocked : key ∉ lockedNames := fun hl => hr (lockedNames_subset hl)
  have hwhole : key ≠ "__dict__" := fun he => hr (he ▸ by decide)
  refine ⟨put_of_owns howns hlocked hwhole v, ?_, ?_, h.nodup, h.apart⟩
  · rw [Record.keys_put_of_mem hmem, h.names]
  · rw [Record.get?_put, if_neg howns.2, h.holds]

theorem Plain.put_extra (h : c.Plain metadata) (hr : key ∉ reserved) (hk : key ∉ fieldNames)
    (v : Value) :
    let next : FaultContext :=
      ⟨c.attributes.put "metadata" (.object (Record.put metadata key v))⟩
    c.put key v = .ok next ∧ next.Plain (metadata.put key v) := by
  have howns : ¬ c.Owns key := fun ho => hk ((h.owns_iff hr).mp ho)
  have hmem : "metadata" ∈ c.attributes.keys := by
    rw [h.names]
    exact List.mem_append_right _ (List.mem_singleton.mpr rfl)
  refine ⟨?_, ?_, ?_, Record.nodup_keys_put h.nodup key v, fun name hname hput => ?_⟩
  · rw [put_of_not_owns howns, putMetadata_of_object h.holds]
  · rw [Record.keys_put_of_mem hmem, h.names]
  · rw [Record.get?_put, if_pos rfl]
  · rcases Record.mem_keys_put.mp hput with rfl | hold
    · exact hk hname
    · exact h.apart name hname hold

/-- After entries were given, each field is the last that was given, and the others were put into the
metadata. -/
theorem Plain.putAll (h : c.Plain metadata) (hr : ∀ key ∈ entries.keys, key ∉ reserved) :
    ∃ next, c.putAll entries = .ok next ∧ next.Plain (metadata.putAll (extra entries)) ∧
      ∀ name ∈ fieldNames, next.attributes.get? name =
        (entries.last? name).or (c.attributes.get? name) := by
  induction entries generalizing c metadata with
  | nil => exact ⟨c, rfl, h, fun _ _ => rfl⟩
  | cons entry rest ih =>
    obtain ⟨key, v⟩ := entry
    rw [Record.keys_cons, List.forall_mem_cons] at hr
    have hlast : ∀ (name : String) (old : Option Value),
        (Record.last? ((key, v) :: rest) name).or old =
          (Record.last? rest name).or (if key = name then some v else old) := by
      intro name old
      rw [← List.singleton_append, Record.last?_append, Option.or_assoc]
      by_cases hk : key = name <;> simp [Record.last?, Record.get?, hk]
    rw [putAll_cons]
    by_cases hk : key ∈ fieldNames
    · obtain ⟨hput, hplain⟩ := h.put_field hr.1 hk v
      obtain ⟨next, hnext, hnextPlain, hfields⟩ := ih hplain hr.2
      rw [hput, extra_cons_of_mem hk]
      refine ⟨next, hnext, hnextPlain, fun name hname => ?_⟩
      rw [hfields name hname, Record.get?_put, hlast]
    · obtain ⟨hput, hplain⟩ := h.put_extra hr.1 hk v
      obtain ⟨next, hnext, hnextPlain, hfields⟩ := ih hplain hr.2
      rw [hput, extra_cons_of_not_mem hk]
      refine ⟨next, hnext, hnextPlain, fun name hname => ?_⟩
      have hmetadata : "metadata" ≠ name := fun he => absurd (he ▸ hname) (by decide)
      have hkey : key ≠ name := fun he => hk (he ▸ hname)
      rw [hfields name hname, Record.get?_put, if_neg hmetadata, hlast, if_neg hkey]

/-- What is given a second time changes nothing. -/
theorem Plain.putAll_putAll (h : c.Plain metadata) (hr : ∀ key ∈ entries.keys, key ∉ reserved) :
    c.putAll (entries ++ entries) = c.putAll entries := by
  obtain ⟨next, hnext, hplain, hfields⟩ := h.putAll hr
  obtain ⟨again, hagain, hplainAgain, hfieldsAgain⟩ := hplain.putAll hr
  rw [putAll_append, hnext]
  refine hagain.trans (congrArg _ ?_)
  have hattributes : again.attributes = next.attributes := by
    refine Record.eq_of_get?_eq (hplainAgain.names.trans hplain.names.symm) ?_ fun name hname => ?_
    · rw [hplainAgain.names]
      decide
    · rw [hplainAgain.names, List.mem_append, List.mem_singleton] at hname
      rcases hname with hname | rfl
      · rw [hfieldsAgain name hname, hfields name hname]
        cases Record.last? entries name <;> rfl
      · rw [hplainAgain.holds, hplain.holds, Record.putAll_putAll_self h.nodup]
  cases again
  cases next
  exact congrArg _ hattributes

/-! ## Showing the context -/

theorem entry_eq (key : String) (v : Value) :
    entry key v = if v.isNull then [] else [(key, v)] := by
  cases v <;> rfl

/-- The entries of a row of fields, of which those that are null are left out. -/
theorem get?_flatMap_entry (names : List String) (value : String → Value) (key : String) :
    Record.get? (names.flatMap fun name => entry name (value name)) key =
      if key ∈ names then (some (value key)).filter (!·.isNull) else none := by
  induction names with
  | nil => rfl
  | cons name rest ih =>
    rw [List.flatMap_cons, Record.get?_append, ih]
    have hentry : Record.get? (entry name (value name)) key =
        if name = key then (some (value name)).filter (!·.isNull) else none := by
      cases hv : (value name).isNull <;> simp [entry_eq, Record.get?, Option.filter_some, hv]
    rw [hentry]
    by_cases hk : name = key
    · subst hk
      cases hv : (value name).isNull <;> simp [Option.filter_some, hv]
    · simp [hk, Ne.symm hk]

theorem keys_flatMap_entry (names : List String) (value : String → Value) :
    (Record.keys (names.flatMap fun name => entry name (value name))).Sublist names := by
  induction names with
  | nil => exact .slnil
  | cons name rest ih =>
    have hentry : (Record.keys (entry name (value name))).Sublist [name] := by
      rw [entry_eq]
      cases (value name).isNull <;> simp [Record.keys]
    rw [List.flatMap_cons, Record.keys_append]
    exact hentry.append ih

theorem keys_fields_subset (c : FaultContext) : c.fields.keys ⊆ fieldNames :=
  (keys_flatMap_entry fieldNames _).subset

theorem get?_fields (c : FaultContext) (h : key ∈ fieldNames) :
    c.fields.get? key = (c.attributes.get? key).filter (!·.isNull) := by
  rw [fields, get?_flatMap_entry, if_pos h, Record.getD]
  cases c.attributes.get? key <;> rfl

theorem Plain.nodup_view (h : c.Plain metadata) : (Record.keys (c.fields ++ metadata)).Nodup := by
  rw [Record.keys_append]
  refine List.nodup_append.mpr ⟨(keys_flatMap_entry _ _).nodup (by decide), h.nodup, ?_⟩
  rintro name hfield _ hmetadata rfl
  exact h.apart name (keys_fields_subset c hfield) hmetadata

theorem Plain.view (h : c.Plain metadata) : c.view = .ok (c.fields ++ metadata) := by
  have hshown : c.attributes.get? "to_dict" = none := by
    rw [Record.get?_eq_none_iff, h.names]
    decide
  have hentries : entriesOf (.object metadata) = .ok metadata := by
    simp [entriesOf, Value.entries, Except.map, Value.nameText, Value.asText?, Function.comp_def]
  rw [FaultContext.view, hshown, h.holds]
  dsimp only
  rw [hentries]
  cases metadata with
  | nil => simp [Value.isTruthy]
  | cons entry rest =>
    have hput := Record.putAll_of_nodup h.nodup_view
    simp [Value.isTruthy, Except.map, hput]

end FaultContext

namespace Fault

variable {f : Fault} {metadata : Record}

/-- The names in a call are neither the one of the call itself nor those that every context has. -/
def Names (call : Record) : Prop :=
  ∀ key ∈ call.keys, key ≠ "self" ∧ key ∉ FaultContext.reserved

instance (call : Record) : Decidable (Names call) :=
  inferInstanceAs (Decidable (∀ key ∈ call.keys, _))

theorem self_not_mem_of_names {call : Record} (h : Names call) : "self" ∉ call.keys :=
  fun hmem => (h _ hmem).1 rfl

theorem not_mem_reserved_of_names {calls : List Record} (h : ∀ call ∈ calls, Names call) :
    ∀ key ∈ Record.keys calls.flatten, key ∉ FaultContext.reserved := by
  intro key hkey
  rw [Record.keys_flatten, List.mem_flatMap] at hkey
  obtain ⟨call, hcall, hmem⟩ := hkey
  exact (h call hcall key hmem).2

/-- What is shown under a name, from what was given and what was there before. -/
def shown (given : Record) (context : FaultContext) (metadata : Record) (key : String) :
    Option Value :=
  if key ∈ FaultContext.fieldNames then
    ((given.last? key).or (context.attributes.get? key)).filter (!·.isNull)
  else (given.last? key).or (metadata.get? key)

theorem exists_view (h : f.context.Plain metadata) {calls : List Record}
    (hcalls : ∀ call ∈ calls, Names call) :
    ∃ g view, f.withContexts calls = .ok g ∧ g = { f with context := g.context } ∧
      g.context.view = .ok view ∧ view.keys.Nodup ∧
      ∀ key, view.get? key = shown calls.flatten f.context metadata key := by
  obtain ⟨next, hnext, hplain, hfields⟩ := h.putAll (not_mem_reserved_of_names hcalls)
  have hg : f.withContexts calls = .ok { f with context := next } := by
    rw [withContexts_eq fun call hcall => self_not_mem_of_names (hcalls call hcall), hnext]
    rfl
  refine ⟨_, _, hg, rfl, hplain.view, hplain.nodup_view, fun key => ?_⟩
  rw [shown, Record.get?_append]
  by_cases hk : key ∈ FaultContext.fieldNames
  · have hnone := Record.get?_eq_none_iff.mpr (hplain.apart key hk)
    rw [if_pos hk, hnone, Option.or_none, FaultContext.get?_fields next hk, hfields key hk]
  · have hnone := Record.get?_eq_none_iff.mpr fun hmem =>
      hk (FaultContext.keys_fields_subset next hmem)
    rw [if_neg hk, hnone, Option.none_or, Record.get?_putAll_last, FaultContext.last?_extra _ hk]

/-- Entries under names of their own can be given in either order. -/
theorem shown_swap {a b : Record} (h : a.keys.Disjoint b.keys) (before : Record)
    (context : FaultContext) (metadata : Record) (key : String) :
    shown (before ++ (a ++ b)) context metadata key =
      shown (before ++ (b ++ a)) context metadata key := by
  have hlast : Record.last? (a ++ b) key = Record.last? (b ++ a) key := by
    rw [Record.last?_append, Record.last?_append]
    by_cases ha : key ∈ a.keys
    · rw [Record.last?_eq_none_iff.mpr (h ha), Option.none_or, Option.or_none]
    · rw [Record.last?_eq_none_iff.mpr ha, Option.none_or, Option.or_none]
  rw [shown, shown, Record.last?_append before, Record.last?_append before, hlast]

theorem report_of_view {view : Record} (h : f.context.view = .ok view) :
    f.report = .ok ([("error_type", .text f.kind.name), ("message", f.message),
        ("category", .text f.category.name), ("retryable", f.retryable)] ++
      (if view.isEmpty then [] else [("context", .object view)]) ++
      (f.cause.map fun cause => ("cause", Value.text cause.text)).toList) := by
  rw [report, h]
  rfl

theorem names_append {calls more : List Record} (hcalls : ∀ call ∈ calls, Names call)
    (hmore : ∀ call ∈ more, Names call) : ∀ call ∈ calls ++ more, Names call :=
  List.forall_mem_append.mpr ⟨hcalls, hmore⟩

/-- A call that is made twice in a row might as well be made once. -/
theorem withContexts_repeat (h : f.context.Plain metadata) {calls : List Record}
    (hcalls : ∀ call ∈ calls, Names call) {a : Record} (ha : Names a) :
    f.withContexts (calls ++ [a, a]) = f.withContexts (calls ++ [a]) := by
  have htwice : ∀ call ∈ calls ++ [a, a], Names call := names_append hcalls (by simp [ha])
  have honce : ∀ call ∈ calls ++ [a], Names call := names_append hcalls (by simp [ha])
  obtain ⟨next, hnext, hplain, -⟩ := h.putAll (not_mem_reserved_of_names hcalls)
  have hrepeat := hplain.putAll_putAll fun key hkey => (ha key hkey).2
  rw [withContexts_eq fun call hcall => self_not_mem_of_names (htwice call hcall),
    withContexts_eq fun call hcall => self_not_mem_of_names (honce call hcall),
    List.flatten_append, List.flatten_append, FaultContext.putAll_append,
    FaultContext.putAll_append, hnext, List.flatten_singleton]
  have hpair : [a, a].flatten = a ++ a := by simp
  rw [hpair]
  exact congrArg (Except.map _) hrepeat

/-- Calls that have no name in common can be made in either order. -/
theorem withContexts_swap (h : f.context.Plain metadata) {calls : List Record}
    (hcalls : ∀ call ∈ calls, Names call) {a b : Record} (ha : Names a) (hb : Names b)
    (hab : a.keys.Disjoint b.keys) :
    ∃ g g' view view', f.withContexts (calls ++ [a, b]) = .ok g ∧
      f.withContexts (calls ++ [b, a]) = .ok g' ∧ g = { g' with context := g.context } ∧
      g.context.view = .ok view ∧ g'.context.view = .ok view' ∧ view.Perm view' := by
  have hfirst : ∀ call ∈ [a, b], Names call := by simp [ha, hb]
  have hsecond : ∀ call ∈ [b, a], Names call := by simp [ha, hb]
  obtain ⟨g, view, hg, hkeeps, hview, hnodup, hshown⟩ :=
    exists_view h (names_append hcalls hfirst)
  obtain ⟨g', view', hg', hkeeps', hview', hnodup', hshown'⟩ :=
    exists_view h (names_append hcalls hsecond)
  refine ⟨g, g', view, view', hg, hg', ?_, hview, hview', ?_⟩
  · rw [hkeeps, hkeeps']
  · refine Record.perm_of_get?_eq hnodup hnodup' fun key => ?_
    have hswap := shown_swap hab calls.flatten f.context metadata key
    rw [hshown, hshown']
    simpa using hswap

/-- Under each name the context shows the last value that was given, else the one it had; a field that is
null is not shown, and nothing else is. So the order of calls matters only where they have a name in
common, and nothing but the context is changed by them. -/
theorem last_value_shows (h : f.context.Plain metadata) {calls : List Record}
    (hcalls : ∀ call ∈ calls, Names call) :
    (∃ g view, f.withContexts calls = .ok g ∧ g = { f with context := g.context } ∧
      g.context.view = .ok view ∧ view.keys.Nodup ∧
      (∀ key, view.get? key = shown calls.flatten f.context metadata key) ∧
      g.report = .ok ([("error_type", .text f.kind.name), ("message", f.message),
          ("category", .text f.category.name), ("retryable", f.retryable)] ++
        (if view.isEmpty then [] else [("context", .object view)]) ++
        (f.cause.map fun cause => ("cause", Value.text cause.text)).toList)) ∧
    (∀ a, Names a → f.withContexts (calls ++ [a, a]) = f.withContexts (calls ++ [a])) ∧
    ∀ a b, Names a → Names b → a.keys.Disjoint b.keys →
      ∃ g g' view view', f.withContexts (calls ++ [a, b]) = .ok g ∧
        f.withContexts (calls ++ [b, a]) = .ok g' ∧ g = { g' with context := g.context } ∧
        g.context.view = .ok view ∧ g'.context.view = .ok view' ∧ view.Perm view' := by
  refine ⟨?_, fun a ha => withContexts_repeat h hcalls ha,
    fun a b ha hb hab => withContexts_swap h hcalls ha hb hab⟩
  obtain ⟨g, view, hg, hkeeps, hview, hnodup, hshown⟩ := exists_view h hcalls
  refine ⟨g, view, hg, hkeeps, hview, hnodup, hshown, ?_⟩
  rw [report_of_view hview, hkeeps]

/-- A field that is given and taken back again, and the name of the metadata as one of its entries. -/
theorem last_value_shows_of_field_and_metadata :
    let f : Fault := Fault.ofMessage .query (.text "boom") none none none
      ⟨FaultContext.fresh .null (.text "t") .null .null (.object [("attempt", .int 2)])⟩
    let calls : List Record :=
      [[("backend", .text "sqlite"), ("attempt", .int 3)], [("table", .null), ("metadata", .null)]]
    f.context.Plain [("attempt", .int 2)] ∧ (∀ call ∈ calls, Names call) ∧
      ∃ g view, f.withContexts calls = .ok g ∧ g.context.view = .ok view ∧
        view.get? "backend" = some (.text "sqlite") ∧ view.get? "table" = none ∧
        view.get? "attempt" = some (.int 3) ∧ view.get? "metadata" = some .null := by
  intro f calls
  have hplain : f.context.Plain [("attempt", .int 2)] :=
    FaultContext.plain_fresh _ _ _ _ (by decide) (by decide)
  have hcalls : ∀ call ∈ calls, Names call := by decide
  obtain ⟨⟨g, view, hg, -, hview, -, hshown, -⟩, -⟩ := last_value_shows hplain hcalls
  exact ⟨hplain, hcalls, g, view, hg, hview, hshown _, hshown _, hshown _, hshown _⟩

end Fault

end DataFetch
