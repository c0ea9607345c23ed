import DataFetch.Value.Basic
import Mathlib.Data.List.Induction
import Mathlib.Data.List.Nodup

/-! # Records as maps

What a record has under a name after entries were put into it. Where no name occurs twice, a record is
told by what it has under each name, up to the order of its entries.
-/
namespace DataFetch.Record

variable {r s entries : Record} {key name : String} {v : Value}

/-! ## Names and entries -/

theorem keys_cons (entry : String × Value) (r : Record) :
    keys (entry :: r) = entry.1 :: r.keys :=
  rfl

theorem keys_append (r s : Record) : keys (r ++ s) = r.keys ++ s.keys :=
  List.map_append

theorem keys_flatten (rs : List Record) : keys rs.flatten = rs.flatMap keys := by
  rw [keys, List.map_flatten, List.flatMap_def]
  rfl

theorem mem_of_get?_eq_some (h : r.get? key = some v) : (key, v) ∈ r := by
  induction r with
  | nil => cases h
  | cons field rest ih =>
    obtain ⟨k, w⟩ := field
    by_cases hk : k = key
    · subst hk
      rw [get?, if_pos rfl] at h
      cases h
      exact List.mem_cons_self ..
    · rw [get?, if_neg hk] at h
      exact List.mem_cons_of_mem _ (ih h)

theorem has_of_get?_eq_some (h : r.get? key = some v) : r.has key = true := by
  rw [has, h]
  rfl

theorem mem_keys_of_has (h : r.has key = true) : key ∈ r.keys := by
  obtain ⟨v, hv⟩ := Option.isSome_iff_exists.mp h
  exact List.mem_map.mpr ⟨(key, v), mem_of_get?_eq_some hv, rfl⟩

theorem mem_keys_of_mem {entry : String × Value} (h : entry ∈ r) : entry.1 ∈ r.keys :=
  List.mem_map.mpr ⟨entry, h, rfl⟩

theorem has_eq_false_iff : r.has key = false ↔ key ∉ r.keys := by
  induction r with
  | nil => simp [has, keys]
  | cons entry rest ih =>
    obtain ⟨k, v⟩ := entry
    simp only [has, keys] at ih
    by_cases hk : k = key
    · simp [has, get?, keys, hk]
    · simp [has, get?, keys, hk, Ne.symm hk, ih]

theorem has_iff : r.has key = true ↔ key ∈ r.keys := by
  rw [← not_iff_not, Bool.not_eq_true, has_eq_false_iff]

theorem get?_eq_none_iff : r.get? key = none ↔ key ∉ r.keys := by
  rw [← has_eq_false_iff, has, Option.isSome_eq_false_iff, Option.isNone_iff_eq_none]

theorem get?_eq_some_iff_mem (h : r.keys.Nodup) : r.get? key = some v ↔ (key, v) ∈ r :=
  ⟨mem_of_get?_eq_some, get?_of_mem h⟩

/-- The order of fields does not matter where each has a name of its own. -/
theorem get?_of_perm (order : r.Perm s) (h : s.keys.Nodup) (key : String) :
    r.get? key = s.get? key := by
  have hr : r.keys.Nodup := (order.map Prod.fst).nodup_iff.mpr h
  refine Option.ext fun v => ?_
  rw [get?_eq_some_iff_mem hr, get?_eq_some_iff_mem h, order.mem_iff]

theorem getD_of_perm (order : r.Perm s) (h : s.keys.Nodup) (key : String) (default : Value) :
    r.getD key default = s.getD key default := by
  rw [getD, get?_of_perm order h, ← getD]

/-- Records that have the same under each name have the same entries. -/
theorem perm_of_get?_eq (hr : r.keys.Nodup) (hs : s.keys.Nodup)
    (h : ∀ key, r.get? key = s.get? key) : r.Perm s := by
  refine (List.perm_ext_iff_of_nodup (.of_map _ hr) (.of_map _ hs)).mpr fun entry => ?_
  obtain ⟨key, v⟩ := entry
  rw [← get?_eq_some_iff_mem hr, ← get?_eq_some_iff_mem hs, h key]

/-- Records that have the same names in the same order, and the same under each of them, are equal. -/
theorem eq_of_get?_eq (hk : r.keys = s.keys) (hn : r.keys.Nodup)
    (h : ∀ key ∈ r.keys, r.get? key = s.get? key) : r = s := by
  induction r generalizing s with
  | nil =>
    rw [eq_comm, ← List.map_eq_nil_iff (f := Prod.fst)]
    exact hk.symm
  | cons entry rest ih =>
    obtain ⟨k, v⟩ := entry
    cases s with
    | nil => cases hk
    | cons other more =>
      obtain ⟨k', v'⟩ := other
      rw [keys, keys, List.map_cons, List.map_cons, List.cons.injEq] at hk
      obtain ⟨rfl, hrest⟩ := hk
      rw [keys, List.map_cons, List.nodup_cons] at hn
      have hv := h k List.mem_cons_self
      rw [get?, get?, if_pos rfl, if_pos rfl] at hv
      cases hv
      have heq : rest = more := by
        refine ih hrest hn.2 fun key hkey => ?_
        have hne : k ≠ key := fun he => hn.1 (he ▸ hkey)
        have hget := h key (List.mem_cons_of_mem _ hkey)
        rwa [get?, get?, if_neg hne, if_neg hne] at hget
      rw [heq]

/-! ## Putting entries -/

theorem put_of_not_mem (h : key ∉ r.keys) (v : Value) : r.put key v = r ++ [(key, v)] := by
  induction r with
  | nil => rfl
  | cons entry rest ih =>
    rw [keys, List.map_cons, List.mem_cons, not_or] at h
    rw [put, if_neg (Ne.symm h.1), ih h.2, List.cons_append]

theorem keys_put_of_mem (h : key ∈ r.keys) (v : Value) : (r.put key v).keys = r.keys := by
  induction r with
  | nil => cases h
  | cons entry rest ih =>
    by_cases hk : entry.1 = key
    · rw [put, if_pos hk]
      rfl
    · have hrest : key ∈ keys rest := (List.mem_cons.mp h).resolve_left (Ne.symm hk)
      rw [put, if_neg hk, keys, List.map_cons]
      exact congrArg _ (ih hrest)

theorem mem_keys_put : name ∈ (r.put key v).keys ↔ name = key ∨ name ∈ r.keys := by
  by_cases h : key ∈ r.keys
  · rw [keys_put_of_mem h]
    exact ⟨.inr, fun hn => hn.elim (fun he => he ▸ h) id⟩
  · rw [put_of_not_mem h, keys, List.map_append, List.mem_append, Or.comm]
    simp [keys]

theorem nodup_keys_put (h : r.keys.Nodup) (key : String) (v : Value) : (r.put key v).keys.Nodup := by
  by_cases hk : key ∈ r.keys
  · rwa [keys_put_of_mem hk]
  · rw [put_of_not_mem hk, keys, List.map_append]
    refine List.nodup_append.mpr ⟨h, List.nodup_singleton _, ?_⟩
    rintro name hn other ho rfl
    cases List.mem_singleton.mp ho
    exact hk hn

/-- What is there stays when a value is put only where there is none. -/
theorem get?_putNew (r : Record) (key name : String) (v : Value) :
    (r.putNew key v).get? name = (r.get? name).or (if key = name then some v else none) := by
  cases h : r.has key with
  | true =>
    rw [putNew, if_pos h]
    by_cases hk : key = name
    · subst hk
      obtain ⟨w, hw⟩ := Option.isSome_iff_exists.mp h
      simp [hw]
    · simp [hk]
  | false =>
    have hnone := get?_eq_none_iff.mpr (has_eq_false_iff.mp h)
    rw [putNew, h, if_neg Bool.false_ne_true, get?_put]
    by_cases hk : key = name
    · subst hk
      simp [hnone]
    · simp [hk]

theorem nodup_keys_putNew (h : r.keys.Nodup) (key : String) (v : Value) :
    (r.putNew key v).keys.Nodup := by
  unfold putNew
  split
  · exact h
  · exact nodup_keys_put h key v

theorem keys_putAll_of_subset (h : entries.keys ⊆ r.keys) : (r.putAll entries).keys = r.keys := by
  induction entries generalizing r with
  | nil => rfl
  | cons entry rest ih =>
    rw [keys_cons, List.cons_subset] at h
    have hput := keys_put_of_mem h.1 entry.2
    exact (ih (hput ▸ h.2)).trans hput

theorem subset_keys_putAll (r entries : Record) :
    r.keys ⊆ (r.putAll entries).keys ∧ entries.keys ⊆ (r.putAll entries).keys := by
  induction entries generalizing r with
  | nil => exact ⟨List.Subset.refl _, List.nil_subset _⟩
  | cons entry rest ih =>
    obtain ⟨hr, hrest⟩ := ih (r.put entry.1 entry.2)
    have hput : ∀ name ∈ r.keys, name ∈ (r.put entry.1 entry.2).keys := fun name hname =>
      mem_keys_put.mpr (.inr hname)
    refine ⟨fun name hname => hr (hput name hname), ?_⟩
    rw [keys_cons, List.cons_subset]
    exact ⟨hr (mem_keys_put.mpr (.inl rfl)), hrest⟩

theorem nodup_keys_putAll (h : r.keys.Nodup) (entries : Record) :
    (r.putAll entries).keys.Nodup := by
  induction entries generalizing r with
  | nil => exact h
  | cons entry rest ih => exact ih (nodup_keys_put h entry.1 entry.2)

theorem putAll_concat (r entries : Record) (entry : String × Value) :
    r.putAll (entries ++ [entry]) = (r.putAll entries).put entry.1 entry.2 := by
  rw [putAll, List.foldl_append]
  rfl

/-- The last value that was put under a name is under it. -/
theorem get?_putAll (r entries : Record) (key : String) :
    (r.putAll entries).get? key = ((ofEntries entries).get? key).or (r.get? key) := by
  induction entries using List.reverseRecOn with
  | nil => rfl
  | append_singleton es e ih =>
    rw [ofEntries] at ih ⊢
    rw [putAll_concat, putAll_concat, get?_put, get?_put, ih]
    by_cases hk : e.1 = key <;> simp [hk]

theorem putAll_of_nodup (h : (keys (r ++ entries)).Nodup) : r.putAll entries = r ++ entries := by
  induction entries generalizing r with
  | nil => exact (List.append_nil r).symm
  | cons entry rest ih =>
    have hnew : entry.1 ∉ r.keys := by
      intro hmem
      rw [keys, List.map_append, List.nodup_append] at h
      exact h.2.2 _ hmem _ (List.mem_cons_self) rfl
    have hput : r.putAll (entry :: rest) = (r ++ [entry]).putAll rest := by
      rw [← put_of_not_mem hnew]
      rfl
    rw [hput, ih (by rwa [List.append_assoc]), List.append_assoc, List.singleton_append]

theorem ofEntries_of_nodup (h : r.keys.Nodup) : ofEntries r = r :=
  putAll_of_nodup h

/-- The last value that entries have under a name. -/
def last? (entries : Record) (key : String) : Option Value :=
  get? entries.reverse key

theorem get?_append (r s : Record) (key : String) :
    get? (r ++ s) key = (r.get? key).or (s.get? key) := by
  induction r with
  | nil => rfl
  | cons entry rest ih =>
    by_cases hk : entry.1 = key
    · rw [List.cons_append, get?, get?, if_pos hk, if_pos hk]
      rfl
    · rw [List.cons_append, get?, get?, if_neg hk, if_neg hk, ih]

theorem get?_filter (p : String → Bool) (r : Record) (key : String) :
    get? (r.filter fun entry => p entry.1) key = if p key then r.get? key else none := by
  induction r with
  | nil => simp
  | cons entry rest ih =>
    by_cases hk : entry.1 = key
    · subst hk
      cases hp : p entry.1 <;> simp_all [get?]
    · cases hp : p entry.1 <;> simp [hp, get?, hk, ih]

theorem last?_append (r s : Record) (key : String) :
    last? (r ++ s) key = (last? s key).or (last? r key) := by
  rw [last?, List.reverse_append, get?_append]
  rfl

theorem get?_ofEntries (entries : Record) (key : String) :
    (ofEntries entries).get? key = last? entries key := by
  induction entries using List.reverseRecOn with
  | nil => rfl
  | append_singleton es e ih =>
    rw [ofEntries] at ih ⊢
    rw [putAll_concat, get?_put, ih, last?_append]
    by_cases hk : e.1 = key <;> simp [last?, get?, hk]

theorem get?_putAll_last (r entries : Record) (key : String) :
    (r.putAll entries).get? key = (last? entries key).or (r.get? key) := by
  rw [get?_putAll, get?_ofEntries]

/-- Entries that were put are not put a second time. -/
theorem putAll_putAll_self (h : r.keys.Nodup) (entries : Record) :
    (r.putAll entries).putAll entries = r.putAll entries := by
  have hnodup := nodup_keys_putAll h entries
  have hkeys := keys_putAll_of_subset (subset_keys_putAll r entries).2
  refine eq_of_get?_eq hkeys (hkeys ▸ hnodup) fun key _ => ?_
  rw [get?_putAll_last, get?_putAll_last]
  cases last? entries key <;> rfl

theorem last?_eq_none_iff : last? entries key = none ↔ key ∉ entries.keys := by
  rw [last?, get?_eq_none_iff, keys, List.map_reverse, List.mem_reverse, keys]

theorem last?_filter (p : String → Bool) (entries : Record) (key : String) :
    last? (entries.filter fun entry => p entry.1) key = if p key then last? entries key else none := by
  rw [last?, ← List.filter_reverse, get?_filter, last?]

/-! ## Erasing entries -/

theorem mem_keys_erase_iff : name ∈ (r.erase key).keys ↔ name ∈ r.keys ∧ name ≠ key := by
  simp [keys, erase]

theorem nodup_keys_erase (h : r.keys.Nodup) (key : String) : (r.erase key).keys.Nodup :=
  h.sublist (List.filter_sublist.map _)

theorem erase_of_not_mem (h : key ∉ r.keys) : r.erase key = r := by
  refine List.filter_eq_self.mpr fun entry he => ?_
  exact decide_eq_true fun hk => h (hk ▸ mem_keys_of_mem he)

end DataFetch.Record
