import DataFetch.Log.Basic
import DataFetch.Proofs.Value.Record

/-! # Binding and unbinding

What is bound lies over what was bound before. Unbinding takes a name away whatever was under it, so that
binding and unbinding the same names takes them out of the context that was there.
-/
namespace DataFetch

namespace Record

theorem filter_put {r : Record} {names : List String} {key : String} (h : key ∈ names)
    (value : Value) :
    (r.put key value).filter (·.1 ∉ names) = r.filter (·.1 ∉ names) := by
  induction r with
  | nil => simp [put, h]
  | cons entry rest ih =>
    obtain ⟨k, v⟩ := entry
    by_cases hk : k = key
    · subst hk
      simp [put, h]
    · simp only [put, if_neg hk, List.filter_cons, ih]

theorem filter_putAll {r entries : Record} {names : List String}
    (h : ∀ entry ∈ entries, entry.1 ∈ names) :
    (r.putAll entries).filter (·.1 ∉ names) = r.filter (·.1 ∉ names) := by
  induction entries generalizing r with
  | nil => rfl
  | cons entry rest ih =>
    have hput := filter_put (r := r) (h entry List.mem_cons_self) entry.2
    rw [← hput]
    exact ih fun e he => h e (List.mem_cons_of_mem entry he)

theorem eraseAll_eq_filter (r : Record) (names : List String) :
    r.eraseAll names = r.filter (·.1 ∉ names) := by
  induction names generalizing r with
  | nil => exact (List.filter_eq_self.mpr fun _ _ => rfl).symm
  | cons name rest ih =>
    have hcons : r.eraseAll (name :: rest) = (r.erase name).eraseAll rest := rfl
    rw [hcons, ih, erase, List.filter_filter]
    refine List.filter_congr fun entry _ => ?_
    simp [Bool.and_comm]

end Record

namespace LogContext

theorem unbind_append (c : LogContext) (names more : List String) :
    c.unbind (names ++ more) = (c.unbind names).unbind more :=
  List.foldl_append

theorem unbind_comm (c : LogContext) (names more : List String) :
    (c.unbind names).unbind more = (c.unbind more).unbind names := by
  simp only [unbind, Record.eraseAll_eq_filter]
  rw [List.filter_filter, List.filter_filter]
  refine List.filter_congr fun entry _ => ?_
  rw [Bool.and_comm]

theorem unbind_bind (c : LogContext) (entries : Record) :
    (c.bind entries).unbind entries.keys = c.unbind entries.keys := by
  rw [unbind, unbind, Record.eraseAll_eq_filter, Record.eraseAll_eq_filter, bind,
    Record.filter_putAll fun _ => Record.mem_keys_of_mem]

/-- A context is the same without some names exactly if it binds none of them. -/
theorem unbind_eq_self_iff {c : LogContext} {names : List String} :
    c.unbind names = c ↔ ∀ name ∈ names, c.has name = false := by
  rw [unbind, Record.eraseAll_eq_filter, List.filter_eq_self]
  constructor
  · intro h name hname
    rw [Record.has_eq_false_iff, Record.keys, List.mem_map]
    rintro ⟨entry, hentry, rfl⟩
    exact of_decide_eq_true (h entry hentry) hname
  · intro h entry hentry
    refine decide_eq_true fun hname => ?_
    exact Record.has_eq_false_iff.mp (h entry.1 hname) (Record.mem_keys_of_mem hentry)

end LogContext

end DataFetch
