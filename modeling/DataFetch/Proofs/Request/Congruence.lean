import DataFetch.Proofs.Statement.Shape
import DataFetch.Request.Equality
import Mathlib.Data.List.Forall2

/-! # Equal requests

Requests that are equal may still hold different values, such as a truth value where the other has a
number. Nothing of that shows in a statement but the values themselves. Main statement: equal requests
are refused for the same reason or compiled to the same text, with values that are equal one by one.
-/
namespace DataFetch

open List (Forall₂)

/-- Lists of values that are equal one by one. -/
def Value.AllSame : List Value → List Value → Prop :=
  Forall₂ fun v w => v.same w = true

theorem Value.allSame_iff {vs ws : List Value} : AllSame vs ws ↔ sameItems vs ws = true := by
  induction vs generalizing ws with
  | nil => cases ws <;> simp [AllSame, sameItems]
  | cons v vs ih =>
    rw [AllSame] at ih
    cases ws <;> simp [AllSame, sameItems, ih]

namespace Predicate

/-! ## What is equal beside the values -/

mutual
theorem bare_of_same {p q : Predicate} (h : p.same q = true) : p.bare = q.bare := by
  cases p with
  | simple t vs =>
    cases q with
    | group operator members => simp [same] at h
    | simple u ws =>
      simp only [same, Bool.and_eq_true, beq_iff_eq] at h
      simp [bare, h.1]
  | group operator members =>
    cases q with
    | simple u ws => simp [same] at h
    | group other others =>
      simp only [same, Bool.and_eq_true, beq_iff_eq] at h
      simp [bare, h.1, bareAll_of_sameAll h.2]

theorem bareAll_of_sameAll {ps qs : List Predicate} (h : sameAll ps qs = true) :
    bareAll ps = bareAll qs := by
  cases ps with
  | nil =>
    cases qs with
    | nil => rfl
    | cons q qs => simp [sameAll] at h
  | cons p ps =>
    cases qs with
    | nil => simp [sameAll] at h
    | cons q qs =>
      simp only [sameAll, Bool.and_eq_true] at h
      simp [bareAll, bare_of_same h.1, bareAll_of_sameAll h.2]
end

/-! ## The values -/

mutual
theorem allSame_of_same {p q : Predicate} (h : p.same q = true) :
    Value.AllSame (p.leaves.flatMap (·.2)) (q.leaves.flatMap (·.2)) := by
  cases p with
  | simple t vs =>
    cases q with
    | group operator members => simp [same] at h
    | simple u ws =>
      simp only [same, Bool.and_eq_true] at h
      simpa [leaves] using Value.allSame_iff.mpr h.2
  | group operator members =>
    cases q with
    | simple u ws => simp [same] at h
    | group other others =>
      simp only [same, Bool.and_eq_true] at h
      rw [leaves, leaves]
      exact allSame_of_sameAll h.2

theorem allSame_of_sameAll {ps qs : List Predicate} (h : sameAll ps qs = true) :
    Value.AllSame ((leavesOf ps).flatMap (·.2)) ((leavesOf qs).flatMap (·.2)) := by
  cases ps with
  | nil =>
    cases qs with
    | nil => exact .nil
    | cons q qs => simp [sameAll] at h
  | cons p ps =>
    cases qs with
    | nil => simp [sameAll] at h
    | cons q qs =>
      simp only [sameAll, Bool.and_eq_true] at h
      rw [leavesOf, leavesOf, List.flatMap_append, List.flatMap_append]
      exact List.rel_append (allSame_of_same h.1) (allSame_of_sameAll h.2)
end

end Predicate

namespace FetchRequest

variable {r s : FetchRequest}

theorem bare_of_same (h : r.same s = true) : r.bare = s.bare := by
  obtain ⟨table, predicates, sort, limit, offset⟩ := r
  obtain ⟨table', predicates', sort', limit', offset'⟩ := s
  simp only [same, Bool.and_eq_true, beq_iff_eq] at h
  obtain ⟨⟨⟨⟨rfl, hpredicates⟩, rfl⟩, rfl⟩, rfl⟩ := h
  simp [bare, Predicate.bareAll_of_sameAll hpredicates]

theorem allSame_params_of_same (h : r.same s = true) (layout : Layout) :
    Value.AllSame (layout.write r).params (layout.write s).params := by
  simp only [same, Bool.and_eq_true] at h
  rw [Layout.params_write, Layout.params_write]
  exact Predicate.allSame_of_sameAll h.1.1.1.2

/-- Whether a statement is refused, and its text, are the same for equal requests. -/
theorem map_text_compile_of_same (h : r.same s = true) (layout : Layout) :
    (layout.compile r).map (·.text) = (layout.compile s).map (·.text) := by
  rw [← layout.map_text_compile_bare r, bare_of_same h, layout.map_text_compile_bare]

/-- Equal requests are one statement, with values that are equal one by one; where one of them is
refused, the other is refused alike. -/
theorem equal_requests_compile_alike (h : r.same s = true) (layout : Layout) :
    (layout.write r).text = (layout.write s).text ∧
    (layout.write r).params.length = (layout.write s).params.length ∧
    Forall₂ (fun v w => v.same w = true) (layout.write r).params (layout.write s).params ∧
    (∀ m, layout.compile r = .error m ↔ layout.compile s = .error m) ∧
    ∀ c, layout.compile r = .ok c → ∃ d, layout.compile s = .ok d ∧ c.text = d.text ∧
      Forall₂ (fun v w => v.same w = true) c.params d.params := by
  have htext : (layout.write r).text = (layout.write s).text := by
    rw [← layout.text_write_bare r, bare_of_same h, layout.text_write_bare]
  have hparams := allSame_params_of_same h layout
  have hcompile := map_text_compile_of_same h layout
  refine ⟨htext, hparams.length_eq, hparams, fun m => ?_, fun c hc => ?_⟩
  · cases hr : layout.compile r <;> cases hs : layout.compile s <;> simp_all [Except.map]
  · obtain ⟨hwritable, rfl⟩ := Layout.compile_eq_ok_iff.mp hc
    cases hs : layout.compile s with
    | error m => simp [hc, hs, Except.map] at hcompile
    | ok d =>
      obtain ⟨-, rfl⟩ := Layout.compile_eq_ok_iff.mp hs
      exact ⟨_, rfl, htext, hparams⟩

/-- A truth value, numbers of either kind, zeros of either sign and fields in another order. -/
theorem equal_requests_compile_alike_with_other_numbers :
    let one : Binary64 := ⟨0x3ff0000000000000⟩
    let minusZero : Binary64 := ⟨0x8000000000000000⟩
    let r : FetchRequest :=
      { table := "t"
        predicates :=
          [.group .or [.simple "a = ?" [.bool true], .group .and []],
            .simple "b IN (?, ?)" [.float minusZero, .object [("x", .int 1), ("y", .null)]]]
        limit := some 5 }
    let s : FetchRequest :=
      { r with
        predicates :=
          [.group .or [.simple "a = ?" [.float one], .group .and []],
            .simple "b IN (?, ?)" [.int 0, .object [("y", .null), ("x", .bool true)]]] }
    r.same s = true ∧
      ∃ c d, Layout.compile {} r = .ok c ∧ Layout.compile {} s = .ok d ∧ c.text = d.text ∧
        Forall₂ (fun v w => v.same w = true) c.params d.params := by
  intro one minusZero r s
  have h : r.same s = true := by decide +kernel
  have hlimit : Layout.isWritable (some 5) = true := by decide +kernel
  have hr : Layout.compile {} r = .ok (Layout.write {} r) :=
    Layout.compile_eq_ok_iff.mpr ⟨⟨hlimit, rfl, rfl⟩, rfl⟩
  obtain ⟨-, -, -, -, hcompile⟩ := equal_requests_compile_alike h {}
  obtain ⟨d, hs, htext, hparams⟩ := hcompile _ hr
  exact ⟨h, _, d, hr, hs, htext, hparams⟩

end FetchRequest

end DataFetch
