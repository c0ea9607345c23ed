import DataFetch.Proofs.Condition.Precedence
import DataFetch.Proofs.Statement.Shape

/-! # Conditions recovered from their text

A formula tells which conditions it was written from, up to their normal forms: what its operators
join stands side by side, and a parenthesis is a group. Main statement: conditions that are written as
the same text have the same normal forms.
-/
namespace DataFetch

open Condition

namespace Condition.Formula

/-- What joins the outermost parts of a formula. -/
def top : Formula → Operator
  | or _ _ => .or
  | _ => .and

/-- The conditions that stand side by side in a formula, without values. -/
def conditions : Formula → List Predicate
  | atom text => [.simple text []]
  | paren f => [.group f.top f.conditions]
  | and f g => f.conditions ++ g.conditions
  | or f g => f.conditions ++ g.conditions

end Condition.Formula

namespace Operator

theorem conditions_foldl_formula (operator : Operator) (f : Formula) (fs : List Formula) :
    (fs.foldl operator.formula f).conditions = (f :: fs).flatMap Formula.conditions := by
  induction fs generalizing f with
  | nil => simp
  | cons g fs ih =>
    have hc : (operator.formula f g).conditions = f.conditions ++ g.conditions := by
      cases operator <;> rfl
    simp [ih, hc]

theorem top_foldl_formula (operator : Operator) (f g : Formula) (fs : List Formula) :
    ((g :: fs).foldl operator.formula f).top = operator := by
  induction fs generalizing f g with
  | nil => cases operator <;> rfl
  | cons e fs ih => exact ih (operator.formula f g) e

theorem conditions_of_formula? {operator : Operator} {fs : List Formula} {f : Formula}
    (hf : operator.formula? fs = some f) : f.conditions = fs.flatMap Formula.conditions := by
  obtain ⟨g, gs, rfl, rfl⟩ := formula?_eq_some_iff.mp hf
  exact operator.conditions_foldl_formula g gs

/-- The operator of joined parts shows on the outside if there are several. -/
theorem top_of_formula? {operator : Operator} {fs : List Formula} {f : Formula}
    (hf : operator.formula? fs = some f) (h : ∀ g ∈ fs, g.top = .and) :
    f.top = if fs.length ≤ 1 then .and else operator := by
  obtain ⟨g, gs, rfl, rfl⟩ := formula?_eq_some_iff.mp hf
  cases gs with
  | nil => exact h g (List.mem_singleton_self g)
  | cons e gs =>
    rw [if_neg (by simp)]
    exact operator.top_foldl_formula g e gs

end Operator

namespace Predicate

/-! ## Normal forms -/

theorem length_neutralAll (ps : List Predicate) : (neutralAll ps).length = ps.length := by
  induction ps with
  | nil => rfl
  | cons p rest ih => rw [neutralAll, List.length_cons, List.length_cons, ih]

theorem normalForms_cons_of_eq {p : Predicate} (h : p.leaves = []) (rest : List Predicate) :
    normalForms (p :: rest) = normalForms rest := by
  rw [normalForms, pruneAll, if_pos (List.isEmpty_iff.mpr h), normalForms]

theorem normalForms_cons_of_ne {p : Predicate} (h : p.leaves ≠ []) (rest : List Predicate) :
    normalForms (p :: rest) = p.prune.bare.neutral :: normalForms rest := by
  rw [normalForms, pruneAll, if_neg (mt List.isEmpty_iff.mp h), bareAll, neutralAll, normalForms]

theorem normalForm_group (operator : Operator) (members : List Predicate) :
    (group operator members).prune.bare.neutral =
      group (if (normalForms members).length ≤ 1 then .and else operator)
        (normalForms members) := by
  rw [prune, bare, neutral, normalForms, length_neutralAll]

theorem formula?_eq_none_iff {p : Predicate} : p.formula? = none ↔ p.leaves = [] := by
  rw [← text_written_eq_empty_iff, ← Command.nonempty?_eq_none_iff, ← Option.toList_eq_nil_iff,
    ← Option.toList_eq_nil_iff, ← List.map_eq_nil_iff (f := Formula.text), ← text_written,
    List.map_eq_nil_iff]

theorem leaves_ne_nil_of_formula? {p : Predicate} {f : Formula} (h : p.formula? = some f) :
    p.leaves ≠ [] := by
  intro hn
  rw [formula?_eq_none_iff.mpr hn] at h
  cases h

/-- Each condition that has a formula has a normal form. -/
theorem length_normalForms (ps : List Predicate) :
    (normalForms ps).length = (formulas ps).length := by
  induction ps with
  | nil => rfl
  | cons p rest ih =>
    rw [formulas, List.length_append, ← ih]
    cases hf : p.formula? with
    | none =>
      rw [normalForms_cons_of_eq (formula?_eq_none_iff.mp hf)]
      exact (Nat.zero_add _).symm
    | some f =>
      rw [normalForms_cons_of_ne (leaves_ne_nil_of_formula? hf)]
      exact Nat.add_comm _ 1

/-- A condition is written as an atom or a group, never with an operator on the outside. -/
theorem top_of_formula? {p : Predicate} {f : Formula} (h : p.formula? = some f) :
    f.top = .and := by
  cases p with
  | simple text params =>
    cases h
    rfl
  | group operator members =>
    rw [formula?] at h
    obtain ⟨g, -, rfl⟩ := Option.map_eq_some_iff.mp h
    rfl

theorem top_of_mem_formulas {ps : List Predicate} {f : Formula} (h : f ∈ formulas ps) :
    f.top = .and := by
  induction ps with
  | nil => cases h
  | cons p rest ih =>
    rw [formulas, List.mem_append, Option.mem_toList] at h
    rcases h with h | h
    · exact top_of_formula? h
    · exact ih h

/-! ## Recovery -/

mutual
/-- The formula of a condition tells the normal form of the condition. -/
theorem conditions_of_formula? (p : Predicate) :
    ∀ f ∈ p.formula?, f.conditions = [p.prune.bare.neutral] := by
  match p with
  | simple text params =>
    intro f hf
    cases hf
    rfl
  | group operator members =>
    intro f hf
    rw [formula?] at hf
    obtain ⟨g, hg, rfl⟩ := Option.map_eq_some_iff.mp hf
    have htop := Operator.top_of_formula? hg fun e he => top_of_mem_formulas he
    have hc := Operator.conditions_of_formula? hg
    rw [Formula.conditions, htop, hc, conditions_formulas members, normalForm_group,
      length_normalForms]

theorem conditions_formulas (ps : List Predicate) :
    (formulas ps).flatMap Formula.conditions = normalForms ps := by
  match ps with
  | [] => rfl
  | p :: rest =>
    have hp := conditions_of_formula? p
    rw [formulas, List.flatMap_append, conditions_formulas rest]
    cases hf : p.formula? with
    | none =>
      rw [normalForms_cons_of_eq (formula?_eq_none_iff.mp hf)]
      rfl
    | some f =>
      rw [normalForms_cons_of_ne (leaves_ne_nil_of_formula? hf), Option.toList_some,
        List.flatMap_singleton, hp f hf]
      rfl
end

/-- Conditions that hold some fragment read as a formula that tells their normal forms. -/
theorem reads_normalForms (operator : Operator) {ps : List Predicate} (hn : leavesOf ps ≠ [])
    (ha : ∀ l ∈ leavesOf ps, Atomic l.1) :
    ∃ f, Reads (writeTogether operator ps).text f ∧ f.conditions = normalForms ps := by
  obtain ⟨f, hf⟩ := exists_formula? operator hn
  refine ⟨f, reads_of_formula? hf ha, ?_⟩
  rw [Operator.conditions_of_formula? hf, conditions_formulas]

theorem normalForms_of_leaves_eq_nil {ps : List Predicate} (h : leavesOf ps = []) :
    normalForms ps = [] := by
  induction ps with
  | nil => rfl
  | cons p rest ih =>
    obtain ⟨hp, hrest⟩ := List.append_eq_nil_iff.mp h
    rw [normalForms_cons_of_eq hp, ih hrest]

/-- Conditions that are written as the same text have the same normal forms. -/
theorem normalForms_eq_of_text_eq {operator : Operator} {ps qs : List Predicate}
    (hps : ∀ l ∈ leavesOf ps, Atomic l.1) (hqs : ∀ l ∈ leavesOf qs, Atomic l.1)
    (h : (writeTogether operator ps).text = (writeTogether operator qs).text) :
    normalForms ps = normalForms qs := by
  have hempty : leavesOf ps = [] ↔ leavesOf qs = [] := by
    have hp : (writeTogether operator ps).text = "" ↔ leavesOf ps = [] :=
      text_writeTogether_eq_empty_iff
    rw [← hp, h, text_writeTogether_eq_empty_iff]
  by_cases hn : leavesOf ps = []
  · rw [normalForms_of_leaves_eq_nil hn, normalForms_of_leaves_eq_nil (hempty.mp hn)]
  · obtain ⟨f, hf, hfs⟩ := reads_normalForms operator hn hps
    obtain ⟨g, hg, hgs⟩ := reads_normalForms operator (mt hempty.mpr hn) hqs
    have he : f = g := (h ▸ hf).unique hg
    rw [← hfs, ← hgs, he]

end Predicate

end DataFetch
