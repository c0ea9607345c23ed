import DataFetch.Validation.Issue
import DataFetch.Value.Basic

/-! # Checked readings

The outcome of reading a payload: a result, or every issue found. Readings are combined so that the
second is tried even when the first is refused, and a combination succeeds exactly when both parts do.
-/
namespace DataFetch

/-- A result or the issues that stand against it. -/
abbrev Checked (α : Type) := Except (List Issue) α

namespace Checked

/-- A refusal with one issue at the place itself. -/
def refuse {α : Type} (complaint : Complaint) : Checked α :=
  .error [⟨[], complaint⟩]

/-- The reading as seen from one step further out. -/
def under {α : Type} (step : PathStep) : Checked α → Checked α
  | .ok a => .ok a
  | .error is => .error (is.map (Issue.under step))

/-- Two readings side by side, with the issues of both. -/
def both {α β : Type} : Checked α → Checked β → Checked (α × β)
  | .ok a, .ok b => .ok (a, b)
  | .ok _, .error js => .error js
  | .error is, .ok _ => .error is
  | .error is, .error js => .error (is ++ js)

/-- A reading of the items of a list, each seen from its index. -/
def indexed {α β : Type} (read : α → Checked β) (start : Nat) : List α → Checked (List β)
  | [] => .ok []
  | a :: rest =>
    (both ((read a).under (.index start)) (indexed read (start + 1) rest)).map
      fun (b, bs) => b :: bs

def required {α : Type} (fields : Record) (key : String) (read : Value → Checked α) : Checked α :=
  match fields.get? key with
  | none => .error [⟨[.key key], .missing⟩]
  | some v => (read v).under (.key key)

def optional {α : Type} (fields : Record) (key : String) (default : α)
    (read : Value → Checked α) : Checked α :=
  match fields.get? key with
  | none => .ok default
  | some v => (read v).under (.key key)

/-- Refuses, after everything else, each field whose name is not among `known`. -/
def closing {α : Type} (fields : Record) (known : List String) (c : Checked α) : Checked α :=
  let extras := (fields.keys.filter fun k => !known.contains k).map
    fun k => (⟨[.key k], .extra⟩ : Issue)
  match c with
  | .ok a => if extras.isEmpty then .ok a else .error extras
  | .error is => .error (is ++ extras)

theorem both_eq_ok_iff {α β : Type} {c : Checked α} {d : Checked β} {p : α × β} :
    both c d = .ok p ↔ c = .ok p.1 ∧ d = .ok p.2 := by
  obtain ⟨a, b⟩ := p
  cases c <;> cases d <;> simp [both]

theorem under_eq_ok_iff {α : Type} {step : PathStep} {c : Checked α} {a : α} :
    under step c = .ok a ↔ c = .ok a := by
  cases c <;> simp [under]

theorem closing_eq_ok_iff {α : Type} {fields : Record} {known : List String} {c : Checked α}
    {a : α} :
    closing fields known c = .ok a ↔ c = .ok a ∧ ∀ k ∈ fields.keys, k ∈ known := by
  cases c with
  | error is => simp [closing]
  | ok b =>
    have h : ((fields.keys.filter fun k => !known.contains k).map
        fun k => (⟨[.key k], .extra⟩ : Issue)).isEmpty = true ↔
        ∀ k ∈ fields.keys, k ∈ known := by
      simp [List.filter_eq_nil_iff]
    simp only [closing, Except.ok.injEq]
    rw [← h]
    split <;> simp_all

end Checked

end DataFetch
