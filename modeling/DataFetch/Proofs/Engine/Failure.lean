import DataFetch.Failure
import DataFetch.Proofs.Outcome

/-! # Which failures of the engine are passed on

A failure that is recast leaves as a fault if it is of the driver's own family, and as it is only if it
is foreign to the driver. A failure that is not recast leaves as it is unless it was a fault before.
-/
namespace DataFetch

theorem Fault.kind_of_ofArguments {kind : FaultKind} {arguments : List Value} {f : Fault}
    (h : ofArguments kind arguments = .ok f) : f.kind = kind := by
  obtain ⟨_, _, rfl⟩ := Outcome.map_eq_ok_iff.mp h
  split <;> rfl

namespace Failure

variable {e d : EngineError} {kind : FaultKind} {before : String}

theorem ofEngine_eq_engine_iff :
    ofEngine e = .engine d ↔ d = e ∧ ∀ k, e.kind ≠ .library k := by
  obtain ⟨k, message⟩ := e
  cases k with
  | library k =>
    simp only [ofEngine, ne_eq]
    cases Fault.ofArguments k [.text message] <;> simp
  | driver name | integrity | foreign name => simp [ofEngine, eq_comm]

theorem wrapDriver_eq_engine_iff :
    wrapDriver kind before e = .engine d ↔ d = e ∧ ∃ name, e.kind = .foreign name := by
  rw [wrapDriver]
  split
  · rename_i hd
    obtain ⟨k, message⟩ := e
    cases k <;> simp [wrapped, EngineErrorKind.isDriver] at hd ⊢
  · rename_i hd
    rw [ofEngine_eq_engine_iff]
    obtain ⟨k, message⟩ := e
    cases k <;> simp [EngineErrorKind.isDriver] at hd ⊢

theorem ofStatement_eq_engine_iff :
    ofStatement e = .engine d ↔ d = e ∧ ∃ name, e.kind = .foreign name := by
  obtain ⟨k, message⟩ := e
  cases k with
  | integrity => simp [ofStatement, wrapped]
  | driver name | foreign name | library k =>
    rw [ofStatement, wrapDriver_eq_engine_iff]

/-- A fault that was not made here was one before. -/
theorem ofEngine_eq_fault {f : Fault} (h : ofEngine e = .fault f) :
    e.kind = .library f.kind ∧ Fault.ofArguments f.kind [.text e.message] = .ok f := by
  obtain ⟨k, message⟩ := e
  cases k with
  | driver name | integrity | foreign name => cases h
  | library k =>
    simp only [ofEngine] at h
    cases hf : Fault.ofArguments k [.text message] with
    | error m =>
      rw [hf] at h
      cases h
    | ok g =>
      rw [hf] at h
      cases h
      have hk : f.kind = k := Fault.kind_of_ofArguments hf
      rw [hk]
      exact ⟨rfl, hf⟩

theorem wrapDriver_of_isDriver (h : e.kind.isDriver = true) :
    wrapDriver kind before e = wrapped kind before e :=
  if_pos h

theorem wrapDriver_of_not_isDriver (h : e.kind.isDriver = false) :
    wrapDriver kind before e = ofEngine e := by
  rw [wrapDriver, h]
  exact if_neg Bool.false_ne_true

theorem ofStatement_of_isDriver (h : e.kind.isDriver = true) :
    ofStatement e = wrapped (if e.kind = .integrity then .integrity else .query) "" e := by
  obtain ⟨k, message⟩ := e
  cases k with
  | integrity => rfl
  | driver name => rfl
  | foreign name | library k => cases h

theorem ofStatement_of_not_isDriver (h : e.kind.isDriver = false) :
    ofStatement e = ofEngine e := by
  obtain ⟨k, message⟩ := e
  cases k with
  | integrity | driver name => cases h
  | foreign name | library k => rfl

end Failure

end DataFetch
