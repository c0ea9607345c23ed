import Mathlib.Logic.Relator

/-! # Outcomes of steps that may fail

When a step that is made of others succeeds, and with what. Some steps are made at a level of their own
and need a number of levels below it; these succeed exactly when there is room for them.
-/
namespace DataFetch.Outcome

section Steps

variable {ε ι α β : Type} {c : Except ε α}

theorem map_eq_ok_iff {f : α → β} {b : β} : c.map f = .ok b ↔ ∃ a, c = .ok a ∧ b = f a := by
  cases c with
  | error e => simp [Except.map]
  | ok a => simp [Except.map, eq_comm]

theorem bind_eq_ok_iff {f : α → Except ε β} {b : β} :
    (c >>= f) = .ok b ↔ ∃ a, c = .ok a ∧ f a = .ok b := by
  cases c with
  | error e => exact ⟨nofun, nofun⟩
  | ok a =>
    constructor
    · intro h
      exact ⟨a, rfl, h⟩
    · rintro ⟨_, ha, h⟩
      cases ha
      exact h

theorem mapError_eq_ok_iff {f : ε → ι} {a : α} : c.mapError f = .ok a ↔ c = .ok a := by
  cases c with
  | error e => exact ⟨nofun, nofun⟩
  | ok b =>
    constructor
    · intro h
      cases h
      rfl
    · intro h
      cases h
      rfl

theorem toOption_eq_some_iff {a : α} : c.toOption = some a ↔ c = .ok a := by
  cases c <;> simp [Except.toOption]

theorem inside_eq_ok_iff {fault : ε} {f : α → β} {room : Nat} {b : β} :
    (if room = 0 then .error fault else c.map f) = .ok b ↔ room ≠ 0 ∧ ∃ a, c = .ok a ∧ b = f a := by
  by_cases hr : room = 0
  · simp [hr]
  · rw [if_neg hr, map_eq_ok_iff]
    exact (and_iff_right hr).symm

theorem inside_eq_some_iff {o : Option α} {f : α → β} {room : Nat} {b : β} :
    (if room = 0 then none else o.map f) = some b ↔ room ≠ 0 ∧ ∃ a, o = some a ∧ b = f a := by
  by_cases hr : room = 0
  · simp [hr]
  · simp [hr, eq_comm]

/-- What is told by the success of a step is told of one result at most. -/
theorem rightUnique_of_eq_ok_iff {f : ι → Except ε β} {R : ι → β → Prop}
    (h : ∀ a b, f a = .ok b ↔ R a b) : Relator.RightUnique R := by
  intro a b c hb hc
  exact Except.ok.inj (((h a b).mpr hb).symm.trans ((h a c).mpr hc))

end Steps

section Levels

variable {α β γ : Type} {room m n : Nat} {p q : Prop} {a : α} {b : β}

/-- What is made at a level of its own, from something that has `n` levels. -/
theorem level_fits_iff {make : Nat → α → Prop} (h : ∀ room x, make room x ↔ n ≤ room ∧ p ∧ x = a)
    (f : α → γ) (room : Nat) (c : γ) :
    (room ≠ 0 ∧ ∃ x, make (room - 1) x ∧ c = f x) ↔ n + 1 ≤ room ∧ p ∧ c = f a := by
  constructor
  · rintro ⟨hr, x, hx, rfl⟩
    obtain ⟨hn, hp, rfl⟩ := (h _ _).mp hx
    exact ⟨by omega, hp, rfl⟩
  · rintro ⟨hn, hp, rfl⟩
    exact ⟨by omega, a, (h _ _).mpr ⟨by omega, hp, rfl⟩, rfl⟩

/-- What is made of two things that take the same levels. -/
theorem both_fit_iff {c : γ} (f : α → β → γ) :
    (∃ x y, (m ≤ room ∧ p ∧ x = a) ∧ (n ≤ room ∧ q ∧ y = b) ∧ c = f x y) ↔
      max m n ≤ room ∧ (p ∧ q) ∧ c = f a b := by
  rw [Nat.max_le]
  constructor
  · rintro ⟨x, y, ⟨hm, hp, rfl⟩, ⟨hn, hq, rfl⟩, hc⟩
    exact ⟨⟨hm, hn⟩, ⟨hp, hq⟩, hc⟩
  · rintro ⟨⟨hm, hn⟩, ⟨hp, hq⟩, hc⟩
    exact ⟨a, b, ⟨hm, hp, rfl⟩, ⟨hn, hq, rfl⟩, hc⟩

/-- An attempt that fails did not fit. -/
theorem not_fits_of_eq_none {o : Option α} (h : ∀ x, o = some x ↔ n ≤ room ∧ p ∧ x = a)
    (ho : o = none) : ¬ (n ≤ room ∧ p) := by
  rintro ⟨hn, hp⟩
  have hs := (h a).mpr ⟨hn, hp, rfl⟩
  rw [ho] at hs
  cases hs

end Levels

end DataFetch.Outcome
