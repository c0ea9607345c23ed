import DataFetch.Proofs.Outcome
import DataFetch.Validation.Checked
import Mathlib.Data.List.Forall2

/-! # Combined readings

What holds of a reading that is put together from others: when it succeeds, that a function on results
can be applied to the parts, and that a refusal always names some issue.
-/
namespace DataFetch.Checked

open Outcome

variable {α β γ δ : Type}

/-! ## When a combination succeeds -/

theorem required_eq_ok_iff {fields : Record} {key : String} {read : Value → Checked α} {a : α} :
    required fields key read = .ok a ↔ ∃ v, fields.get? key = some v ∧ read v = .ok a := by
  rw [required]
  cases fields.get? key with
  | none => simp
  | some v =>
    rw [under_eq_ok_iff]
    constructor
    · intro h
      exact ⟨v, rfl, h⟩
    · rintro ⟨w, hw, h⟩
      cases hw
      exact h

/-- An absent field counts as one that holds a value read as the default. -/
theorem optional_eq_ok_iff {fields : Record} {key : String} {default a : α}
    (read : Value → Checked α) (absent : Value) (h : read absent = .ok default) :
    optional fields key default read = .ok a ↔ read (fields.getD key absent) = .ok a := by
  rw [optional, Record.getD]
  cases fields.get? key with
  | none => rw [Option.getD_none, h]
  | some v => rw [Option.getD_some, under_eq_ok_iff]

theorem indexed_eq_ok_iff {read : α → Checked β} {start : Nat} {as : List α} {bs : List β} :
    indexed read start as = .ok bs ↔ List.Forall₂ (fun a b => read a = .ok b) as bs := by
  induction as generalizing start bs with
  | nil =>
    rw [List.forall₂_nil_left_iff, indexed, Except.ok.injEq]
    exact eq_comm
  | cons a rest ih =>
    rw [indexed, map_eq_ok_iff, List.forall₂_cons_left_iff]
    constructor
    · rintro ⟨⟨b, cs⟩, hb, rfl⟩
      obtain ⟨ha, hrest⟩ := both_eq_ok_iff.mp hb
      exact ⟨b, cs, under_eq_ok_iff.mp ha, ih.mp hrest, rfl⟩
    · rintro ⟨b, cs, ha, hrest, rfl⟩
      exact ⟨(b, cs), both_eq_ok_iff.mpr ⟨under_eq_ok_iff.mpr ha, ih.mpr hrest⟩, rfl⟩

/-! ## Functions on results -/

theorem map_under (f : α → β) (step : PathStep) (c : Checked α) :
    (c.under step).map f = Checked.under step (c.map f) := by
  cases c <;> rfl

theorem both_map (f : α → γ) (g : β → δ) (c : Checked α) (d : Checked β) :
    both (c.map f) (d.map g) = (both c d).map (Prod.map f g) := by
  cases c <;> cases d <;> rfl

theorem both_map_left (f : α → γ) (c : Checked α) (d : Checked β) :
    both (c.map f) d = (both c d).map (Prod.map f id) := by
  cases c <;> cases d <;> rfl

theorem both_map_right (g : β → δ) (c : Checked α) (d : Checked β) :
    both c (d.map g) = (both c d).map (Prod.map id g) := by
  cases c <;> cases d <;> rfl

theorem ok_both (a : α) (d : Checked β) : both (.ok a) d = d.map (Prod.mk a) := by
  cases d <;> rfl

theorem map_map (f : α → β) (g : β → γ) (c : Checked α) : (c.map f).map g = c.map (g ∘ f) := by
  cases c <;> rfl

theorem map_closing (f : α → β) (fields : Record) (known : List String) (c : Checked α) :
    (closing fields known c).map f = closing fields known (c.map f) := by
  cases c with
  | error is => rfl
  | ok a => exact apply_ite (Except.map f) _ _ _

theorem closing_of_known {fields : Record} {known : List String}
    (h : ∀ key ∈ fields.keys, key ∈ known) (c : Checked α) : closing fields known c = c := by
  cases c <;> simpa [closing] using h

theorem closing_congr {fields others : Record} (h : others.keys = fields.keys)
    (known : List String) (c : Checked α) : closing others known c = closing fields known c := by
  simp only [closing, h]

theorem optional_map {fields others : Record} {key : String} {f : Value → Value} {g : α → β}
    {read : Value → Checked α} {read' : Value → Checked β} {default : α} {default' : β}
    (hfields : others.get? key = (fields.get? key).map f) (hdefault : g default = default')
    (hread : ∀ v, fields.get? key = some v → read' (f v) = (read v).map g) :
    optional others key default' read' = (optional fields key default read).map g := by
  rw [optional, optional, hfields]
  cases hv : fields.get? key with
  | none => exact congrArg Except.ok hdefault.symm
  | some v =>
    change (read' (f v)).under (.key key) = (Checked.under (.key key) (read v)).map g
    rw [hread v hv, map_under]

theorem indexed_map {f : α → γ} {g : β → δ} {read : α → Checked β} {read' : γ → Checked δ}
    {as : List α} (h : ∀ a ∈ as, read' (f a) = (read a).map g) (start : Nat) :
    indexed read' start (as.map f) = (indexed read start as).map (List.map g) := by
  induction as generalizing start with
  | nil => rfl
  | cons a rest ih =>
    have ha := h a (List.mem_cons_self ..)
    have hrest := ih (fun b hb => h b (List.mem_cons_of_mem _ hb)) (start + 1)
    rw [List.map_cons, indexed, indexed, ha, hrest, ← map_under, both_map, map_map, map_map]
    rfl

/-! ## Issues of a refusal -/

/-- The reading succeeds or names some issue. -/
def Explained (c : Checked α) : Prop :=
  c ≠ .error []

theorem explained_ok (a : α) : Explained (.ok a : Checked α) := nofun

theorem explained_refuse (complaint : Complaint) : Explained (refuse complaint : Checked α) := nofun

theorem explained_error {i : Issue} {is : List Issue} : Explained (.error (i :: is) : Checked α) :=
  nofun

theorem Explained.under {c : Checked α} (h : c.Explained) (step : PathStep) :
    (c.under step).Explained := by
  cases c with
  | ok a => exact explained_ok a
  | error is =>
    cases is with
    | nil => exact absurd rfl h
    | cons i is => exact explained_error

theorem Explained.map {c : Checked α} (h : c.Explained) (f : α → β) :
    Explained (c.map f : Checked β) := by
  cases c with
  | ok a => exact explained_ok (f a)
  | error is =>
    intro he
    cases he
    exact h rfl

theorem Explained.both {c : Checked α} {d : Checked β} (hc : c.Explained) (hd : d.Explained) :
    (c.both d).Explained := by
  intro he
  cases c with
  | ok a =>
    cases d with
    | ok b => cases he
    | error js =>
      cases he
      exact hd rfl
  | error is =>
    cases d with
    | ok b =>
      cases he
      exact hc rfl
    | error js =>
      obtain ⟨rfl, -⟩ := List.append_eq_nil_iff.mp (Except.error.inj he)
      exact hc rfl

theorem Explained.closing {c : Checked α} (h : c.Explained) (fields : Record)
    (known : List String) : (c.closing fields known).Explained := by
  intro he
  cases c with
  | ok a =>
    simp only [Checked.closing] at he
    split at he
    · cases he
    · rename_i hn
      rw [Except.error.inj he] at hn
      exact hn rfl
  | error is =>
    obtain ⟨rfl, -⟩ := List.append_eq_nil_iff.mp (Except.error.inj he)
    exact h rfl

theorem explained_required {read : Value → Checked α} (h : ∀ v, (read v).Explained)
    (fields : Record) (key : String) : (required fields key read).Explained := by
  rw [required]
  cases fields.get? key with
  | none => exact explained_error
  | some v => exact (h v).under _

theorem explained_optional {read : Value → Checked α} (h : ∀ v, (read v).Explained)
    (fields : Record) (key : String) (default : α) :
    (optional fields key default read).Explained := by
  rw [optional]
  cases fields.get? key with
  | none => exact explained_ok default
  | some v => exact (h v).under _

theorem explained_indexed {read : α → Checked β} {as : List α}
    (h : ∀ a ∈ as, (read a).Explained) (start : Nat) : (indexed read start as).Explained := by
  induction as generalizing start with
  | nil => exact explained_ok []
  | cons a rest ih =>
    have ha := h a (List.mem_cons_self ..)
    have hrest := ih (fun b hb => h b (List.mem_cons_of_mem _ hb)) (start + 1)
    exact ((ha.under (.index start)).both hrest).map _

end DataFetch.Checked
