import DataFetch.Engine.Rows
import DataFetch.Proofs.Outcome
import Mathlib.Data.List.Forall2

/-! # How many rows a statement yields

A reply with columns yields as many records as it has rows, and one without columns none. Rows that have
a value for every column can be read by name.
-/
namespace DataFetch

namespace Rows

theorem sameName_self (a : String) : sameName a a = true := by
  simp [sameName]

theorem exists_named {columns : List String} {values : List Value} {c : String}
    (hlen : columns.length ≤ values.length) (hc : c ∈ columns) :
    ∃ v, named columns values c = .ok v := by
  have hindex : (columns.findIdx fun d => sameName d c) < columns.length :=
    List.findIdx_lt_length_of_exists ⟨c, hc, sameName_self c⟩
  have hbound := Nat.lt_of_lt_of_le hindex hlen
  rw [named, List.getElem?_eq_getElem hbound]
  exact ⟨_, rfl⟩

theorem exists_byName {columns : List String} {values : List Value}
    (hlen : columns.length ≤ values.length) : ∃ r, byName columns values = .ok r := by
  -- the columns that are still to be read are among those that decide where a value stands
  have hread : ∀ (rest : List String) (acc : Record), (∀ c ∈ rest, c ∈ columns) →
      ∃ r, rest.foldlM (fun acc c => (named columns values c).map (Record.put acc c)) acc = .ok r := by
    intro rest
    induction rest with
    | nil => exact fun acc _ => ⟨acc, rfl⟩
    | cons c rest ih =>
      intro acc hrest
      obtain ⟨v, hv⟩ := exists_named hlen (hrest c List.mem_cons_self)
      obtain ⟨r, hr⟩ := ih (Record.put acc c v) fun d hd => hrest d (List.mem_cons_of_mem c hd)
      refine ⟨r, ?_⟩
      rw [List.foldlM_cons, hv]
      exact hr
  exact hread columns [] fun _ h => h

/-- Rows are read one by one. -/
theorem forall₂_of_mapM {α β : Type} {f : α → Except Misuse β} {as : List α} {bs : List β}
    (h : as.mapM f = .ok bs) : List.Forall₂ (fun a b => f a = .ok b) as bs := by
  induction as generalizing bs with
  | nil =>
    cases h
    exact .nil
  | cons a rest ih =>
    rw [List.mapM_cons, Outcome.bind_eq_ok_iff] at h
    obtain ⟨b, hb, h⟩ := h
    obtain ⟨others, hothers, h⟩ := Outcome.bind_eq_ok_iff.mp h
    cases h
    exact .cons hb (ih hothers)

end Rows

namespace StatementReply

def yielded (r : StatementReply) : Nat :=
  if r.hasColumns then r.rows.length else 0

/-- Every row has a value for every column. -/
def Wide (r : StatementReply) : Prop :=
  ∀ values ∈ r.rows, (r.columns.getD []).length ≤ values.length

theorem length_of_rowsByName {r : StatementReply} {records : List Record}
    (h : r.rowsByName = .ok records) : records.length = r.yielded := by
  rw [rowsByName] at h
  rw [yielded]
  cases hc : r.hasColumns with
  | true =>
    rw [hc, if_pos rfl] at h
    rw [if_pos rfl, (Rows.forall₂_of_mapM h).length_eq]
  | false =>
    rw [hc, if_neg Bool.false_ne_true] at h
    cases h
    rfl

theorem exists_rowsByName {r : StatementReply} (h : r.Wide) :
    ∃ records, r.rowsByName = .ok records := by
  rw [rowsByName]
  cases r.hasColumns with
  | false => exact ⟨[], rfl⟩
  | true =>
    rw [if_pos rfl]
    have hrows : ∀ rows : List (List Value),
        (∀ values ∈ rows, (r.columns.getD []).length ≤ values.length) →
        ∃ records, rows.mapM (Rows.byName (r.columns.getD [])) = .ok records := by
      intro rows
      induction rows with
      | nil => exact fun _ => ⟨[], rfl⟩
      | cons values rest ih =>
        intro hall
        obtain ⟨record, hrecord⟩ := Rows.exists_byName (hall values List.mem_cons_self)
        obtain ⟨others, hothers⟩ := ih fun v hv => hall v (List.mem_cons_of_mem values hv)
        refine ⟨record :: others, ?_⟩
        rw [List.mapM_cons]
        refine Outcome.bind_eq_ok_iff.mpr ⟨record, hrecord, ?_⟩
        exact Outcome.bind_eq_ok_iff.mpr ⟨others, hothers, rfl⟩
    exact hrows r.rows h

theorem length_rowsInTurn (r : StatementReply) : r.rowsInTurn.length = r.rows.length :=
  List.length_map _

end StatementReply

end DataFetch
