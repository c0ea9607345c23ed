import DataFetch.Statement.Dialect
import Mathlib.Data.List.TakeWhile

/-! # Where a quoted name ends

A reader for the first name between backticks in a text. Both backends quote names in the same way, so
there is one reader. Main statement: a text is read as some text, a name and the text behind it exactly
when it is these three with the name quoted, as long as no backtick stands in front of the name and none
directly behind it. No name can end its quotation early, and none can reach beyond it.
-/
namespace DataFetch

/-- What is inside a quotation, from behind its opening backtick, and what stands behind it. Two
backticks are one of the name, a single one ends it, and a name that is not ended is none. -/
def readQuoted? : List Char → Option (List Char × List Char)
  | [] => none
  | '`' :: '`' :: cs => (readQuoted? cs).map fun (name, after) => ('`' :: name, after)
  | '`' :: cs => some ([], cs)
  | c :: cs => (readQuoted? cs).map fun (name, after) => (c :: name, after)

/-- A name in a text. -/
structure Quotation where
  before : String
  name : String
  after : String
  deriving DecidableEq, Repr

namespace Quotation

/-- The first name between backticks. -/
def first? (text : String) : Option Quotation :=
  match text.toList.dropWhile (· ≠ '`') with
  | [] => none
  | _ :: cs => (readQuoted? cs).map fun (name, after) =>
    ⟨.ofList (text.toList.takeWhile (· ≠ '`')), .ofList name, .ofList after⟩

end Quotation

theorem doubleBackticks_cons (c : Char) (cs : List Char) :
    doubleBackticks (c :: cs) = (if c = '`' then ['`', '`'] else [c]) ++ doubleBackticks cs :=
  List.flatMap_cons

section

variable {c : Char} {cs name after : List Char}

theorem readQuoted?_single (h : cs.head? ≠ some '`') : readQuoted? ('`' :: cs) = some ([], cs) := by
  cases cs with
  | nil => rfl
  | cons c cs =>
    have hc : c ≠ '`' := fun hc => h (congrArg some hc)
    simp [readQuoted?, hc]

theorem readQuoted?_cons (hc : c ≠ '`') :
    readQuoted? (c :: cs) = (readQuoted? cs).map fun (name, after) => (c :: name, after) := by
  simp [readQuoted?, hc]

theorem readQuoted?_doubleBackticks (name : List Char) (h : after.head? ≠ some '`') :
    readQuoted? (doubleBackticks name ++ '`' :: after) = some (name, after) := by
  induction name with
  | nil => exact readQuoted?_single h
  | cons c name ih =>
    rw [doubleBackticks_cons, List.append_assoc]
    by_cases hc : c = '`'
    · subst hc
      simp [readQuoted?, ih]
    · rw [if_neg hc, List.singleton_append, readQuoted?_cons hc, ih]
      rfl

/-- Whatever is read was written so. -/
theorem eq_of_readQuoted? (h : readQuoted? cs = some (name, after)) :
    cs = doubleBackticks name ++ '`' :: after ∧ after.head? ≠ some '`' := by
  fun_induction readQuoted? cs generalizing name with
  | case1 => cases h
  | case2 cs ih =>
    obtain ⟨⟨read, rest⟩, hread, he⟩ := Option.map_eq_some_iff.mp h
    cases he
    obtain ⟨rfl, hrest⟩ := ih hread
    exact ⟨by simp [doubleBackticks_cons], hrest⟩
  | case3 cs hcs =>
    cases h
    refine ⟨rfl, fun hhead => ?_⟩
    obtain ⟨rest, rfl⟩ := List.head?_eq_some_iff.mp hhead
    exact hcs rest rfl
  | case4 c cs _ hc ih =>
    obtain ⟨⟨read, rest⟩, hread, he⟩ := Option.map_eq_some_iff.mp h
    cases he
    obtain ⟨rfl, hrest⟩ := ih hread
    have hplain : c ≠ '`' := hc
    exact ⟨by simp [doubleBackticks_cons, hplain], hrest⟩

theorem readQuoted?_eq_some_iff :
    readQuoted? cs = some (name, after) ↔
      cs = doubleBackticks name ++ '`' :: after ∧ after.head? ≠ some '`' := by
  refine ⟨eq_of_readQuoted?, ?_⟩
  rintro ⟨rfl, h⟩
  exact readQuoted?_doubleBackticks name h

theorem length_lt_of_readQuoted? (h : readQuoted? cs = some (name, after)) :
    after.length < cs.length := by
  obtain ⟨rfl, -⟩ := eq_of_readQuoted? h
  simp only [List.length_append, List.length_cons]
  omega

end

theorem toList_quoteIdentifier (name : String) :
    (quoteIdentifier name).toList = '`' :: (doubleBackticks name.toList ++ ['`']) := by
  rw [quoteIdentifier, String.toList_ofList, List.cons_append]

namespace Quotation

def text (q : Quotation) : String :=
  q.before ++ quoteIdentifier q.name ++ q.after

/-- The name is the first in its text, and the backtick behind it is a single one. -/
structure Apart (q : Quotation) : Prop where
  before : '`' ∉ q.before.toList
  after : q.after.toList.head? ≠ some '`'

theorem toList_text (q : Quotation) :
    q.text.toList =
      q.before.toList ++ '`' :: (doubleBackticks q.name.toList ++ '`' :: q.after.toList) := by
  simp [text, toList_quoteIdentifier]

theorem first?_text {q : Quotation} (h : q.Apart) : first? q.text = some q := by
  have hp : ∀ c ∈ q.before.toList, (decide (c ≠ '`')) = true := fun c hc =>
    decide_eq_true fun he => h.before (he ▸ hc)
  rw [first?, toList_text, List.dropWhile_append_of_pos hp, List.takeWhile_append_of_pos hp]
  simp [readQuoted?_doubleBackticks q.name.toList h.after]

theorem eq_of_first? {s : String} {q : Quotation} (h : first? s = some q) : q.text = s ∧ q.Apart := by
  have hs := List.takeWhile_append_dropWhile (p := fun c => decide (c ≠ '`')) (l := s.toList)
  rw [first?] at h
  split at h
  · cases h
  · rename_i c cs hcs
    obtain ⟨⟨name, after⟩, hread, rfl⟩ := Option.map_eq_some_iff.mp h
    obtain ⟨rfl, hafter⟩ := readQuoted?_eq_some_iff.mp hread
    have hc : c = '`' := by
      have hhead := List.head?_dropWhile_not (fun c => decide (c ≠ '`')) s.toList
      rw [hcs] at hhead
      simpa using hhead
    refine ⟨String.toList_inj.mp ?_, ?_, ?_⟩
    · rw [hcs, hc] at hs
      simpa [toList_text] using hs
    · rw [String.toList_ofList]
      intro hmem
      simpa using List.mem_takeWhile_imp hmem
    · rwa [String.toList_ofList]

theorem first?_eq_some_iff {s : String} {q : Quotation} : first? s = some q ↔ q.text = s ∧ q.Apart := by
  refine ⟨eq_of_first?, ?_⟩
  rintro ⟨rfl, h⟩
  exact first?_text h

/-- What is read in a text is what was quoted in it, so that different names have different quotations,
also in front of different texts. -/
theorem quoted_names_delimit_themselves :
    (∀ name after : String, after.toList.head? ≠ some '`' →
      first? (quoteIdentifier name ++ after) = some ⟨"", name, after⟩) ∧
    (∀ s q, first? s = some q ↔ q.text = s ∧ q.Apart) ∧
    Function.Injective quoteIdentifier ∧
    ∀ name other after more : String,
      after.toList.head? ≠ some '`' → more.toList.head? ≠ some '`' →
      quoteIdentifier name ++ after = quoteIdentifier other ++ more → name = other ∧ after = more := by
  have hread : ∀ name after : String, after.toList.head? ≠ some '`' →
      first? (quoteIdentifier name ++ after) = some ⟨"", name, after⟩ := by
    intro name after h
    have hq : Apart ⟨"", name, after⟩ := ⟨by simp, h⟩
    have ht : text ⟨"", name, after⟩ = quoteIdentifier name ++ after := by simp [text]
    rw [← ht, first?_text hq]
  have hcancel : ∀ name other after more : String,
      after.toList.head? ≠ some '`' → more.toList.head? ≠ some '`' →
      quoteIdentifier name ++ after = quoteIdentifier other ++ more → name = other ∧ after = more := by
    intro name other after more ha hm h
    have hq := hread name after ha
    rw [h, hread other more hm] at hq
    cases hq
    exact ⟨rfl, rfl⟩
  refine ⟨hread, fun _ _ => first?_eq_some_iff, fun name other h => ?_, hcancel⟩
  exact (hcancel name other "" "" nofun nofun (by rw [h])).1

/-- A name that begins and ends with backticks, in front of another quotation. -/
theorem quoted_names_delimit_themselves_next_to_another :
    quoteIdentifier "`a``" = "```a`````" ∧ ", `b`".toList.head? ≠ some '`' ∧
      first? "```a`````, `b`" = some ⟨"", "`a``", ", `b`"⟩ ∧
      first? "SELECT ```a`````, `b`" = some ⟨"SELECT ", "`a``", ", `b`"⟩ := by
  obtain ⟨hread, hiff, -, -⟩ := quoted_names_delimit_themselves
  exact ⟨by decide, by decide, hread "`a``" ", `b`" (by decide),
    (hiff _ _).mpr ⟨by decide, by decide, by decide⟩⟩

end Quotation

end DataFetch
