import DataFetch.Proofs.Text.Utf8
import DataFetch.Proofs.Validation.Combination
import DataFetch.Validation.Scalar

/-! # What single values stand for

Texts, words and counts are read from more values than those that are written for them. Here the values
that stand for each are listed; main statements: a reading succeeds exactly with what the value stands
for, and otherwise names an issue.
-/
namespace DataFetch

open Outcome Checked

namespace Value

/-- The value stands for a text: it is one, or the bytes that encode it, or a symbol of that name. -/
inductive Spells : Value → String → Prop where
  | text (s : String) : Spells (.text s) s
  | bytes {bs : List UInt8} {s : String} (h : Text.encodeUtf8 s.toList = bs) : Spells (.bytes bs) s
  | symbol (b : Backend) : Spells (.backend b) b.name

/-- The value stands for a word: texts in any case do, bytes only when they encode it as it is. -/
inductive SpellsWord : Value → String → Prop where
  | text (s : String) : SpellsWord (.text s) (Text.upper s)
  | bytes {bs : List UInt8} {s : String} (h : Text.encodeUtf8 s.toList = bs) :
    SpellsWord (.bytes bs) s
  | symbol (b : Backend) : SpellsWord (.backend b) (Text.upper b.name)

/-- The value stands for a count that may be absent: null for none, and what is read as a whole number
that is not negative for that number. -/
inductive Counts : Value → Option Nat → Prop where
  | null : Counts .null none
  | whole {v : Value} {n : Nat} (h : Validation.readInteger v = .ok n) : Counts v (some n)

end Value

namespace Validation

variable {v : Value}

theorem ofUtf8?_eq_some_iff {bs : List UInt8} {s : String} :
    Text.ofUtf8? bs = some s ↔ Text.encodeUtf8 s.toList = bs := by
  rw [Text.ofUtf8?, toOption_eq_some_iff, Text.decodeUtf8_eq_ok_iff]

/-! ## Texts -/

theorem readText_eq_ok_iff {s : String} : readText v = .ok s ↔ v.Spells s := by
  constructor
  · intro h
    cases v with
    | text t =>
      cases h
      exact .text s
    | backend b =>
      cases h
      exact .symbol b
    | bytes bs =>
      simp only [readText] at h
      cases hb : Text.ofUtf8? bs with
      | none =>
        rw [hb] at h
        cases h
      | some t =>
        rw [hb] at h
        cases h
        exact .bytes (ofUtf8?_eq_some_iff.mp hb)
    | null | bool | int | float | list | object => cases h
  · intro h
    cases h with
    | text => rfl
    | symbol b => rfl
    | bytes h => rw [readText, ofUtf8?_eq_some_iff.mpr h]

theorem explained_readText (v : Value) : (readText v).Explained := by
  cases v with
  | text s => exact explained_ok s
  | backend b => exact explained_ok b.name
  | bytes bs =>
    rw [readText]
    cases Text.ofUtf8? bs with
    | none => exact explained_refuse _
    | some s => exact explained_ok s
  | null | bool | int | float | list | object => exact explained_refuse _

theorem readItems_eq_ok_iff {items : List Value} : readItems v = .ok items ↔ v = .list items := by
  constructor
  · intro h
    cases v with
    | list vs =>
      cases h
      rfl
    | null | bool | int | float | text | bytes | object | backend => cases h
  · rintro rfl
    rfl

theorem explained_readItems (v : Value) : (readItems v).Explained := by
  cases v with
  | list items => exact explained_ok items
  | null | bool | int | float | text | bytes | object | backend => exact explained_refuse _

/-! ## Words -/

/-- The word that is looked up for a value. -/
def wordOf? (recase : String → String) : Value → Option String
  | .bytes bs => Text.ofUtf8? bs
  | v => v.asText?.map recase

theorem wordOf?_eq_some_iff {word : String} :
    wordOf? Text.upper v = some word ↔ v.SpellsWord word := by
  constructor
  · intro h
    cases v with
    | text t =>
      cases h
      exact .text t
    | backend b =>
      cases h
      exact .symbol b
    | bytes bs => exact .bytes (ofUtf8?_eq_some_iff.mp h)
    | null | bool | int | float | list | object => cases h
  · intro h
    cases h with
    | text t => rfl
    | symbol b => rfl
    | bytes h => exact ofUtf8?_eq_some_iff.mpr h

theorem readWord_eq_elim {α : Type} (vocabulary : Vocabulary α) (v : Value) :
    readWord vocabulary Text.upper v =
      ((wordOf? Text.upper v).bind fun word => vocabulary.lookup word).elim
        (refuse (.notMember (vocabulary.map (·.1)))) .ok := by
  cases v
  all_goals
    simp only [readWord, wordOf?]
    split
    · rename_i h
      rw [h]
      rfl
    · rename_i h
      rw [h]
      rfl

theorem readWord_eq_ok_iff {α : Type} {vocabulary : Vocabulary α} {a : α} :
    readWord vocabulary Text.upper v = .ok a ↔
      ∃ word, v.SpellsWord word ∧ vocabulary.lookup word = some a := by
  simp only [← wordOf?_eq_some_iff]
  rw [readWord_eq_elim, ← Option.bind_eq_some_iff]
  cases (wordOf? Text.upper v).bind fun word => vocabulary.lookup word with
  | none => simp [refuse]
  | some b => simp

/-- Where every meaning has one word, the word that a value stands for decides. -/
theorem readWord_eq_ok_iff_of_lookup {α : Type} {vocabulary : Vocabulary α} {wordOf : α → String}
    (h : ∀ word a, vocabulary.lookup word = some a ↔ word = wordOf a) {a : α} :
    readWord vocabulary Text.upper v = .ok a ↔ v.SpellsWord (wordOf a) := by
  rw [readWord_eq_ok_iff]
  simp only [h, exists_eq_right]

theorem lookup_pair_eq_some_iff {α : Type} {a b word : String} {x y z : α} (h : a ≠ b) :
    List.lookup word [(a, x), (b, y)] = some z ↔ word = a ∧ x = z ∨ word = b ∧ y = z := by
  by_cases ha : word = a
  · subst ha
    simp [h]
  · have hna : (word == a) = false := beq_false_of_ne ha
    by_cases hb : word = b
    · subst hb
      simp [List.lookup_cons, ha, hna]
    · have hnb : (word == b) = false := beq_false_of_ne hb
      simp [List.lookup_cons, ha, hb, hna, hnb]

theorem explained_readWord {α : Type} (vocabulary : Vocabulary α) (recase : String → String)
    (v : Value) : (readWord vocabulary recase v).Explained := by
  simp only [readWord]
  split
  · exact explained_ok _
  · exact explained_refuse _

/-! ## Whole numbers within bounds, and counts -/

theorem readBounded_eq_ok_iff {least : Int} {most : Option Int} {n : Int} :
    readBounded least most v = .ok n ↔ readInteger v = .ok n ∧ least ≤ n ∧ ∀ m ∈ most, n ≤ m := by
  rw [readBounded]
  cases readInteger v with
  | error is => simp
  | ok m =>
    cases most with
    | none =>
      simp only
      split <;> simp [Checked.refuse] <;> omega
    | some top =>
      simp only
      split
      · simp [Checked.refuse]
        omega
      · split <;> simp [Checked.refuse] <;> omega

theorem readCount_eq_ok_iff {n : Nat} : readCount v = .ok n ↔ readInteger v = .ok (n : Int) := by
  rw [readCount, map_eq_ok_iff]
  constructor
  · rintro ⟨m, hm, rfl⟩
    obtain ⟨hread, hle⟩ := readBounded_ok hm
    rw [hread, Int.toNat_of_nonneg hle]
  · intro h
    have hn : ¬ (n : Int) < 0 := by omega
    exact ⟨n, by simp [readBounded, h, hn], by simp⟩

theorem readNullable_readCount_eq_ok_iff {count : Option Nat} :
    readNullable readCount v = .ok count ↔ v.Counts count := by
  constructor
  · intro h
    unfold readNullable at h
    split at h
    · cases h
      exact .null
    · obtain ⟨n, hn, rfl⟩ := map_eq_ok_iff.mp h
      exact .whole (readCount_eq_ok_iff.mp hn)
  · intro h
    cases h with
    | null => rfl
    | whole h =>
      have hn : v ≠ .null := by
        rintro rfl
        exact nomatch h
      rw [readNullable, readCount_eq_ok_iff.mpr h]
      · rfl
      · exact hn

theorem explained_readNumeral (s : String) : (readNumeral s).Explained := by
  simp only [readNumeral]
  split
  · exact explained_refuse _
  · split
    · exact explained_ok _
    · exact explained_refuse _

theorem explained_readInteger (v : Value) : (readInteger v).Explained := by
  cases v with
  | int n => exact explained_ok n
  | bool b => exact explained_ok _
  | float x =>
    simp only [readInteger]
    split
    · exact explained_refuse _
    · split
      · exact explained_refuse _
      · split
        · exact explained_ok _
        · exact explained_refuse _
  | text s => exact explained_readNumeral s
  | backend b => exact explained_readNumeral b.name
  | bytes bs =>
    simp only [readInteger]
    split
    · exact explained_readNumeral _
    · exact explained_refuse _
  | null | list | object => exact explained_refuse _

theorem explained_readCount (v : Value) : (readCount v).Explained := by
  have hb : Explained (readBounded 0 none v) := by
    unfold readBounded
    cases h : readInteger v with
    | error is =>
      have he := explained_readInteger v
      rwa [h] at he
    | ok n =>
      dsimp only
      split
      · exact explained_refuse _
      · exact explained_ok n
  exact hb.map _

theorem explained_readNullable {α : Type} {read : Value → Checked α} (h : ∀ v, (read v).Explained)
    (v : Value) : (readNullable read v).Explained := by
  unfold readNullable
  split
  · exact explained_ok none
  · exact (h _).map _

end Validation

end DataFetch
