import DataFetch.Proofs.Statement.Quotation

/-! # Statements as a lexer reads them

A lexer that knows names between backticks and placeholders outside of them. A template says what a
statement is made of: fixed text, names and bound values. Main statement: whatever the names are, the
text of a template that keeps its names apart is read as the tokens of the template.
-/
namespace DataFetch

inductive Token where
  /-- A character that is no part of a name and no placeholder. -/
  | plain (c : Char)
  | name (n : String)
  /-- A placeholder. -/
  | mark
  deriving DecidableEq, Repr

namespace Token

def ofChar (c : Char) : Token :=
  if c = '?' then mark else plain c

def name? : Token → Option String
  | name n => some n
  | _ => none

/-- The tokens of what is left of a statement. A name that is not closed has none. -/
def scan : List Char → Option (List Token)
  | [] => some []
  | c :: cs =>
    if c = '`' then
      match _ : readQuoted? cs with
      | none => none
      | some (n, after) => (scan after).map (name (String.ofList n) :: ·)
    else (scan cs).map (ofChar c :: ·)
termination_by cs => cs.length
decreasing_by
  · exact Nat.lt_succ_of_lt (length_lt_of_readQuoted? ‹_›)
  · exact Nat.lt_succ_self cs.length

def ofText (s : String) : Option (List Token) :=
  scan s.toList

section

variable {cs rest n : List Char}

theorem scan_nil : scan [] = some [] := by
  rw [scan]

theorem scan_cons {c : Char} (h : c ≠ '`') : scan (c :: cs) = (scan cs).map (ofChar c :: ·) := by
  rw [scan, if_neg h]

theorem scan_quoted (h : readQuoted? cs = some (n, rest)) :
    scan ('`' :: cs) = (scan rest).map (name (String.ofList n) :: ·) := by
  rw [scan, if_pos rfl]
  split <;> simp_all

/-- A quoted name is one token, whatever is in it. -/
theorem scan_quoteIdentifier (n : String) (h : rest.head? ≠ some '`') :
    scan ((quoteIdentifier n).toList ++ rest) = (scan rest).map (name n :: ·) := by
  have hread := readQuoted?_doubleBackticks n.toList h
  rw [toList_quoteIdentifier, List.cons_append, List.append_assoc, List.singleton_append,
    scan_quoted hread, String.ofList_toList]

end

end Token

/-- A text holds no backtick and no placeholder. -/
def Unquoted (s : String) : Prop :=
  '`' ∉ s.toList ∧ '?' ∉ s.toList

instance (s : String) : Decidable (Unquoted s) :=
  inferInstanceAs (Decidable ('`' ∉ s.toList ∧ '?' ∉ s.toList))

theorem Unquoted.append {s t : String} (hs : Unquoted s) (ht : Unquoted t) : Unquoted (s ++ t) := by
  simp only [Unquoted, String.toList_append, List.mem_append, not_or]
  exact ⟨⟨hs.1, ht.1⟩, hs.2, ht.2⟩

theorem Token.scan_unquoted {s : String} (h : Unquoted s) (rest : List Char) :
    scan (s.toList ++ rest) = (scan rest).map (s.toList.map plain ++ ·) := by
  obtain ⟨hb, hq⟩ := h
  generalize s.toList = cs at hb hq ⊢
  induction cs with
  | nil => simp
  | cons c cs ih =>
    rw [List.mem_cons, not_or] at hb hq
    have hplain : ofChar c = plain c := if_neg (Ne.symm hq.1)
    rw [List.cons_append, scan_cons (Ne.symm hb.1), ih hb.2 hq.2, Option.map_map, hplain]
    rfl

/-! ## Templates -/

/-- A part of a template. -/
inductive Slot where
  | fixed (text : String)
  | name (n : String)
  | bound (v : Value)

namespace Slot

def text : Slot → String
  | fixed s => s
  | name n => quoteIdentifier n
  | bound _ => "?"

def tokens : Slot → List Token
  | fixed s => s.toList.map .plain
  | name n => [.name n]
  | bound _ => [.mark]

def value? : Slot → Option Value
  | bound v => some v
  | _ => none

def name? : Slot → Option String
  | name n => some n
  | _ => none

/-- The names among the tokens of a part. -/
theorem names_tokens (slot : Slot) : slot.tokens.filterMap Token.name? = slot.name?.toList := by
  cases slot with
  | fixed s => simp [tokens, name?, Token.name?]
  | name n | bound v => rfl

end Slot

/-- What a statement is made of, from left to right. -/
abbrev Template := List Slot

namespace Template

variable {t u : Template}

def text : Template → String
  | [] => ""
  | slot :: rest => slot.text ++ text rest

def tokens (t : Template) : List Token :=
  t.flatMap Slot.tokens

def values (t : Template) : List Value :=
  t.filterMap Slot.value?

def names (t : Template) : List String :=
  t.filterMap Slot.name?

/-- The templates one after another with commas between them. -/
def listed (parts : List Template) : Template :=
  [.fixed ", "].intercalate parts

theorem text_append (t u : Template) : text (t ++ u) = t.text ++ u.text := by
  induction t with
  | nil => exact String.empty_append.symm
  | cons slot rest ih => rw [List.cons_append, text, text, ih, String.append_assoc]

theorem text_listed (parts : List Template) :
    text (listed parts) = ", ".intercalate (parts.map text) := by
  induction parts with
  | nil => rfl
  | cons part rest ih =>
    cases rest with
    | nil => rw [listed, List.intercalate_singleton, List.map_singleton, String.intercalate_singleton]
    | cons next rest =>
      have hmap : (part :: next :: rest).map text = text part :: text next :: rest.map text := rfl
      rw [listed, List.intercalate_cons_cons, ← listed, text_append, text_append, ih, hmap,
        String.intercalate_cons_cons]
      rfl

/-- Fixed text has no part in what a list of templates binds or names. -/
theorem filterMap_listed {β : Type} {f : Slot → Option β} (hf : ∀ s, f (.fixed s) = none)
    (parts : List Template) : (listed parts).filterMap f = parts.flatMap (List.filterMap f) := by
  induction parts with
  | nil => rfl
  | cons part rest ih =>
    cases rest with
    | nil => rw [listed, List.intercalate_singleton, List.flatMap_singleton]
    | cons next rest =>
      have hcomma : [Slot.fixed ", "].filterMap f = [] := by rw [List.filterMap_cons, hf]; rfl
      rw [listed, List.intercalate_cons_cons, ← listed, List.filterMap_append, List.filterMap_append,
        ih, hcomma, List.append_nil]
      rfl

/-- There is a placeholder for each value that is bound, and no other. -/
theorem count_mark (t : Template) : t.tokens.count .mark = t.values.length := by
  induction t with
  | nil => rfl
  | cons slot rest ih =>
    have htokens : tokens (slot :: rest) = slot.tokens ++ tokens rest := List.flatMap_cons
    rw [htokens, List.count_append, ih]
    cases slot with
    | fixed s =>
      have hnone : (Slot.fixed s).tokens.count .mark = 0 := by
        simp [Slot.tokens, List.count_eq_zero]
      rw [hnone, Nat.zero_add]
      rfl
    | name n => exact Nat.zero_add _
    | bound v => exact Nat.add_comm 1 _

theorem names_tokens (t : Template) : t.tokens.filterMap Token.name? = t.names := by
  induction t with
  | nil => rfl
  | cons slot rest ih =>
    have htokens : tokens (slot :: rest) = slot.tokens ++ tokens rest := List.flatMap_cons
    rw [htokens, List.filterMap_append, ih, Slot.names_tokens, names, names, List.filterMap_cons]
    cases slot.name? <;> rfl

/-! ## Reading a template -/

/-- What is written does not begin with a backtick. -/
def Apart (t : Template) : Prop :=
  t.text.toList.head? ≠ some '`'

theorem apart_nil : Apart [] :=
  nofun

theorem apart_fixed {s : String} (hs : s ≠ "") (hu : Unquoted s) (rest : Template) :
    Apart (.fixed s :: rest) := by
  rw [Apart, text, Slot.text, String.toList_append]
  cases h : s.toList with
  | nil => exact absurd (String.toList_eq_nil_iff.mp h) hs
  | cons c cs =>
    intro hc
    cases hc
    exact hu.1 (by rw [h]; exact List.mem_cons_self)

/-- Fixed text is unquoted, and no name is followed by a backtick. -/
def Spaced : Template → Prop
  | [] => True
  | .fixed s :: rest => Unquoted s ∧ Spaced rest
  | .name _ :: rest => Apart rest ∧ Spaced rest
  | .bound _ :: rest => Spaced rest

theorem Apart.append (ht : t.Apart) (hu : u.Apart) : Apart (t ++ u) := by
  rw [Apart, text_append, String.toList_append]
  cases h : t.text.toList with
  | nil => exact hu
  | cons c cs =>
    rw [Apart, h] at ht
    exact ht

theorem Spaced.append (ht : t.Spaced) (hu : u.Spaced) (ha : u.Apart) : Spaced (t ++ u) := by
  induction t with
  | nil => exact hu
  | cons slot rest ih =>
    cases slot with
    | fixed s => exact ⟨ht.1, ih ht.2⟩
    | name n => exact ⟨ht.1.append ha, ih ht.2⟩
    | bound v => exact ih ht

theorem spaced_listed {parts : List Template} (h : ∀ t ∈ parts, t.Spaced) : (listed parts).Spaced := by
  induction parts with
  | nil => exact trivial
  | cons part rest ih =>
    have hpart := h part List.mem_cons_self
    have hrest := ih fun t ht => h t (List.mem_cons_of_mem _ ht)
    cases rest with
    | nil => rwa [listed, List.intercalate_singleton]
    | cons next rest =>
      have hcomma : Spaced (.fixed ", " :: listed (next :: rest)) := ⟨by decide, hrest⟩
      have hapart : Apart (.fixed ", " :: listed (next :: rest)) :=
        apart_fixed (by decide) (by decide) _
      rw [listed, List.intercalate_cons_cons, ← listed, List.append_assoc]
      exact hpart.append hcomma hapart

/-- A template is read as what it is made of, whatever its names are. -/
theorem ofText_text (h : t.Spaced) : Token.ofText t.text = some t.tokens := by
  induction t with
  | nil => exact Token.scan_nil
  | cons slot rest ih =>
    have htokens : tokens (slot :: rest) = slot.tokens ++ tokens rest := List.flatMap_cons
    rw [Token.ofText, text, String.toList_append, htokens]
    cases slot with
    | fixed s =>
      rw [Slot.text, Token.scan_unquoted h.1, ← Token.ofText, ih h.2, Option.map_some, Slot.tokens]
    | name n =>
      rw [Slot.text, Token.scan_quoteIdentifier n h.1, ← Token.ofText, ih h.2, Option.map_some,
        Slot.tokens, List.singleton_append]
    | bound v =>
      have hmark : Token.scan ("?".toList ++ (text rest).toList) =
          (Token.ofText (text rest)).map (.mark :: ·) := Token.scan_cons (by decide)
      rw [Slot.text, hmark, ih h, Option.map_some]
      rfl

example : Token.ofText "`a``?`=?" = some [.name "a`?", .plain '=', .mark] := by cbv

end Template

end DataFetch
