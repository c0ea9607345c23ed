import DataFetch.Proofs.Statement.Elision
import Mathlib.Data.List.Forall2

/-! # Placeholders and bound values

A driver binds the values of a statement to its placeholders from left to right. Here the binding is
carried out on the text: each placeholder is replaced by some form of its value in one pass, which
fails when a placeholder or a value is left over. Main statement: filling a whole statement is the same
as filling every fragment with its own values and writing the result.
-/
namespace DataFetch

/-! ## Texts without placeholders -/

/-- A text holds no placeholder. -/
def Unmarked (s : String) : Prop :=
  '?' ∉ s.toList

instance (s : String) : Decidable (Unmarked s) :=
  inferInstanceAs (Decidable ('?' ∉ s.toList))

theorem Unmarked.append {s t : String} (hs : Unmarked s) (ht : Unmarked t) : Unmarked (s ++ t) := by
  rw [Unmarked, String.toList_append, List.mem_append, not_or]
  exact ⟨hs, ht⟩

theorem Unmarked.intercalate {separator : String} (hs : Unmarked separator) {parts : List String}
    (h : ∀ t ∈ parts, Unmarked t) : Unmarked (separator.intercalate parts) := by
  induction parts with
  | nil =>
    rw [String.intercalate_nil]
    decide
  | cons t rest ih =>
    have ht := h t (List.mem_cons_self ..)
    have hrest := ih fun u hu => h u (List.mem_cons_of_mem _ hu)
    cases rest with
    | nil => simpa using ht
    | cons u rest =>
      rw [String.intercalate_cons_cons]
      exact (ht.append hs).append hrest

theorem unmarked_showInt (n : Int) : Unmarked (Value.showInt n) := by
  have hd : '?' ∉ Nat.toDigits 10 n.natAbs := by
    intro h
    have := Nat.isDigit_of_mem_toDigits (by decide) (by decide) h
    exact absurd this (by decide)
  rw [Unmarked, Value.showInt, String.toList_ofList]
  split
  · rw [List.mem_cons, not_or]
    exact ⟨by decide, hd⟩
  · exact hd

/-! ## Filling -/

/-- The text with its placeholders replaced in order, if there is one for each value. -/
def fillChars? (form : Value → String) : List Char → List Value → Option (List Char)
  | [], vs => if vs.isEmpty then some [] else none
  | c :: cs, vs =>
    if c = '?' then
      match vs with
      | [] => none
      | v :: rest => (fillChars? form cs rest).map ((form v).toList ++ ·)
    else (fillChars? form cs vs).map (c :: ·)

theorem fillChars?_value (form : Value → String) (cs : List Char) (v : Value) (vs : List Value) :
    fillChars? form ('?' :: cs) (v :: vs) = (fillChars? form cs vs).map ((form v).toList ++ ·) := rfl

theorem fillChars?_char (form : Value → String) {c : Char} (h : c ≠ '?') (cs : List Char)
    (vs : List Value) : fillChars? form (c :: cs) vs = (fillChars? form cs vs).map (c :: ·) := by
  cases vs <;> simp [fillChars?, h]

theorem fillChars?_append {form : Value → String} {cs ds xs ys : List Char} {vs ws : List Value}
    (hc : fillChars? form cs vs = some xs) (hd : fillChars? form ds ws = some ys) :
    fillChars? form (cs ++ ds) (vs ++ ws) = some (xs ++ ys) := by
  induction cs generalizing vs xs with
  | nil =>
    cases vs with
    | nil =>
      cases hc
      exact hd
    | cons v vs => cases hc
  | cons c cs ih =>
    by_cases hq : c = '?'
    · subst hq
      cases vs with
      | nil => cases hc
      | cons v vs =>
        rw [fillChars?_value] at hc
        obtain ⟨zs, hz, rfl⟩ := Option.map_eq_some_iff.mp hc
        rw [List.cons_append, List.cons_append, fillChars?_value, ih hz, Option.map_some,
          List.append_assoc]
    · rw [fillChars?_char form hq] at hc
      obtain ⟨zs, hz, rfl⟩ := Option.map_eq_some_iff.mp hc
      rw [List.cons_append, fillChars?_char form hq, ih hz, Option.map_some, List.cons_append]

theorem fillChars?_of_not_mem (form : Value → String) {cs : List Char} (h : '?' ∉ cs) :
    fillChars? form cs [] = some cs := by
  induction cs with
  | nil => rfl
  | cons c cs ih =>
    rw [List.mem_cons, not_or] at h
    rw [fillChars?_char form (Ne.symm h.1), ih h.2, Option.map_some]

/-- Filling succeeds when there are as many placeholders as values. -/
theorem fillChars?_of_count (form : Value → String) {cs : List Char} {vs : List Value}
    (h : cs.count '?' = vs.length) : ∃ xs, fillChars? form cs vs = some xs := by
  induction cs generalizing vs with
  | nil =>
    have hv : vs = [] := List.length_eq_zero_iff.mp h.symm
    subst hv
    exact ⟨[], rfl⟩
  | cons c cs ih =>
    by_cases hq : c = '?'
    · subst hq
      rw [List.count_cons_self] at h
      cases vs with
      | nil => cases h
      | cons v vs =>
        obtain ⟨xs, hx⟩ := ih (Nat.succ.inj h)
        exact ⟨_, by rw [fillChars?_value, hx, Option.map_some]⟩
    · rw [List.count_cons_of_ne hq] at h
      obtain ⟨xs, hx⟩ := ih h
      exact ⟨_, by rw [fillChars?_char form hq, hx, Option.map_some]⟩

namespace Command

/-- The text with a form of each value in the place of its placeholder. -/
def fill? (form : Value → String) (c : Command) : Option String :=
  (fillChars? form c.text.toList c.params).map String.ofList

variable {form : Value → String}

theorem fill?_eq_some_iff {c : Command} {t : String} :
    c.fill? form = some t ↔ fillChars? form c.text.toList c.params = some t.toList := by
  rw [fill?, Option.map_eq_some_iff]
  constructor
  · rintro ⟨xs, hx, rfl⟩
    rw [hx, String.toList_ofList]
  · intro h
    exact ⟨t.toList, h, String.ofList_toList⟩

theorem fill?_append {c d : Command} {s t : String} (hc : c.fill? form = some s)
    (hd : d.fill? form = some t) :
    (⟨c.text ++ d.text, c.params ++ d.params⟩ : Command).fill? form = some (s ++ t) := by
  rw [fill?_eq_some_iff] at hc hd ⊢
  rw [String.toList_append, String.toList_append]
  exact fillChars?_append hc hd

/-- A text without placeholders that binds nothing stays as it is. -/
theorem fill?_fixed {t : String} (h : Unmarked t) : (⟨t, []⟩ : Command).fill? form = some t :=
  fill?_eq_some_iff.mpr (fillChars?_of_not_mem form h)

theorem fill?_behind {opening : String} (ho : Unmarked opening) {c : Command} {s : String}
    (hc : c.fill? form = some s) :
    (⟨opening ++ c.text, c.params⟩ : Command).fill? form = some (opening ++ s) := by
  simpa using fill?_append (fill?_fixed ho) hc

theorem fill?_parenthesized {c : Command} {s : String} (hc : c.fill? form = some s) :
    c.parenthesized.fill? form = some ("(" ++ s ++ ")") := by
  have ho : Unmarked "(" := by decide
  have hl : Unmarked ")" := by decide
  simpa [parenthesized] using fill?_append (fill?_behind ho hc) (fill?_fixed hl)

theorem fill?_join {separator : String} (hs : Unmarked separator) {parts : List Command}
    {texts : List String} (h : List.Forall₂ (fun c t => c.fill? form = some t) parts texts) :
    (join separator parts).fill? form = some (separator.intercalate texts) := by
  induction h with
  | nil => rfl
  | cons hc hrest ih =>
    cases hrest with
    | nil => simpa [join] using hc
    | cons hd hrest =>
      have h := fill?_append (fill?_append hc (fill?_fixed hs)) ih
      simpa [join] using h

end Command

/-- A fragment has one placeholder for each of its values. -/
def Matched (leaf : String × List Value) : Prop :=
  leaf.1.toList.count '?' = leaf.2.length

instance : DecidablePred Matched := fun leaf =>
  inferInstanceAs (Decidable (leaf.1.toList.count '?' = leaf.2.length))

namespace Predicate

/-- The text of a fragment with its own values filled in. -/
def filledText (form : Value → String) (text : String) (params : List Value) : String :=
  ((⟨text, params⟩ : Command).fill? form).getD text

mutual
/-- The condition in which every fragment has its own values filled in. -/
def filled (form : Value → String) : Predicate → Predicate
  | simple text params => simple (filledText form text params) params
  | group operator members => group operator (filledAll form members)

def filledAll (form : Value → String) : List Predicate → List Predicate
  | [] => []
  | p :: rest => p.filled form :: filledAll form rest
end

variable (form : Value → String)

mutual
theorem leaves_filled (p : Predicate) :
    (p.filled form).leaves = p.leaves.map fun l => (filledText form l.1 l.2, l.2) := by
  match p with
  | simple text params => simp [filled, leaves]
  | group operator members => rw [filled, leaves, leaves, leavesOf_filledAll members]

theorem leavesOf_filledAll (ps : List Predicate) :
    leavesOf (filledAll form ps) = (leavesOf ps).map fun l => (filledText form l.1 l.2, l.2) := by
  match ps with
  | [] => simp [filledAll, leavesOf]
  | p :: rest =>
    rw [filledAll, leavesOf, leavesOf, leaves_filled p, leavesOf_filledAll rest, List.map_append]
end

theorem fragments_filledAll_eq_nil_iff (ps : List Predicate) :
    fragments (filledAll form ps) = [] ↔ fragments ps = [] := by
  rw [fragments_eq_nil_iff, fragments_eq_nil_iff, leavesOf_filledAll, List.map_eq_nil_iff]

theorem text_written_filled_eq_empty_iff (p : Predicate) :
    (p.filled form).written.text = "" ↔ p.written.text = "" := by
  rw [text_written_eq_empty_iff, text_written_eq_empty_iff, leaves_filled, List.map_eq_nil_iff]

/-- A fragment that matches its values can be filled. -/
theorem fill?_leaf {text : String} {params : List Value} (h : Matched (text, params)) :
    (⟨text, params⟩ : Command).fill? form = some (filledText form text params) := by
  obtain ⟨xs, hx⟩ := fillChars?_of_count form h
  simp [filledText, Command.fill?, hx]

/-- Filling parts that stand side by side fills each of them. -/
theorem fill?_combine (operator : Operator) {parts : List Command} {texts : List String}
    (h : List.Forall₂ (fun c t => c.fill? form = some t) parts texts) :
    (operator.combine parts).fill? form =
      some ((" " ++ operator.word ++ " ").intercalate texts) :=
  Command.fill?_join (by cases operator <;> decide) h

mutual
/-- Filling what is written of a condition writes the filled condition. -/
theorem fill?_written (p : Predicate) (h : ∀ l ∈ p.leaves, Matched l) :
    p.written.fill? form = some (p.filled form).written.text := by
  match p with
  | simple text params =>
    have hl : Matched (text, params) := h _ (List.mem_singleton_self _)
    exact Command.fill?_parenthesized (fill?_leaf form hl)
  | group operator members =>
    have hm := fill?_fragments members h
    by_cases hn : fragments members = []
    · have hf := (fragments_filledAll_eq_nil_iff form members).mpr hn
      rw [filled, written_group_of_eq hn, written_group_of_eq hf]
      rfl
    · have hf := mt (fragments_filledAll_eq_nil_iff form members).mp hn
      rw [filled, written_group_of_ne hn, written_group_of_ne hf]
      exact Command.fill?_parenthesized (fill?_combine form operator hm)

theorem fill?_fragments (ps : List Predicate) (h : ∀ l ∈ leavesOf ps, Matched l) :
    List.Forall₂ (fun c t => c.fill? form = some t) (fragments ps)
      ((fragments (filledAll form ps)).map (·.text)) := by
  match ps with
  | [] => exact .nil
  | p :: rest =>
    have hp := fill?_written p fun l hl => h l (List.mem_append_left _ hl)
    have hrest := fill?_fragments rest fun l hl => h l (List.mem_append_right _ hl)
    rw [filledAll, fragments, fragments]
    by_cases ht : p.written.text = ""
    · have hf := (text_written_filled_eq_empty_iff form p).mpr ht
      rw [Command.nonempty?_of_eq ht, Command.nonempty?_of_eq hf]
      exact hrest
    · have hf := mt (text_written_filled_eq_empty_iff form p).mp ht
      rw [Command.nonempty?_of_ne ht, Command.nonempty?_of_ne hf]
      exact .cons hp hrest
end

end Predicate

namespace FetchRequest

/-- The request in which every fragment has its own values filled in. -/
def filled (form : Value → String) (r : FetchRequest) : FetchRequest :=
  { r with predicates := Predicate.filledAll form r.predicates }

theorem limit_filled (form : Value → String) (r : FetchRequest) :
    (r.filled form).limit = r.limit := rfl

theorem offset_filled (form : Value → String) (r : FetchRequest) :
    (r.filled form).offset = r.offset := rfl

end FetchRequest

namespace Layout

/-- Nothing but the fragments of a request can hold a placeholder. -/
structure Fixed (layout : Layout) (r : FetchRequest) : Prop where
  columns : Unmarked layout.columns
  separator : Unmarked layout.separator
  unboundedLimit : Unmarked layout.unboundedLimit
  table : Unmarked r.table
  sort : ∀ k ∈ r.sort, Unmarked k.column

theorem unmarked_orderText {sort : List SortKey} (h : ∀ k ∈ sort, Unmarked k.column) :
    Unmarked (orderText sort) := by
  refine Unmarked.append (by decide) (Unmarked.intercalate (by decide) ?_)
  intro t ht
  obtain ⟨k, hk, rfl⟩ := List.mem_map.mp ht
  have hd : Unmarked k.direction.word := by cases k.direction <;> decide
  exact ((h k hk).append (by decide)).append hd

theorem unmarked_windowLines {layout : Layout} (h : Unmarked layout.unboundedLimit)
    (limit offset : Option Nat) :
    ∀ line ∈ layout.windowLines (limit.map numeral) (offset.map numeral), Unmarked line := by
  have hlimit : Unmarked ((limit.map numeral).getD layout.unboundedLimit) := by
    cases limit with
    | none => exact h
    | some n => exact unmarked_showInt n
  intro line hline
  unfold windowLines at hline
  split at hline
  · cases hline
  · rw [List.mem_cons, Option.mem_toList] at hline
    rcases hline with rfl | hline
    · exact Unmarked.append (by decide) hlimit
    · cases offset with
      | none => cases hline
      | some n =>
        cases hline
        exact Unmarked.append (by decide) (unmarked_showInt n)

theorem Fixed.unmarked_closingLines {layout : Layout} {r : FetchRequest} (h : layout.Fixed r) :
    ∀ line ∈ layout.closingLines r, Unmarked line := by
  intro line hline
  rw [closingLines, List.mem_append] at hline
  rcases hline with hline | hline
  · unfold orderLines at hline
    split at hline
    · cases hline
    · rw [List.mem_singleton.mp hline]
      exact unmarked_orderText h.sort
  · exact unmarked_windowLines h.unboundedLimit _ _ line hline

theorem Fixed.unmarked_selectLine {layout : Layout} {r : FetchRequest} (h : layout.Fixed r) :
    Unmarked (layout.selectLine r.table) :=
  ((Unmarked.append (by decide) h.columns).append (by decide)).append h.table

/-- The line of the conditions together with the values that it binds. -/
def whereParts (ps : List Predicate) : List Command :=
  ((Predicate.writeAll? .and ps).map fun c => ⟨"WHERE " ++ c.text, c.params⟩).toList

/-- The lines of a statement with the values that they bind. -/
def parts (layout : Layout) (r : FetchRequest) : List Command :=
  ⟨layout.selectLine r.table, []⟩ :: (whereParts r.predicates ++
    (layout.closingLines r).map fun line => ⟨line, []⟩)

theorem whereParts_of_eq_nil {ps : List Predicate} (h : Predicate.leavesOf ps = []) :
    whereParts ps = [] := by
  rw [whereParts, Predicate.writeAll?,
    Command.nonempty?_of_eq (Predicate.text_writeTogether_eq_empty_iff.mpr h)]
  rfl

theorem whereParts_of_ne_nil {ps : List Predicate} (h : Predicate.leavesOf ps ≠ []) :
    whereParts ps = [⟨"WHERE " ++ (Predicate.writeTogether .and ps).text,
      (Predicate.writeTogether .and ps).params⟩] := by
  rw [whereParts, Predicate.writeAll?,
    Command.nonempty?_of_ne (mt Predicate.text_writeTogether_eq_empty_iff.mp h)]
  rfl

theorem map_text_whereParts (ps : List Predicate) : (whereParts ps).map (·.text) = whereLines ps := by
  by_cases h : Predicate.leavesOf ps = []
  · rw [whereParts_of_eq_nil h, whereLines_eq_nil_iff.mpr h, List.map_nil]
  · rw [whereParts_of_ne_nil h, whereLines_of_ne_nil h, List.map_singleton]

theorem params_whereParts (ps : List Predicate) :
    (whereParts ps).flatMap (·.params) = (Predicate.writeTogether .and ps).params := by
  by_cases h : Predicate.leavesOf ps = []
  · rw [whereParts_of_eq_nil h, Predicate.params_writeTogether, h]
    rfl
  · rw [whereParts_of_ne_nil h, List.flatMap_singleton]

theorem write_eq_join (layout : Layout) (r : FetchRequest) :
    layout.write r = Command.join layout.separator (layout.parts r) := by
  have ht : (layout.parts r).map (·.text) = layout.lines r := by
    simp [parts, lines, map_text_whereParts, Function.comp_def]
  have hp : (layout.parts r).flatMap (·.params) =
      (Predicate.writeTogether .and r.predicates).params := by
    simp [parts, params_whereParts]
  rw [write, Command.join, ht, hp]

theorem fill?_whereParts (form : Value → String) {ps : List Predicate}
    (h : ∀ l ∈ Predicate.leavesOf ps, Matched l) :
    List.Forall₂ (fun c t => c.fill? form = some t) (whereParts ps)
      (whereLines (Predicate.filledAll form ps)) := by
  by_cases hn : Predicate.leavesOf ps = []
  · have hf : Predicate.leavesOf (Predicate.filledAll form ps) = [] := by
      rw [Predicate.leavesOf_filledAll, hn, List.map_nil]
    rw [whereLines_eq_nil_iff.mpr hf, whereParts_of_eq_nil hn]
    exact .nil
  · have hf : Predicate.leavesOf (Predicate.filledAll form ps) ≠ [] := by
      rw [Predicate.leavesOf_filledAll]
      exact mt List.map_eq_nil_iff.mp hn
    have hc := Predicate.fill?_combine form .and (Predicate.fill?_fragments form ps h)
    rw [whereLines_of_ne_nil hf, whereParts_of_ne_nil hn]
    exact .cons (Command.fill?_behind (by decide) hc) .nil

/-- Filling the lines of a statement writes the lines of the filled request. -/
theorem fill?_parts (form : Value → String) {layout : Layout} {r : FetchRequest}
    (hl : layout.Fixed r) (hr : ∀ l ∈ r.leaves, Matched l) :
    List.Forall₂ (fun c t => c.fill? form = some t) (layout.parts r)
      (layout.lines (r.filled form)) := by
  have hclosing : List.Forall₂ (fun c t => c.fill? form = some t)
      ((layout.closingLines r).map fun line => (⟨line, []⟩ : Command)) (layout.closingLines r) := by
    rw [List.forall₂_map_left_iff, List.forall₂_same]
    exact fun line hline => Command.fill?_fixed (hl.unmarked_closingLines line hline)
  have hwhere := fill?_whereParts form hr
  exact .cons (Command.fill?_fixed hl.unmarked_selectLine) (List.rel_append hwhere hclosing)

/-- Binding the values of a statement to its placeholders in order gives every fragment its own values. -/
theorem filling_write_fills_fragments (form : Value → String) {layout : Layout} {r : FetchRequest}
    (hl : layout.Fixed r) (hr : ∀ l ∈ r.leaves, Matched l) :
    (layout.write r).fill? form = some (layout.write (r.filled form)).text ∧
    ∀ c, layout.compile r = .ok c →
      layout.compile (r.filled form) = .ok (layout.write (r.filled form)) ∧
      c.fill? form = some (layout.write (r.filled form)).text := by
  have hw : (layout.write r).fill? form = some (layout.write (r.filled form)).text := by
    rw [write_eq_join]
    exact Command.fill?_join hl.separator (fill?_parts form hl hr)
  refine ⟨hw, ?_⟩
  intro c hc
  obtain ⟨hok, rfl⟩ := compile_eq_ok_iff.mp hc
  refine ⟨?_, hw⟩
  rw [compile_eq_ok_iff, FetchRequest.limit_filled, FetchRequest.offset_filled]
  exact ⟨hok, rfl⟩

theorem filling_write_fills_group :
    let r : FetchRequest :=
      { table := "t"
        predicates := [.simple "a = ?" [.text "x?"], .group .or [.group .and [],
          .simple "b IN (?, ?)" [.text "y", .bool true]]]
        limit := some 5 }
    Layout.Fixed {} r ∧ (∀ l ∈ r.leaves, Matched l) ∧
      (Layout.write {} r).fill? Value.display =
        some "SELECT * FROM t\nWHERE (a = x?) AND ((b IN (y, True)))\nLIMIT 5" := by
  intro r
  have hl : Layout.Fixed {} r := ⟨by decide, by decide, by decide, by decide, by decide⟩
  have hr : ∀ l ∈ r.leaves, Matched l := by decide
  have h := (filling_write_fills_fragments Value.display hl hr).1
  exact ⟨hl, hr, h.trans (congrArg some (by decide +kernel))⟩

end Layout

end DataFetch
