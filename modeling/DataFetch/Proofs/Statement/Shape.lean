import DataFetch.Proofs.Statement.Elision

/-! # What the text of a statement shows

The text shows neither the values of a request nor what would join a group that has one member. Main
statements: both can be forgotten, at every level, without a change to the text.
-/
namespace DataFetch

namespace Command

theorem texts_nonempty? (c : Command) :
    c.nonempty?.toList.map (·.text) = if c.text = "" then [] else [c.text] := by
  by_cases h : c.text = ""
  · simp [nonempty?_of_eq h, h]
  · simp [nonempty?_of_ne h, h]

end Command

theorem Operator.text_combine (operator : Operator) (parts : List Command) :
    (operator.combine parts).text =
      (" " ++ operator.word ++ " ").intercalate (parts.map (·.text)) := rfl

/-- The operator does not show where it has nothing to join. -/
theorem Operator.text_combine_of_length_le (operator other : Operator) {parts : List Command}
    (h : parts.length ≤ 1) : (operator.combine parts).text = (other.combine parts).text := by
  rw [text_combine, text_combine]
  cases parts with
  | nil => rw [List.map_nil, String.intercalate_nil, String.intercalate_nil]
  | cons c rest =>
    have hr : rest = [] := List.length_eq_zero_iff.mp (by simpa using h)
    rw [hr, List.map_singleton, String.intercalate_singleton, String.intercalate_singleton]

namespace Predicate

/-! ## Texts of groups -/

theorem texts_fragments_cons (p : Predicate) (rest : List Predicate) :
    (fragments (p :: rest)).map (·.text) =
      (if p.written.text = "" then [] else [p.written.text]) ++ (fragments rest).map (·.text) := by
  rw [fragments, List.map_append, Command.texts_nonempty?]

theorem length_fragments_le (ps : List Predicate) : (fragments ps).length ≤ ps.length := by
  induction ps with
  | nil => exact Nat.zero_le _
  | cons p rest ih =>
    have hp : p.written.nonempty?.toList.length ≤ 1 := by
      cases p.written.nonempty? with
      | none => exact Nat.zero_le 1
      | some c => exact Nat.le_refl 1
    rw [fragments, List.length_append, List.length_cons]
    omega

theorem text_written_group (operator : Operator) (members : List Predicate) :
    (group operator members).written.text =
      if (operator.combine (fragments members)).text = "" then ""
      else "(" ++ (operator.combine (fragments members)).text ++ ")" := by
  rw [written]
  by_cases h : (operator.combine (fragments members)).text = ""
  · rw [Command.nonempty?_of_eq h, if_pos h]
    rfl
  · rw [Command.nonempty?_of_ne h, if_neg h]
    rfl

theorem text_written_group_congr {operator : Operator} {members others : List Predicate}
    (h : (fragments members).map (·.text) = (fragments others).map (·.text)) :
    (group operator members).written.text = (group operator others).written.text := by
  rw [text_written_group, text_written_group, operator.text_combine, operator.text_combine, h]

/-! ## Without values -/

mutual
/-- The condition without its values. -/
def bare : Predicate → Predicate
  | simple text _ => simple text []
  | group operator members => group operator (bareAll members)

def bareAll : List Predicate → List Predicate
  | [] => []
  | p :: rest => p.bare :: bareAll rest
end

mutual
theorem text_written_bare (p : Predicate) : p.bare.written.text = p.written.text := by
  cases p with
  | simple text params => rfl
  | group operator members =>
    rw [bare]
    exact text_written_group_congr (texts_fragments_bareAll members)

theorem texts_fragments_bareAll (ps : List Predicate) :
    (fragments (bareAll ps)).map (·.text) = (fragments ps).map (·.text) := by
  cases ps with
  | nil => rfl
  | cons p rest =>
    rw [bareAll, texts_fragments_cons, texts_fragments_cons, text_written_bare p,
      texts_fragments_bareAll rest]
end

/-! ## Without operators that join nothing -/

mutual
/-- The condition in which groups of less than two members are joined by "and". -/
def neutral : Predicate → Predicate
  | simple text params => simple text params
  | group operator members =>
    group (if members.length ≤ 1 then .and else operator) (neutralAll members)

def neutralAll : List Predicate → List Predicate
  | [] => []
  | p :: rest => p.neutral :: neutralAll rest
end

mutual
theorem text_written_neutral (p : Predicate) : p.neutral.written.text = p.written.text := by
  cases p with
  | simple text params => rw [neutral]
  | group operator members =>
    have hm := texts_fragments_neutralAll members
    rw [neutral]
    split
    · rename_i hl
      have hf : (fragments members).length ≤ 1 := Nat.le_trans (length_fragments_le members) hl
      rw [text_written_group_congr hm, text_written_group, text_written_group,
        Operator.and.text_combine_of_length_le operator hf]
    · exact text_written_group_congr hm

theorem texts_fragments_neutralAll (ps : List Predicate) :
    (fragments (neutralAll ps)).map (·.text) = (fragments ps).map (·.text) := by
  cases ps with
  | nil => rfl
  | cons p rest =>
    rw [neutralAll, texts_fragments_cons, texts_fragments_cons, text_written_neutral p,
      texts_fragments_neutralAll rest]
end

/-- Conditions without the groups that hold no fragment, without values and without operators that
join nothing. -/
def normalForms (ps : List Predicate) : List Predicate :=
  neutralAll (bareAll (pruneAll ps))

theorem texts_fragments_normalForms (ps : List Predicate) :
    (fragments (normalForms ps)).map (·.text) = (fragments ps).map (·.text) := by
  rw [normalForms, texts_fragments_neutralAll, texts_fragments_bareAll, fragments_pruneAll]

end Predicate

namespace FetchRequest

/-- The request without its values. -/
def bare (r : FetchRequest) : FetchRequest :=
  { r with predicates := Predicate.bareAll r.predicates }

/-- The request with its conditions in normal form. -/
def normalForm (r : FetchRequest) : FetchRequest :=
  { r with predicates := Predicate.normalForms r.predicates }

end FetchRequest

namespace Layout

theorem whereLines_congr {ps qs : List Predicate}
    (h : (Predicate.fragments ps).map (·.text) = (Predicate.fragments qs).map (·.text)) :
    whereLines ps = whereLines qs := by
  have ht : (Predicate.writeTogether .and ps).text = (Predicate.writeTogether .and qs).text := by
    rw [Predicate.writeTogether, Predicate.writeTogether, Operator.text_combine,
      Operator.text_combine, h]
  rw [whereLines, whereLines, Predicate.writeAll?, Predicate.writeAll?]
  by_cases hn : (Predicate.writeTogether .and ps).text = ""
  · rw [Command.nonempty?_of_eq hn, Command.nonempty?_of_eq (ht ▸ hn)]
  · rw [Command.nonempty?_of_ne hn, Command.nonempty?_of_ne (ht ▸ hn), Option.map_some,
      Option.map_some, ht]

theorem lines_bare (layout : Layout) (r : FetchRequest) :
    layout.lines r.bare = layout.lines r := by
  have hw := whereLines_congr (Predicate.texts_fragments_bareAll r.predicates)
  rw [lines, lines, FetchRequest.bare, hw]
  rfl

theorem text_write_bare (layout : Layout) (r : FetchRequest) :
    (layout.write r.bare).text = (layout.write r).text := by
  rw [write, write, lines_bare]

theorem text_write_normalForm (layout : Layout) (r : FetchRequest) :
    (layout.write r.normalForm).text = (layout.write r).text := by
  have hw := whereLines_congr (Predicate.texts_fragments_normalForms r.predicates)
  rw [write, write, lines, lines, FetchRequest.normalForm, hw]
  rfl

/-- Whether a statement is refused does not depend on the values, nor does its text. -/
theorem map_text_compile_bare (layout : Layout) (r : FetchRequest) :
    (layout.compile r.bare).map (·.text) = (layout.compile r).map (·.text) := by
  have ht := text_write_bare layout r
  have hlimit : r.bare.limit = r.limit := rfl
  have hoffset : r.bare.offset = r.offset := rfl
  rw [compile, compile, hlimit, hoffset]
  split
  · cases layout.joinFault with
    | none => exact congrArg Except.ok ht
    | some m => rfl
  · rfl

end Layout

end DataFetch
