import DataFetch.Statement.Layout

/-! # Conditions without a fragment

The writer leaves out whatever has an empty text, together with its values. A condition has an empty
text exactly when no fragment is beneath it, and then there is no value to lose: the values of a
statement are those of all fragments from left to right, and groups without a fragment can be removed
at every level before writing.
-/
namespace DataFetch

namespace Command

theorem nonempty?_of_eq {c : Command} (h : c.text = "") : c.nonempty? = none := by
  simp [nonempty?, h]

theorem nonempty?_of_ne {c : Command} (h : c.text ≠ "") : c.nonempty? = some c := by
  simp [nonempty?, h]

theorem nonempty?_eq_none_iff {c : Command} : c.nonempty? = none ↔ c.text = "" := by
  simp [nonempty?]

theorem text_ne_of_nonempty? {c d : Command} (h : c.nonempty? = some d) : d.text ≠ "" := by
  unfold nonempty? at h
  split at h
  · cases h
  · cases h
    assumption

theorem text_parenthesized_ne (c : Command) : c.parenthesized.text ≠ "" := by
  simp [parenthesized]

/-- Joining adds nothing to no parts, and keeps a part that is not empty. -/
theorem text_join_eq_empty_iff {separator : String} {parts : List Command}
    (h : ∀ c ∈ parts, c.text ≠ "") : (join separator parts).text = "" ↔ parts = [] := by
  cases parts with
  | nil => simp [join]
  | cons c rest =>
    have hc : c.text ≠ "" := h c (List.mem_cons_self ..)
    cases rest with
    | nil => simpa [join] using hc
    | cons d rest => simp [join, String.append_eq_empty_iff, hc]

theorem params_parenthesized (c : Command) : c.parenthesized.params = c.params := rfl

/-- A part that is left out for its empty text has no values that could be lost. -/
theorem params_nonempty? {c : Command} (h : c.text = "" → c.params = []) :
    c.nonempty?.toList.flatMap (·.params) = c.params := by
  by_cases ht : c.text = ""
  · simp [nonempty?_of_eq ht, h ht]
  · simp [nonempty?_of_ne ht]

end Command

theorem Operator.params_combine (operator : Operator) (parts : List Command) :
    (operator.combine parts).params = parts.flatMap (·.params) := rfl

namespace Predicate

theorem text_ne_of_mem_fragments {ps : List Predicate} {c : Command} (hc : c ∈ fragments ps) :
    c.text ≠ "" := by
  induction ps with
  | nil => simp [fragments] at hc
  | cons p rest ih =>
    rw [fragments, List.mem_append, Option.mem_toList] at hc
    rcases hc with hc | hc
    · exact Command.text_ne_of_nonempty? hc
    · exact ih hc

/-- Members that stand side by side have a text exactly when one of them has. -/
theorem text_combine_fragments_eq_empty_iff (operator : Operator) (ps : List Predicate) :
    (operator.combine (fragments ps)).text = "" ↔ fragments ps = [] :=
  Command.text_join_eq_empty_iff fun _ hc => text_ne_of_mem_fragments hc

/-- The written form of a group of which something is written. -/
theorem written_group_of_ne {operator : Operator} {members : List Predicate}
    (h : fragments members ≠ []) :
    (group operator members).written = (operator.combine (fragments members)).parenthesized := by
  have ht := mt (text_combine_fragments_eq_empty_iff operator members).mp h
  rw [written, Command.nonempty?_of_ne ht, Option.map_some, Option.getD_some]

theorem written_group_of_eq {operator : Operator} {members : List Predicate}
    (h : fragments members = []) : (group operator members).written = Command.empty := by
  have ht := (text_combine_fragments_eq_empty_iff operator members).mpr h
  rw [written, Command.nonempty?_of_eq ht, Option.map_none, Option.getD_none]

mutual
theorem text_written_eq_empty_iff (p : Predicate) : p.written.text = "" ↔ p.leaves = [] := by
  match p with
  | simple text params =>
    simpa [written, leaves] using Command.text_parenthesized_ne ⟨text, params⟩
  | group operator members =>
    rw [leaves, ← fragments_eq_nil_iff members]
    by_cases h : fragments members = []
    · simp [written_group_of_eq h, h, Command.empty]
    · simp [written_group_of_ne h, h, Command.text_parenthesized_ne]

theorem fragments_eq_nil_iff (ps : List Predicate) : fragments ps = [] ↔ leavesOf ps = [] := by
  match ps with
  | [] => simp [fragments, leavesOf]
  | p :: rest =>
    rw [fragments, leavesOf, List.append_eq_nil_iff, List.append_eq_nil_iff,
      fragments_eq_nil_iff rest, ← text_written_eq_empty_iff p, ← Command.nonempty?_eq_none_iff,
      Option.toList_eq_nil_iff]
end

mutual
theorem params_written (p : Predicate) : p.written.params = p.leaves.flatMap (·.2) := by
  match p with
  | simple text params => simp [written, leaves, Command.parenthesized]
  | group operator members =>
    have hm := params_fragments members
    by_cases h : fragments members = []
    · rw [written_group_of_eq h, leaves, ← hm, h]
      rfl
    · rw [written_group_of_ne h, leaves, ← hm, Command.params_parenthesized,
        operator.params_combine]

theorem params_fragments (ps : List Predicate) :
    (fragments ps).flatMap (·.params) = (leavesOf ps).flatMap (·.2) := by
  match ps with
  | [] => simp [fragments, leavesOf]
  | p :: rest =>
    have hp : p.written.text = "" → p.written.params = [] := by
      intro ht
      rw [params_written p, (text_written_eq_empty_iff p).mp ht]
      rfl
    rw [fragments, leavesOf, List.flatMap_append, List.flatMap_append,
      Command.params_nonempty? hp,
      params_written p, params_fragments rest]
end

/-! ## Pruning -/

mutual
/-- The condition without the groups beneath it that hold no fragment. -/
def prune : Predicate → Predicate
  | simple text params => simple text params
  | group operator members => group operator (pruneAll members)

/-- The conditions that hold some fragment, each pruned. -/
def pruneAll : List Predicate → List Predicate
  | [] => []
  | p :: rest => if p.leaves.isEmpty then pruneAll rest else p.prune :: pruneAll rest
end

mutual
theorem written_prune (p : Predicate) : p.prune.written = p.written := by
  match p with
  | simple text params => rw [prune]
  | group operator members => rw [prune, written, written, fragments_pruneAll members]

theorem fragments_pruneAll (ps : List Predicate) : fragments (pruneAll ps) = fragments ps := by
  match ps with
  | [] => rw [pruneAll]
  | p :: rest =>
    rw [pruneAll]
    split
    · rename_i h
      have ht := (text_written_eq_empty_iff p).mpr (List.isEmpty_iff.mp h)
      rw [fragments_pruneAll rest, fragments, Command.nonempty?_of_eq ht]
      rfl
    · rw [fragments, fragments, written_prune p, fragments_pruneAll rest]
end

theorem writeTogether_pruneAll (operator : Operator) (ps : List Predicate) :
    writeTogether operator (pruneAll ps) = writeTogether operator ps := by
  rw [writeTogether, writeTogether, fragments_pruneAll]

theorem text_writeTogether_eq_empty_iff {operator : Operator} {ps : List Predicate} :
    (writeTogether operator ps).text = "" ↔ leavesOf ps = [] := by
  rw [writeTogether, text_combine_fragments_eq_empty_iff, fragments_eq_nil_iff]

theorem params_writeTogether (operator : Operator) (ps : List Predicate) :
    (writeTogether operator ps).params = (leavesOf ps).flatMap (·.2) := by
  rw [writeTogether, Operator.params_combine, params_fragments]

end Predicate

/-- The request without the groups that hold no fragment, at every level. -/
def FetchRequest.prune (r : FetchRequest) : FetchRequest :=
  { r with predicates := Predicate.pruneAll r.predicates }

namespace Layout

theorem whereLines_eq_nil_iff {ps : List Predicate} :
    whereLines ps = [] ↔ Predicate.leavesOf ps = [] := by
  rw [whereLines, Option.toList_eq_nil_iff, Option.map_eq_none_iff, Predicate.writeAll?,
    Command.nonempty?_eq_none_iff, Predicate.text_writeTogether_eq_empty_iff]

theorem whereLines_of_ne_nil {ps : List Predicate} (h : Predicate.leavesOf ps ≠ []) :
    whereLines ps = ["WHERE " ++ (Predicate.writeTogether .and ps).text] := by
  have hn : (Predicate.writeTogether .and ps).text ≠ "" :=
    mt Predicate.text_writeTogether_eq_empty_iff.mp h
  rw [whereLines, Predicate.writeAll?, Command.nonempty?_of_ne hn]
  rfl

theorem lines_prune (layout : Layout) (r : FetchRequest) :
    layout.lines r.prune = layout.lines r := by
  simp only [lines, closingLines, FetchRequest.prune, whereLines, Predicate.writeAll?,
    Predicate.writeTogether_pruneAll]

theorem write_prune (layout : Layout) (r : FetchRequest) :
    layout.write r.prune = layout.write r := by
  rw [write, write, lines_prune, FetchRequest.prune, Predicate.writeTogether_pruneAll]

theorem params_write (layout : Layout) (r : FetchRequest) :
    (layout.write r).params = r.leaves.flatMap (·.2) :=
  Predicate.params_writeTogether .and r.predicates

/-- A statement is refused only for a bound of too many digits or for lines that cannot be joined. -/
theorem compile_eq_ok_iff {layout : Layout} {r : FetchRequest} {c : Command} :
    layout.compile r = .ok c ↔
      (isWritable r.limit ∧ isWritable r.offset ∧ layout.joinFault = none) ∧ c = layout.write r := by
  unfold compile
  split
  · rename_i hw
    rw [Bool.and_eq_true] at hw
    cases layout.joinFault with
    | none =>
      constructor
      · intro h
        cases h
        exact ⟨⟨hw.1, hw.2, rfl⟩, rfl⟩
      · rintro ⟨_, rfl⟩
        rfl
    | some m =>
      constructor
      · intro h
        cases h
      · rintro ⟨⟨_, _, hj⟩, _⟩
        cases hj
  · rename_i hw
    constructor
    · intro h
      cases h
    · rintro ⟨⟨hl, ho, _⟩, _⟩
      exact absurd (by rw [hl, ho]; rfl) hw

/-- Writing loses nothing: the values are those of all fragments in order, groups that hold no
fragment do not matter at any level, and there is a line of conditions exactly when there is some
fragment. -/
theorem write_loses_no_fragment (layout : Layout) (r : FetchRequest) :
    (layout.write r).params = r.leaves.flatMap (·.2) ∧
    layout.write r.prune = layout.write r ∧
    (r.leaves = [] → layout.lines r = layout.selectLine r.table :: layout.closingLines r) ∧
    (r.leaves ≠ [] → ∃ conditions, conditions ≠ "" ∧
      layout.lines r =
        layout.selectLine r.table :: ("WHERE " ++ conditions) :: layout.closingLines r) ∧
    layout.compile r.prune = layout.compile r ∧
    ((∃ c, layout.compile r = .ok c) ↔
      isWritable r.limit ∧ isWritable r.offset ∧ layout.joinFault = none) ∧
    ∀ c, layout.compile r = .ok c → c = layout.write r := by
  refine ⟨params_write layout r, write_prune layout r, ?_, ?_, ?_, ?_, ?_⟩
  · intro h
    rw [lines, whereLines_eq_nil_iff.mpr h, List.nil_append]
  · intro h
    refine ⟨(Predicate.writeTogether .and r.predicates).text,
      mt Predicate.text_writeTogether_eq_empty_iff.mp h, ?_⟩
    rw [lines, whereLines_of_ne_nil h, List.singleton_append]
  · rw [compile, compile, write_prune]
    rfl
  · constructor
    · rintro ⟨c, hc⟩
      exact (compile_eq_ok_iff.mp hc).1
    · intro h
      exact ⟨_, compile_eq_ok_iff.mpr ⟨h, rfl⟩⟩
  · intro c hc
    exact (compile_eq_ok_iff.mp hc).2

end Layout

end DataFetch
