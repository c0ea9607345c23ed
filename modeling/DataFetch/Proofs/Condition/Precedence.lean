import DataFetch.Proofs.Condition.Grammar
import DataFetch.Proofs.Statement.Elision

/-! # Precedence in written conditions

What a request says about a row, in truth values with an unknown one, and what a database makes of the
line of its conditions. Main statement: the line reads as exactly one formula, and that has the value
of the conjunction of the request's conditions, whatever the values of the fragments are.
-/
namespace DataFetch

open Condition

namespace Operator

def apply : Operator → Truth → Truth → Truth
  | and => Truth.and
  | or => Truth.or

/-- The value of conditions that an operator joins. -/
def value : Operator → List Truth → Truth
  | and, ts => ts.foldr Truth.and .yes
  | or, ts => ts.foldr Truth.or .no

def formula : Operator → Formula → Formula → Formula
  | and => .and
  | or => .or

/-- The formula of parts that an operator joins, if there are any. -/
def formula? (operator : Operator) : List Formula → Option Formula
  | [] => none
  | f :: fs => some (fs.foldl operator.formula f)

theorem formula?_eq_some_iff {operator : Operator} {fs : List Formula} {f : Formula} :
    operator.formula? fs = some f ↔ ∃ g gs, fs = g :: gs ∧ f = gs.foldl operator.formula g := by
  cases fs with
  | nil => simp [formula?]
  | cons g gs =>
    constructor
    · intro h
      cases h
      exact ⟨g, gs, rfl, rfl⟩
    · rintro ⟨_, _, h, rfl⟩
      cases h
      rfl

theorem apply_assoc (operator : Operator) (s t u : Truth) :
    operator.apply (operator.apply s t) u = operator.apply s (operator.apply t u) := by
  cases operator with
  | and => exact Truth.and_assoc s t u
  | or => exact Truth.or_assoc s t u

theorem value_cons (operator : Operator) (t : Truth) (ts : List Truth) :
    operator.value (t :: ts) = operator.apply t (operator.value ts) := by
  cases operator <;> rfl

theorem value_singleton (operator : Operator) (t : Truth) : operator.value [t] = t := by
  cases operator with
  | and => exact Truth.and_yes t
  | or => exact Truth.or_no t

theorem value_formula (operator : Operator) (ρ : Nat → Truth) (start : Nat) (f g : Formula) :
    (operator.formula f g).value ρ start =
      operator.apply (f.value ρ start) (g.value ρ (start + f.atoms.length)) := by
  cases operator <;> rfl

theorem atoms_formula (operator : Operator) (f g : Formula) :
    (operator.formula f g).atoms = f.atoms ++ g.atoms := by
  cases operator <;> rfl

end Operator

namespace Predicate

mutual
/-- The value of a condition whose fragments have the values of `ρ` from `start` on, unless there is
none beneath it. -/
def value? (ρ : Nat → Truth) (start : Nat) : Predicate → Option Truth
  | simple _ _ => some (ρ start)
  | group operator members =>
    match values ρ start members with
    | [] => none
    | t :: ts => some (operator.value (t :: ts))

/-- The values of those conditions that have one. -/
def values (ρ : Nat → Truth) (start : Nat) : List Predicate → List Truth
  | [] => []
  | p :: rest => (p.value? ρ start).toList ++ values ρ (start + p.leaves.length) rest
end

mutual
/-- The formula that a condition is written as, unless there is no fragment beneath it. -/
def formula? : Predicate → Option Formula
  | simple text _ => some (.atom text)
  | group operator members => (operator.formula? (formulas members)).map .paren

def formulas : List Predicate → List Formula
  | [] => []
  | p :: rest => p.formula?.toList ++ formulas rest
end

end Predicate

namespace Condition.Formula

def tokens : Formula → List Token
  | atom text => [.atom text]
  | paren f => .opening :: (f.tokens ++ [.closing])
  | and f g => f.tokens ++ .and :: g.tokens
  | or f g => f.tokens ++ .or :: g.tokens

def text : Formula → String
  | atom text => "(" ++ text ++ ")"
  | paren f => "(" ++ f.text ++ ")"
  | and f g => f.text ++ " AND " ++ g.text
  | or f g => f.text ++ " OR " ++ g.text

/-- The values of formulas side by side. -/
def values (ρ : Nat → Truth) (start : Nat) : List Formula → List Truth
  | [] => []
  | f :: fs => f.value ρ start :: values ρ (start + f.atoms.length) fs

end Condition.Formula

/-! ## Joined formulas -/

namespace Operator

theorem text_formula (operator : Operator) (f g : Formula) :
    (operator.formula f g).text = f.text ++ (" " ++ operator.word ++ " ") ++ g.text := by
  cases operator <;> rfl

theorem text_foldl_formula (operator : Operator) (f : Formula) (fs : List Formula) :
    (fs.foldl operator.formula f).text =
      (" " ++ operator.word ++ " ").intercalate (f.text :: fs.map Formula.text) := by
  induction fs generalizing f with
  | nil => rw [List.foldl_nil, List.map_nil, String.intercalate_singleton]
  | cons g fs ih =>
    rw [List.foldl_cons, ih, text_formula, String.intercalate_cons_append, List.map_cons,
      String.intercalate_cons_cons]

theorem atoms_foldl_formula (operator : Operator) (f : Formula) (fs : List Formula) :
    (fs.foldl operator.formula f).atoms = (f :: fs).flatMap Formula.atoms := by
  induction fs generalizing f with
  | nil => simp
  | cons g fs ih => simp [ih, atoms_formula]

theorem value_foldl_formula (operator : Operator) (ρ : Nat → Truth) (start : Nat) (f : Formula)
    (fs : List Formula) :
    (fs.foldl operator.formula f).value ρ start =
      operator.value (Formula.values ρ start (f :: fs)) := by
  induction fs generalizing f with
  | nil => exact (operator.value_singleton _).symm
  | cons g fs ih =>
    rw [List.foldl_cons, ih, Formula.values, Formula.values, Formula.values, value_cons, value_cons,
      value_cons, value_formula, atoms_formula, List.length_append, apply_assoc, Nat.add_assoc]

/-- Factors joined by one operator derive as a disjunction. -/
theorem derives_foldl_formula (operator : Operator) {f : Formula} {fs : List Formula}
    (hf : Derives .factor f.tokens f) (hfs : ∀ g ∈ fs, Derives .factor g.tokens g) :
    Derives .disjunction (fs.foldl operator.formula f).tokens (fs.foldl operator.formula f) := by
  cases operator with
  | and =>
    suffices h : ∀ f, Derives .conjunction f.tokens f →
        Derives .conjunction (fs.foldl .and f).tokens (fs.foldl .and f) from .alone (h f (.single hf))
    induction fs with
    | nil => exact fun f hf => hf
    | cons g fs ih =>
      intro f hf
      have hg := hfs g (List.mem_cons_self ..)
      exact ih (fun e he => hfs e (List.mem_cons_of_mem _ he)) (.and f g) (.and hf hg)
  | or =>
    suffices h : ∀ f, Derives .disjunction f.tokens f →
        Derives .disjunction (fs.foldl .or f).tokens (fs.foldl .or f) from h f (.alone (.single hf))
    induction fs with
    | nil => exact fun f hf => hf
    | cons g fs ih =>
      intro f hf
      have hg := hfs g (List.mem_cons_self ..)
      exact ih (fun e he => hfs e (List.mem_cons_of_mem _ he)) (.or f g) (.or hf (.single hg))

end Operator

/-! ## Scanning -/

namespace Condition

/-- A text that can stand as an atom: balanced, and not to be taken for a group. -/
structure Atomic (text : String) : Prop where
  balanced : Balanced text
  head : text.toList.head? ≠ some '('

theorem scan_inside {n m : Nat} {cs : List Char} (h : depthAfter n cs = some m)
    (passed rest : List Char) :
    scan (some (n, passed)) (cs ++ rest) = scan (some (m, cs.reverse ++ passed)) rest := by
  induction cs generalizing n passed with
  | nil =>
    cases h
    rfl
  | cons c cs ih =>
    have hr : (c :: cs).reverse ++ passed = cs.reverse ++ c :: passed := by simp
    rw [hr, List.cons_append]
    by_cases ho : c = '('
    · simp only [depthAfter, if_pos ho] at h
      simp only [scan, if_pos ho, ih h]
    · by_cases hc : c = ')'
      · simp only [depthAfter, if_neg ho, if_pos hc] at h
        cases n with
        | zero => cases h
        | succ n => simp only [scan, if_neg ho, if_pos hc, ih h]
      · simp only [depthAfter, if_neg ho, if_neg hc] at h
        simp only [scan, if_neg ho, if_neg hc, ih h]

theorem scan_atom {text : String} (h : Atomic text) (rest : List Char) :
    scan none ('(' :: (text.toList ++ ')' :: rest)) = (scan none rest).map (.atom text :: ·) := by
  have hh : (text.toList ++ ')' :: rest).head? ≠ some '(' := by
    rw [List.head?_append]
    cases ht : text.toList.head? with
    | none => simp
    | some c => simpa [ht] using h.head
  have hs := scan_inside h.balanced [] (')' :: rest)
  simp only [scan, if_neg hh, hs]
  simp

theorem scan_opening {cs : List Char} (h : cs.head? = some '(') :
    scan none ('(' :: cs) = (scan none cs).map (.opening :: ·) := by
  simp only [scan, if_pos h]

instance : DecidablePred Atomic := fun text =>
  decidable_of_iff (Balanced text ∧ text.toList.head? ≠ some '(')
    ⟨fun h => ⟨h.1, h.2⟩, fun h => ⟨h.balanced, h.head⟩⟩

namespace Formula

theorem exists_text_eq_cons (f : Formula) : ∃ cs, f.text.toList = '(' :: cs := by
  induction f with
  | atom t => exact ⟨t.toList ++ [')'], by simp [text]⟩
  | paren f _ => exact ⟨f.text.toList ++ [')'], by simp [text]⟩
  | and f g ihf _ =>
    obtain ⟨cs, h⟩ := ihf
    exact ⟨cs ++ " AND ".toList ++ g.text.toList, by simp [text, h]⟩
  | or f g ihf _ =>
    obtain ⟨cs, h⟩ := ihf
    exact ⟨cs ++ " OR ".toList ++ g.text.toList, by simp [text, h]⟩

theorem head?_text (f : Formula) (rest : List Char) :
    (f.text.toList ++ rest).head? = some '(' := by
  obtain ⟨cs, h⟩ := f.exists_text_eq_cons
  rw [h]
  rfl

/-- The text of a formula has the tokens of the formula. -/
theorem scan_text {f : Formula} (h : ∀ t ∈ f.atoms, Atomic t) (rest : List Char) :
    scan none (f.text.toList ++ rest) = (scan none rest).map (f.tokens ++ ·) := by
  induction f generalizing rest with
  | atom t =>
    have ha : Atomic t := h t (List.mem_singleton_self t)
    simpa [text, tokens] using scan_atom ha rest
  | paren f ih =>
    have hs : (Formula.paren f).text.toList ++ rest = '(' :: (f.text.toList ++ ')' :: rest) := by
      simp [text]
    rw [hs, scan_opening (head?_text f _), ih h]
    simp [scan, tokens, Function.comp_def]
  | and f g ihf ihg =>
    have hs : (Formula.and f g).text.toList ++ rest =
        f.text.toList ++ ' ' :: 'A' :: 'N' :: 'D' :: ' ' :: (g.text.toList ++ rest) := by
      simp [text]
    rw [hs, ihf fun t ht => h t (List.mem_append_left _ ht), scan,
      ihg fun t ht => h t (List.mem_append_right _ ht)]
    simp [tokens, Function.comp_def]
  | or f g ihf ihg =>
    have hs : (Formula.or f g).text.toList ++ rest =
        f.text.toList ++ ' ' :: 'O' :: 'R' :: ' ' :: (g.text.toList ++ rest) := by
      simp [text]
    rw [hs, ihf fun t ht => h t (List.mem_append_left _ ht), scan,
      ihg fun t ht => h t (List.mem_append_right _ ht)]
    simp [tokens, Function.comp_def]

theorem tokens?_text {f : Formula} (h : ∀ t ∈ f.atoms, Atomic t) :
    tokens? f.text = some f.tokens := by
  have hs := scan_text h []
  rw [List.append_nil] at hs
  rw [tokens?, hs, scan, Option.map_some, List.append_nil]

end Formula

end Condition

/-! ## Conditions as formulas -/

namespace Predicate

mutual
theorem atoms_formula? (p : Predicate) :
    p.formula?.toList.flatMap Formula.atoms = p.leaves.map (·.1) := by
  match p with
  | simple text params => simp [formula?, leaves, Formula.atoms]
  | group operator members =>
    rw [leaves, ← atoms_formulas members, formula?]
    cases formulas members with
    | nil => rfl
    | cons f fs => simp [Operator.formula?, Formula.atoms, Operator.atoms_foldl_formula]

theorem atoms_formulas (ps : List Predicate) :
    (formulas ps).flatMap Formula.atoms = (leavesOf ps).map (·.1) := by
  match ps with
  | [] => simp [formulas, leavesOf]
  | p :: rest =>
    rw [formulas, leavesOf, List.flatMap_append, List.map_append, atoms_formula? p,
      atoms_formulas rest]
end

mutual
theorem derives_formula? (p : Predicate) : ∀ f ∈ p.formula?, Derives .factor f.tokens f := by
  match p with
  | simple text params =>
    intro f hf
    cases hf
    exact .atom text
  | group operator members =>
    intro f hf
    have hm := derives_formulas members
    rw [formula?] at hf
    cases hfs : formulas members with
    | nil =>
      rw [hfs] at hf
      cases hf
    | cons g gs =>
      rw [hfs] at hf hm
      cases hf
      exact .paren (operator.derives_foldl_formula (hm g (List.mem_cons_self ..))
        fun e he => hm e (List.mem_cons_of_mem _ he))

theorem derives_formulas (ps : List Predicate) :
    ∀ f ∈ formulas ps, Derives .factor f.tokens f := by
  match ps with
  | [] => exact fun f hf => absurd hf (List.not_mem_nil)
  | p :: rest =>
    intro f hf
    rw [formulas, List.mem_append, Option.mem_toList] at hf
    rcases hf with hf | hf
    · exact derives_formula? p f hf
    · exact derives_formulas rest f hf
end

mutual
/-- A condition is written as the text of its formula. -/
theorem text_written (p : Predicate) :
    p.written.nonempty?.toList.map (·.text) = p.formula?.toList.map Formula.text := by
  match p with
  | simple text params =>
    rw [written, Command.nonempty?_of_ne (Command.text_parenthesized_ne _)]
    rfl
  | group operator members =>
    have hm := texts_fragments members
    rw [formula?]
    cases hf : formulas members with
    | nil =>
      rw [hf, List.map_nil, List.map_eq_nil_iff] at hm
      rw [written_group_of_eq hm]
      rfl
    | cons f fs =>
      have hn : fragments members ≠ [] := by
        intro h
        rw [h, hf] at hm
        cases hm
      have ht : (operator.combine (fragments members)).text =
          (fs.foldl operator.formula f).text := by
        rw [operator.text_foldl_formula, ← List.map_cons, ← hf, ← hm]
        rfl
      rw [written_group_of_ne hn, Command.nonempty?_of_ne (Command.text_parenthesized_ne _)]
      simp [Command.parenthesized, ht, Operator.formula?, Formula.text]

theorem texts_fragments (ps : List Predicate) :
    (fragments ps).map (·.text) = (formulas ps).map Formula.text := by
  match ps with
  | [] => simp [fragments, formulas]
  | p :: rest =>
    rw [fragments, formulas, List.map_append, List.map_append, text_written p, texts_fragments rest]
end

theorem length_atoms_of_formula? {p : Predicate} {f : Formula} (h : p.formula? = some f) :
    f.atoms.length = p.leaves.length := by
  have ha := congrArg List.length (atoms_formula? p)
  simpa [h] using ha

theorem length_leaves_of_formula? {p : Predicate} (h : p.formula? = none) :
    p.leaves.length = 0 := by
  have ha := congrArg List.length (atoms_formula? p)
  simpa [h] using ha.symm

mutual
/-- The value of a condition is the value of its formula. -/
theorem value?_eq (ρ : Nat → Truth) (start : Nat) (p : Predicate) :
    p.value? ρ start = p.formula?.map (·.value ρ start) := by
  match p with
  | simple text params => rfl
  | group operator members =>
    rw [value?, values_eq ρ start members, formula?]
    cases formulas members with
    | nil => rfl
    | cons f fs =>
      have hv := operator.value_foldl_formula ρ start f fs
      simp only [Formula.values, Operator.formula?, Option.map_some, Formula.value] at hv ⊢
      rw [hv]

theorem values_eq (ρ : Nat → Truth) (start : Nat) (ps : List Predicate) :
    values ρ start ps = Formula.values ρ start (formulas ps) := by
  match ps with
  | [] => rfl
  | p :: rest =>
    rw [values, formulas, value?_eq ρ start p, values_eq ρ (start + p.leaves.length) rest]
    cases hf : p.formula? with
    | none => simp [length_leaves_of_formula? hf]
    | some f => simp [Formula.values, length_atoms_of_formula? hf]
end

theorem exists_formula? (operator : Operator) {ps : List Predicate} (h : leavesOf ps ≠ []) :
    ∃ f, operator.formula? (formulas ps) = some f := by
  have hatoms := atoms_formulas ps
  cases hfs : formulas ps with
  | nil =>
    rw [hfs, List.flatMap_nil] at hatoms
    exact absurd (List.map_eq_nil_iff.mp hatoms.symm) h
  | cons g gs => exact ⟨_, rfl⟩

section Joined

variable {operator : Operator} {ps : List Predicate} {f : Formula}

theorem text_of_formula? (hf : operator.formula? (formulas ps) = some f) :
    (writeTogether operator ps).text = f.text := by
  obtain ⟨g, gs, hfs, rfl⟩ := Operator.formula?_eq_some_iff.mp hf
  rw [operator.text_foldl_formula, ← List.map_cons, ← hfs, ← texts_fragments]
  rfl

theorem atoms_of_formula? (hf : operator.formula? (formulas ps) = some f) :
    f.atoms = (leavesOf ps).map (·.1) := by
  obtain ⟨g, gs, hfs, rfl⟩ := Operator.formula?_eq_some_iff.mp hf
  rw [operator.atoms_foldl_formula, ← hfs, atoms_formulas]

/-- Conditions side by side read as the formula that joins their formulas. -/
theorem reads_of_formula? (hf : operator.formula? (formulas ps) = some f)
    (ha : ∀ l ∈ leavesOf ps, Atomic l.1) : Reads (writeTogether operator ps).text f := by
  have hatoms : ∀ t ∈ f.atoms, Atomic t := by
    intro t h
    rw [atoms_of_formula? hf] at h
    obtain ⟨l, hl, rfl⟩ := List.mem_map.mp h
    exact ha l hl
  have ht : tokens? (writeTogether operator ps).text = some f.tokens := by
    rw [text_of_formula? hf]
    exact Formula.tokens?_text hatoms
  obtain ⟨g, gs, hfs, rfl⟩ := Operator.formula?_eq_some_iff.mp hf
  have hd := derives_formulas ps
  rw [hfs] at hd
  exact ⟨_, ht, operator.derives_foldl_formula (hd g (List.mem_cons_self ..))
    fun e he => hd e (List.mem_cons_of_mem _ he)⟩

end Joined

/-- Conditions that hold some fragment read as one formula, which says the same. -/
theorem reads_writeTogether (operator : Operator) {ps : List Predicate} (hn : leavesOf ps ≠ [])
    (ha : ∀ l ∈ leavesOf ps, Atomic l.1) :
    ∃ f, Reads (writeTogether operator ps).text f ∧ f.atoms = (leavesOf ps).map (·.1) ∧
      ∀ ρ, f.value ρ 0 = operator.value (values ρ 0 ps) := by
  obtain ⟨f, hf⟩ := exists_formula? operator hn
  refine ⟨f, reads_of_formula? hf ha, atoms_of_formula? hf, ?_⟩
  intro ρ
  obtain ⟨g, gs, hfs, rfl⟩ := Operator.formula?_eq_some_iff.mp hf
  rw [values_eq, hfs]
  exact operator.value_foldl_formula ρ 0 g gs

end Predicate

namespace Layout

/-- There is a line of conditions unless there is no fragment. It reads as exactly one formula, whose
atoms are the fragments in order and which has the value of the conjunction of the conditions, whatever
the values of the fragments are. -/
theorem where_line_keeps_precedence (layout : Layout) {r : FetchRequest}
    (h : ∀ l ∈ r.leaves, Atomic l.1) :
    (layout.write r).text = layout.separator.intercalate (layout.lines r) ∧
    (layout.lines r = layout.selectLine r.table :: layout.closingLines r ↔ r.leaves = []) ∧
    (r.leaves ≠ [] → ∃ conditions f,
      layout.lines r =
        layout.selectLine r.table :: ("WHERE " ++ conditions) :: layout.closingLines r ∧
      Reads conditions f ∧ (∀ g, Reads conditions g → g = f) ∧ f.atoms = r.leaves.map (·.1) ∧
      ∀ ρ, f.value ρ 0 = Operator.and.value (Predicate.values ρ 0 r.predicates)) := by
  refine ⟨rfl, ?_, ?_⟩
  · rw [lines, List.cons_eq_cons, List.append_left_eq_self, whereLines_eq_nil_iff]
    exact ⟨fun hn => hn.2, fun hn => ⟨rfl, hn⟩⟩
  · intro hn
    obtain ⟨f, hf, hatoms, hvalue⟩ := Predicate.reads_writeTogether .and hn h
    refine ⟨_, f, ?_, hf, fun g hg => hg.unique hf, hatoms, hvalue⟩
    rw [lines, whereLines_of_ne_nil hn, List.singleton_append]

theorem where_line_keeps_precedence_in_groups :
    let r : FetchRequest :=
      { table := "t"
        predicates := [.simple "a" [], .group .or [.simple "b" [], .group .and [],
          .group .and [.simple "f(x)" [], .simple "" []]]] }
    (∀ l ∈ r.leaves, Atomic l.1) ∧
      ∃ f, Reads "(a) AND ((b) OR ((f(x)) AND ()))" f ∧
        ∀ ρ, f.value ρ 0 = (ρ 0).and ((ρ 1).or ((ρ 2).and (ρ 3))) := by
  intro r
  have hr : ∀ l ∈ r.leaves, Atomic l.1 := by decide
  have hn : r.leaves ≠ [] := List.cons_ne_nil _ _
  obtain ⟨conditions, f, hl, hf, -, -, hv⟩ := (where_line_keeps_precedence {} hr).2.2 hn
  have hlines : Layout.lines {} r =
      ["SELECT * FROM t", "WHERE " ++ "(a) AND ((b) OR ((f(x)) AND ()))"] := by decide +kernel
  rw [hlines] at hl
  have hc := (String.append_right_inj _).mp (List.cons.inj (List.cons.inj hl).2).1
  subst hc
  refine ⟨hr, f, hf, ?_⟩
  intro ρ
  rw [hv ρ]
  simp [r, Predicate.values, Predicate.value?, Predicate.leaves, Predicate.leavesOf, Operator.value]

end Layout

end DataFetch
