/-! # The grammar of written conditions

Conditions as a database reads them: parentheses group, and a conjunction binds tighter than a
disjunction. A parenthesis that does not open a further one right away encloses a fragment, which
counts as one atom. Main statement: the grammar is unambiguous, since a reader that keeps one level
for each open parenthesis finds the only formula that a text can stand for.
-/
namespace DataFetch.Condition

/-- The truth values of conditions over rows with absent entries. -/
inductive Truth where
  | no
  | unknown
  | yes
  deriving DecidableEq, Repr

namespace Truth

def and : Truth → Truth → Truth
  | yes, t => t
  | no, _ => no
  | unknown, no => no
  | unknown, _ => unknown

def or : Truth → Truth → Truth
  | no, t => t
  | yes, _ => yes
  | unknown, yes => yes
  | unknown, _ => unknown

@[simp]
theorem and_yes (t : Truth) : t.and yes = t := by cases t <;> rfl

@[simp]
theorem or_no (t : Truth) : t.or no = t := by cases t <;> rfl

theorem and_assoc (s t u : Truth) : (s.and t).and u = s.and (t.and u) := by
  cases s <;> cases t <;> cases u <;> rfl

theorem or_assoc (s t u : Truth) : (s.or t).or u = s.or (t.or u) := by
  cases s <;> cases t <;> cases u <;> rfl

end Truth

inductive Token where
  | opening
  | closing
  | and
  | or
  /-- A fragment with the parentheses around it. -/
  | atom (text : String)
  deriving DecidableEq, Repr

/-- What a condition says, with its parentheses. -/
inductive Formula where
  | atom (text : String)
  | paren (f : Formula)
  | and (f g : Formula)
  | or (f g : Formula)
  deriving DecidableEq, Repr

namespace Formula

/-- The texts of the atoms from left to right. -/
def atoms : Formula → List String
  | atom text => [text]
  | paren f => f.atoms
  | and f g => f.atoms ++ g.atoms
  | or f g => f.atoms ++ g.atoms

/-- The value of a formula whose atoms have the values of `ρ` from `start` on. -/
def value (ρ : Nat → Truth) (start : Nat) : Formula → Truth
  | atom _ => ρ start
  | paren f => f.value ρ start
  | and f g => (f.value ρ start).and (g.value ρ (start + f.atoms.length))
  | or f g => (f.value ρ start).or (g.value ρ (start + f.atoms.length))

end Formula

/-! ## Tokens -/

/-- The number of open parentheses behind a text in front of which `n` are open, unless the text
closes one that is not open. -/
def depthAfter : Nat → List Char → Option Nat
  | n, [] => some n
  | n, c :: cs =>
    if c = '(' then depthAfter (n + 1) cs
    else if c = ')' then
      match n with
      | 0 => none
      | n + 1 => depthAfter n cs
    else depthAfter n cs

/-- Every parenthesis in a text has its partner. -/
def Balanced (text : String) : Prop :=
  depthAfter 0 text.toList = some 0

instance : DecidablePred Balanced := fun text =>
  inferInstanceAs (Decidable (depthAfter 0 text.toList = some 0))

/-- The tokens of a text. Inside an atom, `inside?` holds the number of parentheses that are open
within it and the part that was passed, in reverse. -/
def scan (inside? : Option (Nat × List Char)) (cs : List Char) : Option (List Token) :=
  match inside?, cs with
  | none, [] => some []
  | none, '(' :: cs =>
    if cs.head? = some '(' then (scan none cs).map (.opening :: ·) else scan (some (0, [])) cs
  | none, ')' :: cs => (scan none cs).map (.closing :: ·)
  | none, ' ' :: 'A' :: 'N' :: 'D' :: ' ' :: cs => (scan none cs).map (.and :: ·)
  | none, ' ' :: 'O' :: 'R' :: ' ' :: cs => (scan none cs).map (.or :: ·)
  | none, _ => none
  | some _, [] => none
  | some (n, passed), c :: cs =>
    if c = '(' then scan (some (n + 1, c :: passed)) cs
    else if c = ')' then
      match n with
      | 0 => (scan none cs).map (.atom (String.ofList passed.reverse) :: ·)
      | n + 1 => scan (some (n, c :: passed)) cs
    else scan (some (n, c :: passed)) cs

/-- The tokens of a written condition. -/
def tokens? (text : String) : Option (List Token) :=
  scan none text.toList

/-! ## Phrases -/

inductive Phrase where
  | factor
  | conjunction
  | disjunction
  deriving DecidableEq, Repr

/-- The formulas that rows of tokens stand for; equal operators associate to the left. -/
inductive Derives : Phrase → List Token → Formula → Prop where
  | atom (text : String) : Derives .factor [.atom text] (.atom text)
  | paren {ts : List Token} {f : Formula} (h : Derives .disjunction ts f) :
    Derives .factor (.opening :: (ts ++ [.closing])) (.paren f)
  | single {ts : List Token} {f : Formula} (h : Derives .factor ts f) : Derives .conjunction ts f
  | and {ts us : List Token} {f g : Formula} (hf : Derives .conjunction ts f)
    (hg : Derives .factor us g) : Derives .conjunction (ts ++ .and :: us) (.and f g)
  | alone {ts : List Token} {f : Formula} (h : Derives .conjunction ts f) :
    Derives .disjunction ts f
  | or {ts us : List Token} {f g : Formula} (hf : Derives .disjunction ts f)
    (hg : Derives .conjunction us g) : Derives .disjunction (ts ++ .or :: us) (.or f g)

/-- A text reads as a formula. -/
def Reads (text : String) (f : Formula) : Prop :=
  ∃ ts, tokens? text = some ts ∧ Derives .disjunction ts f

/-! ## Unambiguity -/

/-- What was read of a disjunction in front of the next factor: the conjunctions before the last "or"
and the factors before the last "and". -/
structure Level where
  before? : Option Formula := none
  factors? : Option Formula := none

namespace Level

/-- The conjunction that ends in the factor `f`. -/
def conjunction (l : Level) (f : Formula) : Formula :=
  match l.factors? with
  | none => f
  | some g => .and g f

/-- The disjunction that ends in the factor `f`. -/
def disjunction (l : Level) (f : Formula) : Formula :=
  match l.before? with
  | none => l.conjunction f
  | some g => .or g (l.conjunction f)

end Level

/-- Reads tokens, where `read?` is a factor that was read last. Each open parenthesis has its level, the
innermost in `here`. -/
def parse (outer : List Level) (here : Level) : Option Formula → List Token → Option Formula
  | none, .atom text :: ts => parse outer here (some (.atom text)) ts
  | none, .opening :: ts => parse (here :: outer) {} none ts
  | some f, .and :: ts => parse outer ⟨here.before?, some (here.conjunction f)⟩ none ts
  | some f, .or :: ts => parse outer ⟨some (here.disjunction f), none⟩ none ts
  | some f, .closing :: ts =>
    match outer with
    | [] => none
    | l :: outer => parse outer l (some (.paren (here.disjunction f))) ts
  | some f, [] => if outer.isEmpty then some (here.disjunction f) else none
  | _, _ => none

/-- Where the reader stands behind a phrase. -/
def Phrase.Parsed : Phrase → List Token → Formula → Prop
  | factor, ts, f => ∀ outer here rest,
    parse outer here none (ts ++ rest) = parse outer here (some f) rest
  | conjunction, ts, f => ∀ outer before? rest, ∃ factors? g,
    parse outer ⟨before?, none⟩ none (ts ++ rest) = parse outer ⟨before?, factors?⟩ (some g) rest ∧
      (⟨before?, factors?⟩ : Level).conjunction g = f
  | disjunction, ts, f => ∀ outer rest, ∃ l g,
    parse outer {} none (ts ++ rest) = parse outer l (some g) rest ∧ l.disjunction g = f

/-- The reader follows every derivation. -/
theorem Derives.parsed {phrase : Phrase} {ts : List Token} {f : Formula} (h : Derives phrase ts f) :
    phrase.Parsed ts f := by
  induction h with
  | atom text =>
    intro outer here rest
    rfl
  | paren _ ih =>
    intro outer here rest
    obtain ⟨l, g, hp, rfl⟩ := ih (here :: outer) (.closing :: rest)
    rw [List.cons_append, List.append_assoc, parse, List.singleton_append, hp]
    rfl
  | single _ ih =>
    intro outer before? rest
    exact ⟨none, _, ih outer ⟨before?, none⟩ rest, rfl⟩
  | @and ts us f g _ _ ihf ihg =>
    intro outer before? rest
    obtain ⟨factors?, e, hp, rfl⟩ := ihf outer before? (.and :: (us ++ rest))
    refine ⟨some ((⟨before?, factors?⟩ : Level).conjunction e), g, ?_, rfl⟩
    rw [List.append_assoc, List.cons_append, hp, parse, ihg]
  | alone _ ih =>
    intro outer rest
    obtain ⟨factors?, g, hp, rfl⟩ := ih outer none rest
    exact ⟨_, g, hp, rfl⟩
  | @or ts us f g _ _ ihf ihg =>
    intro outer rest
    obtain ⟨l, e, hp, rfl⟩ := ihf outer (.or :: (us ++ rest))
    obtain ⟨factors?, e', hp', rfl⟩ := ihg outer (some (l.disjunction e)) rest
    refine ⟨⟨some (l.disjunction e), factors?⟩, e', ?_, rfl⟩
    rw [List.append_assoc, List.cons_append, hp, parse, hp']

theorem Derives.parse_eq {ts : List Token} {f : Formula} (h : Derives .disjunction ts f) :
    parse [] {} none ts = some f := by
  obtain ⟨l, g, hp, rfl⟩ := h.parsed [] []
  rw [List.append_nil] at hp
  rw [hp]
  rfl

/-- A text reads as one formula at most. -/
theorem Reads.unique {text : String} {f g : Formula} (hf : Reads text f) (hg : Reads text g) :
    f = g := by
  obtain ⟨ts, ht, hf⟩ := hf
  obtain ⟨us, hu, hg⟩ := hg
  have he : ts = us := Option.some.inj (ht.symm.trans hu)
  subst he
  exact Option.some.inj (hf.parse_eq.symm.trans hg.parse_eq)

end DataFetch.Condition
