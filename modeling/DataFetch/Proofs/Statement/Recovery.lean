import DataFetch.Proofs.Condition.Recovery
import Mathlib.Data.List.Infix

/-! # Requests recovered from their statements

On layouts that put each part on a line of its own, the text of a statement tells the request, up to the
normal forms of its conditions. It is read from the front: the table ends where its line does, each of
the lines after it is known by the character that it opens with, and only the sort keys are read from the
back, since a column may end in the comma that also stands between keys. Main statement: two requests
have the same statement exactly when they are the same in normal form.
-/
namespace DataFetch

/-! ## Lines -/

namespace Layout

/-- The characters of lines that follow another line. -/
def below (lines : List String) : List Char :=
  lines.flatMap fun line => '\n' :: line.toList

def Opens (c : Char) (line : String) : Prop :=
  line.toList.head? = some c ∧ '\n' ∉ line.toList

/-- Nothing, or a line break in front. -/
def Breaks (cs : List Char) : Prop :=
  ∀ c ∈ cs.head?, c = '\n'

/-- Nothing, or a line that does not open with `c`. -/
def Avoids (c : Char) (cs : List Char) : Prop :=
  cs = [] ∨ ∃ d rest, cs = '\n' :: d :: rest ∧ d ≠ c

theorem below_append (as bs : List String) : below (as ++ bs) = below as ++ below bs :=
  List.flatMap_append

theorem below_cons (line : String) (rest : List String) :
    below (line :: rest) = '\n' :: (line.toList ++ below rest) := rfl

theorem toList_intercalate_newline (line : String) (lines : List String) :
    ("\n".intercalate (line :: lines)).toList = line.toList ++ below lines := by
  induction lines generalizing line with
  | nil => simp [below]
  | cons next rest ih =>
    rw [String.intercalate_cons_cons, String.toList_append, String.toList_append, ih, below_cons]
    simp

theorem avoids_below_cons {c d : Char} {line : String} (h : line.toList.head? = some d)
    (hne : d ≠ c) (rest : List String) : Avoids c (below (line :: rest)) := by
  obtain ⟨cs, hcs⟩ := List.head?_eq_some_iff.mp h
  exact .inr ⟨d, cs ++ below rest, by rw [below_cons, hcs, List.cons_append], hne⟩

theorem Opens.exists_below_append {c : Char} {line : String} (h : Opens c line)
    (rest : List String) (cs : List Char) :
    ∃ ds, below (line :: rest) ++ cs = '\n' :: c :: ds := by
  obtain ⟨es, hes⟩ := List.head?_eq_some_iff.mp h.1
  exact ⟨es ++ below rest ++ cs, by rw [below_cons, hes]; simp⟩

theorem Opens.not_avoids {c : Char} {line : String} (h : Opens c line) (rest : List String)
    (cs : List Char) : ¬ Avoids c (below (line :: rest) ++ cs) := by
  obtain ⟨ds, hds⟩ := h.exists_below_append rest cs
  rw [hds]
  rintro (hn | ⟨d, es, he, hne⟩)
  · cases hn
  · cases he
    exact hne rfl

theorem Avoids.breaks {c : Char} {cs : List Char} (h : Avoids c cs) : Breaks cs := by
  intro d hd
  rcases h with rfl | ⟨e, rest, rfl, -⟩
  · cases hd
  · cases hd
    rfl

theorem Breaks.below_append {cs : List Char} (h : Breaks cs) (lines : List String) :
    Breaks (below lines ++ cs) := by
  cases lines with
  | nil => exact h
  | cons line rest =>
    intro d hd
    cases hd
    rfl

theorem breaks_below (lines : List String) : Breaks (below lines) := by
  have hnil : Breaks [] := nofun
  simpa using hnil.below_append lines

/-- Texts without a line break end where a line break or nothing follows. -/
theorem append_inj_of_break {as bs x y : List Char} (ha : '\n' ∉ as) (hb : '\n' ∉ bs)
    (hx : Breaks x) (hy : Breaks y) (h : as ++ x = bs ++ y) : as = bs ∧ x = y := by
  rcases List.append_eq_append_iff.mp h with ⟨cs, rfl, rfl⟩ | ⟨cs, rfl, rfl⟩
  · cases cs with
    | nil => exact ⟨(List.append_nil as).symm, rfl⟩
    | cons c cs =>
      have hc : c = '\n' := hx c rfl
      exact absurd (by simp [hc]) hb
  · cases cs with
    | nil => exact ⟨List.append_nil bs, rfl⟩
    | cons c cs =>
      have hc : c = '\n' := hy c rfl
      exact absurd (by simp [hc]) ha

/-- Lines that open with `c` end where no further line does. -/
theorem below_append_inj {c : Char} {as bs : List String} {x y : List Char}
    (has : ∀ a ∈ as, Opens c a) (hbs : ∀ b ∈ bs, Opens c b) (hx : Avoids c x) (hy : Avoids c y)
    (h : below as ++ x = below bs ++ y) : as = bs ∧ x = y := by
  induction as generalizing bs with
  | nil =>
    cases bs with
    | nil => exact ⟨rfl, h⟩
    | cons b bs =>
      have hb := (hbs b (List.mem_cons_self ..)).not_avoids bs y
      rw [← h] at hb
      exact absurd hx hb
  | cons a as ih =>
    have ha := has a (List.mem_cons_self ..)
    cases bs with
    | nil =>
      have hn := ha.not_avoids as x
      rw [h] at hn
      exact absurd hy hn
    | cons b bs =>
      have hb := hbs b (List.mem_cons_self ..)
      rw [below_cons, below_cons, List.cons_append, List.cons_append, List.append_assoc,
        List.append_assoc] at h
      obtain ⟨hab, hrest⟩ := append_inj_of_break ha.2 hb.2 (hx.breaks.below_append as)
        (hy.breaks.below_append bs) (List.cons.inj h).2
      obtain ⟨hs, hxy⟩ := ih (fun l hl => has l (List.mem_cons_of_mem _ hl))
        (fun l hl => hbs l (List.mem_cons_of_mem _ hl)) hrest
      exact ⟨by rw [String.toList_inj.mp hab, hs], hxy⟩

/-! ## Windows -/

theorem toList_numeral (n : Nat) : (numeral n).toList = Nat.toDigits 10 n := by
  have hn : ¬ (n : Int) < 0 := by omega
  rw [numeral, Value.showInt, if_neg hn, String.toList_ofList, Int.natAbs_natCast]

theorem numeral_inj {m n : Nat} (h : numeral m = numeral n) : m = n := by
  have hd : Nat.toDigits 10 m = Nat.toDigits 10 n := by
    rw [← toList_numeral, ← toList_numeral, h]
  rw [← Nat.ofDigitChars_ten_toDigits (n := m), ← Nat.ofDigitChars_ten_toDigits (n := n), hd]

theorem newline_not_mem_numeral (n : Nat) : '\n' ∉ (numeral n).toList := by
  intro h
  rw [toList_numeral] at h
  have hd := Nat.isDigit_of_mem_toDigits (by decide) (by decide) h
  exact absurd hd (by decide)

/-- The line of an offset. -/
def offsetLines (offset : Option Nat) : List String :=
  ((offset.map numeral).map fun o => "OFFSET " ++ o).toList

theorem below_offsetLines_some (n : Nat) :
    below (offsetLines (some n)) = '\n' :: ("OFFSET ".toList ++ (numeral n).toList) := by
  simp [offsetLines, below]

theorem offsetLines_inj {m n : Option Nat} (h : below (offsetLines m) = below (offsetLines n)) :
    m = n := by
  cases m with
  | none =>
    cases n with
    | none => rfl
    | some n =>
      rw [below_offsetLines_some] at h
      cases h
  | some m =>
    cases n with
    | none =>
      rw [below_offsetLines_some] at h
      cases h
    | some n =>
      rw [below_offsetLines_some, below_offsetLines_some] at h
      have hn := List.append_cancel_left (List.cons.inj h).2
      rw [numeral_inj (String.toList_inj.mp hn)]

variable {layout : Layout}

theorem windowLines_none :
    layout.windowLines ((none : Option Nat).map numeral) ((none : Option Nat).map numeral) = [] :=
  rfl

theorem windowLines_of_some {limit offset : Option Nat} (h : ¬ (limit = none ∧ offset = none)) :
    layout.windowLines (limit.map numeral) (offset.map numeral) =
      ("LIMIT " ++ (limit.map numeral).getD layout.unboundedLimit) :: offsetLines offset := by
  cases limit with
  | some n => rfl
  | none =>
    cases offset with
    | some n => rfl
    | none => exact absurd ⟨rfl, rfl⟩ h

/-- A limit is not taken for the one that stands for none. -/
theorem numeral_append_ne_unbounded (hu : ∀ n, layout.unboundedLimit ≠ numeral n) (n m : Nat)
    (offset : Option Nat) :
    (numeral n).toList ++ below (offsetLines offset) ≠
      layout.unboundedLimit.toList ++ below (offsetLines (some m)) := by
  have hn := newline_not_mem_numeral n
  rw [below_offsetLines_some]
  intro h
  -- the only line break on the left, if any, is the one in front of an offset
  cases offset with
  | none =>
    have hl : '\n' ∈ (numeral n).toList ++ below (offsetLines none) := by
      rw [h]
      simp
    rw [show below (offsetLines none) = [] from rfl, List.append_nil] at hl
    exact hn hl
  | some k =>
    have hk : '\n' ∉ "OFFSET ".toList ++ (numeral k).toList := by
      rw [List.mem_append, not_or]
      exact ⟨by decide, newline_not_mem_numeral k⟩
    rw [below_offsetLines_some, List.append_cons_inj_of_notMem hn hk] at h
    exact hu n (String.toList_inj.mp h.1.symm)

theorem bound_inj (hu : ∀ n, layout.unboundedLimit ≠ numeral n)
    {limit offset limit' offset' : Option Nat} (hn : ¬ (limit = none ∧ offset = none))
    (hn' : ¬ (limit' = none ∧ offset' = none))
    (h : ((limit.map numeral).getD layout.unboundedLimit).toList ++ below (offsetLines offset) =
      ((limit'.map numeral).getD layout.unboundedLimit).toList ++ below (offsetLines offset')) :
    limit = limit' ∧ offset = offset' := by
  cases limit with
  | none =>
    cases limit' with
    | none => exact ⟨rfl, offsetLines_inj (List.append_cancel_left h)⟩
    | some n =>
      cases offset with
      | none => exact absurd ⟨rfl, rfl⟩ hn
      | some m => exact absurd h.symm (numeral_append_ne_unbounded hu n m offset')
  | some n =>
    cases limit' with
    | none =>
      cases offset' with
      | none => exact absurd ⟨rfl, rfl⟩ hn'
      | some m => exact absurd h (numeral_append_ne_unbounded hu n m offset)
    | some n' =>
      obtain ⟨hl, ho⟩ := append_inj_of_break (newline_not_mem_numeral n)
        (newline_not_mem_numeral n') (breaks_below _) (breaks_below _) h
      rw [numeral_inj (String.toList_inj.mp hl), offsetLines_inj ho]
      exact ⟨rfl, rfl⟩

theorem windowLines_inj (hu : ∀ n, layout.unboundedLimit ≠ numeral n)
    {limit offset limit' offset' : Option Nat}
    (h : below (layout.windowLines (limit.map numeral) (offset.map numeral)) =
      below (layout.windowLines (limit'.map numeral) (offset'.map numeral))) :
    limit = limit' ∧ offset = offset' := by
  by_cases hn : limit = none ∧ offset = none
  · obtain ⟨rfl, rfl⟩ := hn
    by_cases hn' : limit' = none ∧ offset' = none
    · exact ⟨hn'.1.symm, hn'.2.symm⟩
    · rw [windowLines_none, windowLines_of_some hn'] at h
      cases h
  · by_cases hn' : limit' = none ∧ offset' = none
    · obtain ⟨rfl, rfl⟩ := hn'
      rw [windowLines_none, windowLines_of_some hn] at h
      cases h
    · rw [windowLines_of_some hn, windowLines_of_some hn', below_cons, below_cons,
        String.toList_append, String.toList_append, List.append_assoc, List.append_assoc] at h
      exact bound_inj hu hn hn' (List.append_cancel_left (List.cons.inj h).2)

end Layout

/-! ## Sort keys -/

namespace SortKey

/-- The characters of sort keys, each with a comma behind it. -/
def listing (ks : List SortKey) : List Char :=
  ks.flatMap fun k => k.column.toList ++ ' ' :: k.direction.word.toList ++ [',', ' ']

/-- Nothing, or a comma and a blank at the end. -/
def Ended (cs : List Char) : Prop :=
  cs = [] ∨ ∃ front, cs = front ++ [',', ' ']

theorem listing_concat (ks : List SortKey) (k : SortKey) :
    listing (ks ++ [k]) =
      (listing ks ++ k.column.toList) ++ ' ' :: k.direction.word.toList ++ [',', ' '] := by
  simp [listing]

theorem toList_orderText {ks : List SortKey} (h : ks ≠ []) :
    (orderText ks).toList ++ [',', ' '] = "ORDER BY ".toList ++ listing ks := by
  suffices hi : (", ".intercalate (ks.map fun k => k.column ++ " " ++ k.direction.word)).toList ++
      [',', ' '] = listing ks by
    rw [orderText, String.toList_append, List.append_assoc, hi]
  induction ks with
  | nil => exact absurd rfl h
  | cons k rest ih =>
    cases rest with
    | nil => simp [listing]
    | cons l rest =>
      have hr := ih (List.cons_ne_nil l rest)
      rw [List.map_cons] at hr
      rw [List.map_cons, List.map_cons, String.intercalate_cons_cons, String.toList_append,
        List.append_assoc, hr]
      simp [listing]

theorem newline_not_mem_listing {ks : List SortKey} (h : ∀ k ∈ ks, '\n' ∉ k.column.toList) :
    '\n' ∉ listing ks := by
  intro hn
  obtain ⟨k, hk, hc⟩ := List.mem_flatMap.mp hn
  have hd : '\n' ∉ k.direction.word.toList := by cases k.direction <;> decide
  simp [h k hk, hd] at hc

theorem ended_listing (ks : List SortKey) : Ended (listing ks) := by
  cases ks using List.reverseRecOn with
  | nil => exact .inl rfl
  | append_singleton rest k => exact .inr ⟨_, listing_concat rest k⟩

theorem direction_inj {as bs : List Char} {d e : Direction}
    (h : as ++ ' ' :: d.word.toList = bs ++ ' ' :: e.word.toList) : as = bs ∧ d = e := by
  cases d with
  | ascending =>
    cases e with
    | ascending => exact ⟨List.append_cancel_right h, rfl⟩
    | descending =>
      have hd : as ++ " ASC".toList = (bs ++ [' ']) ++ "DESC".toList := by
        rw [List.append_assoc]
        exact h
      exact absurd (List.append_inj' hd rfl).2 (by decide)
  | descending =>
    cases e with
    | ascending =>
      have hd : (as ++ [' ']) ++ "DESC".toList = bs ++ " ASC".toList := by
        rw [List.append_assoc]
        exact h
      exact absurd (List.append_inj' hd rfl).2 (by decide)
    | descending => exact ⟨List.append_cancel_right h, rfl⟩

/-- A column that holds no comma with a blank behind it starts at the last such comma in front. -/
theorem Ended.eq_nil {front extra column : List Char} (hfront : Ended front)
    (hextra : Ended (front ++ extra)) (hcolumn : ¬ [',', ' '] <:+: extra ++ column) : extra = [] := by
  cases extra using List.reverseRecOn with
  | nil => rfl
  | append_singleton extra b =>
    obtain ⟨cs, hcs⟩ := hextra.resolve_left (by simp)
    have hcs' : (front ++ extra) ++ [b] = (cs ++ [',']) ++ [' '] := by simpa using hcs
    obtain ⟨hcomma, hb⟩ := List.append_inj' hcs' rfl
    cases extra using List.reverseRecOn with
    | nil =>
      -- the extra blank would stand behind a comma, but what is in front ends in a blank
      rcases hfront with rfl | ⟨ds, rfl⟩
      · simp at hcomma
      · rw [List.append_nil, show ds ++ [',', ' '] = (ds ++ [',']) ++ [' '] by simp] at hcomma
        exact absurd (List.append_inj' hcomma rfl).2 (by decide)
    | append_singleton extra a =>
      rw [← List.append_assoc] at hcomma
      obtain ⟨-, ha⟩ := List.append_inj' hcomma rfl
      refine absurd ⟨extra, column, ?_⟩ hcolumn
      simp [List.singleton_inj.mp ha, List.singleton_inj.mp hb]

theorem column_inj {as bs cs ds : List Char} (has : Ended as) (hbs : Ended bs)
    (hcs : ¬ [',', ' '] <:+: cs) (hds : ¬ [',', ' '] <:+: ds) (h : as ++ cs = bs ++ ds) :
    as = bs ∧ cs = ds := by
  rcases List.append_eq_append_iff.mp h with ⟨es, rfl, rfl⟩ | ⟨es, rfl, rfl⟩
  · have he := has.eq_nil hbs hcs
    subst he
    exact ⟨(List.append_nil as).symm, rfl⟩
  · have he := hbs.eq_nil has hds
    subst he
    exact ⟨List.append_nil bs, rfl⟩

theorem listing_inj {ks ls : List SortKey} (hks : ∀ k ∈ ks, ¬ [',', ' '] <:+: k.column.toList)
    (hls : ∀ l ∈ ls, ¬ [',', ' '] <:+: l.column.toList) (h : listing ks = listing ls) :
    ks = ls := by
  -- from the last key to the first: the direction is a word without a blank, the column goes back
  -- to the last comma and blank
  induction ks using List.reverseRecOn generalizing ls with
  | nil =>
    cases ls using List.reverseRecOn with
    | nil => rfl
    | append_singleton rest l =>
      rw [listing_concat] at h
      exact absurd h.symm (List.append_ne_nil_of_right_ne_nil _ (List.cons_ne_nil _ _))
  | append_singleton ks k ih =>
    cases ls using List.reverseRecOn with
    | nil =>
      rw [listing_concat] at h
      exact absurd h (List.append_ne_nil_of_right_ne_nil _ (List.cons_ne_nil _ _))
    | append_singleton rest l =>
      rw [listing_concat, listing_concat] at h
      obtain ⟨hc, hdirection⟩ := direction_inj (List.append_cancel_right h)
      obtain ⟨hrest, hcolumn⟩ := column_inj (ended_listing ks) (ended_listing rest)
        (hks k (by simp)) (hls l (by simp)) hc
      have hkl : k = l := by
        cases k
        cases l
        rw [String.toList_inj] at hcolumn
        rw [SortKey.mk.injEq]
        exact ⟨hcolumn, hdirection⟩
      rw [ih (fun j hj => hks j (by simp [hj])) (fun j hj => hls j (by simp [hj])) hrest, hkl]

end SortKey

/-! ## Requests -/

namespace Condition.Formula

theorem newline_not_mem_text {f : Formula} (h : ∀ t ∈ f.atoms, '\n' ∉ t.toList) :
    '\n' ∉ f.text.toList := by
  induction f with
  | atom t => simpa [text, atoms] using h
  | paren f ih => simpa [text] using ih h
  | and f g ihf ihg =>
    have hf := ihf fun t ht => h t (List.mem_append_left _ ht)
    have hg := ihg fun t ht => h t (List.mem_append_right _ ht)
    simp [text, hf, hg]
  | or f g ihf ihg =>
    have hf := ihf fun t ht => h t (List.mem_append_left _ ht)
    have hg := ihg fun t ht => h t (List.mem_append_right _ ht)
    simp [text, hf, hg]

end Condition.Formula

open Condition

/-- The texts of a request keep to their lines, its fragments can stand as atoms, and no column holds
what stands between sort keys. -/
structure FetchRequest.Legible (r : FetchRequest) : Prop where
  table : '\n' ∉ r.table.toList
  fragments : ∀ l ∈ r.leaves, Atomic l.1 ∧ '\n' ∉ l.1.toList
  columns : ∀ k ∈ r.sort, '\n' ∉ k.column.toList ∧ ¬ [',', ' '] <:+: k.column.toList

namespace Layout

theorem opens_of_mem_whereLines {ps : List Predicate}
    (h : ∀ l ∈ Predicate.leavesOf ps, '\n' ∉ l.1.toList) : ∀ line ∈ whereLines ps, Opens 'W' line := by
  intro line hline
  by_cases hn : Predicate.leavesOf ps = []
  · rw [whereLines_eq_nil_iff.mpr hn] at hline
    cases hline
  · obtain ⟨f, hf⟩ := Predicate.exists_formula? .and hn
    rw [whereLines_of_ne_nil hn, List.mem_singleton, Predicate.text_of_formula? hf] at hline
    have hatoms : ∀ t ∈ f.atoms, '\n' ∉ t.toList := by
      intro t ht
      rw [Predicate.atoms_of_formula? hf] at ht
      obtain ⟨l, hl, rfl⟩ := List.mem_map.mp ht
      exact h l hl
    have ht := Formula.newline_not_mem_text hatoms
    subst hline
    exact ⟨by simp, by simp [ht]⟩

theorem opens_of_mem_orderLines {sort : List SortKey} (h : ∀ k ∈ sort, '\n' ∉ k.column.toList) :
    ∀ line ∈ orderLines sort, Opens 'O' line := by
  intro line hline
  cases sort with
  | nil => cases hline
  | cons k rest =>
    have ht := SortKey.toList_orderText (List.cons_ne_nil k rest)
    have hn := SortKey.newline_not_mem_listing h
    cases List.mem_singleton.mp hline
    constructor
    · simp [orderText]
    · intro hline
      have hm := List.mem_append_left [',', ' '] hline
      rw [ht, List.mem_append] at hm
      exact hm.elim (by decide) hn

theorem avoids_windowLines (layout : Layout) {c : Char} (hc : 'L' ≠ c) (limit offset : Option Nat) :
    Avoids c (below (layout.windowLines (limit.map numeral) (offset.map numeral))) := by
  by_cases hn : limit = none ∧ offset = none
  · obtain ⟨rfl, rfl⟩ := hn
    exact .inl rfl
  · rw [windowLines_of_some hn]
    exact avoids_below_cons (by simp) hc _

theorem avoids_closingLines (layout : Layout) (r : FetchRequest) :
    Avoids 'W' (below (layout.closingLines r)) := by
  rw [closingLines]
  cases r.sort with
  | nil => exact layout.avoids_windowLines (by decide) r.limit r.offset
  | cons k rest =>
    have ho : (orderText (k :: rest)).toList.head? = some 'O' := by simp [orderText]
    exact avoids_below_cons ho (by decide) _

theorem text_of_whereLines_eq {ps qs : List Predicate} (h : whereLines ps = whereLines qs) :
    (Predicate.writeTogether .and ps).text = (Predicate.writeTogether .and qs).text := by
  by_cases hp : Predicate.leavesOf ps = []
  · have hq : Predicate.leavesOf qs = [] := by
      rw [← whereLines_eq_nil_iff, ← h, whereLines_eq_nil_iff.mpr hp]
    rw [Predicate.text_writeTogether_eq_empty_iff.mpr hp,
      Predicate.text_writeTogether_eq_empty_iff.mpr hq]
  · have hq : Predicate.leavesOf qs ≠ [] := by
      rw [← whereLines_eq_nil_iff.ne, ← h]
      exact mt whereLines_eq_nil_iff.mp hp
    rw [whereLines_of_ne_nil hp, whereLines_of_ne_nil hq] at h
    exact (String.append_right_inj _).mp (List.singleton_inj.mp h)

theorem sort_of_orderLines_eq {ks ls : List SortKey}
    (hks : ∀ k ∈ ks, ¬ [',', ' '] <:+: k.column.toList)
    (hls : ∀ l ∈ ls, ¬ [',', ' '] <:+: l.column.toList) (h : orderLines ks = orderLines ls) :
    ks = ls := by
  cases ks with
  | nil =>
    cases ls with
    | nil => rfl
    | cons l ls => cases h
  | cons k ks =>
    cases ls with
    | nil => cases h
    | cons l ls =>
      have ht : orderText (k :: ks) = orderText (l :: ls) := List.singleton_inj.mp h
      have hk := SortKey.toList_orderText (List.cons_ne_nil k ks)
      have hl := SortKey.toList_orderText (List.cons_ne_nil l ls)
      rw [ht, hl] at hk
      exact SortKey.listing_inj hks hls (List.append_cancel_left hk.symm)

variable {layout : Layout} {r s : FetchRequest}

theorem normalForm_eq_of_text_eq (hseparator : layout.separator = "\n")
    (hu : ∀ n, layout.unboundedLimit ≠ numeral n) (hr : r.Legible) (hs : s.Legible)
    (h : (layout.write r).text = (layout.write s).text) : r.normalForm = s.normalForm := by
  rw [write, write, hseparator, lines, lines] at h
  have hlines := congrArg String.toList h
  have hselect : ∀ table : String, (layout.selectLine table).toList =
      ("SELECT " ++ layout.columns ++ " FROM ").toList ++ table.toList :=
    fun table => String.toList_append
  rw [toList_intercalate_newline, toList_intercalate_newline, hselect, hselect, List.append_assoc,
    List.append_assoc] at hlines
  obtain ⟨htable, hrest⟩ := append_inj_of_break hr.table hs.table (breaks_below _)
    (breaks_below _) (List.append_cancel_left hlines)
  rw [below_append, below_append] at hrest
  obtain ⟨hwhere, hclosing⟩ := below_append_inj
    (opens_of_mem_whereLines fun l hl => (hr.fragments l hl).2)
    (opens_of_mem_whereLines fun l hl => (hs.fragments l hl).2)
    (layout.avoids_closingLines r) (layout.avoids_closingLines s) hrest
  rw [closingLines, closingLines, below_append, below_append] at hclosing
  obtain ⟨horder, hwindow⟩ := below_append_inj
    (opens_of_mem_orderLines fun k hk => (hr.columns k hk).1)
    (opens_of_mem_orderLines fun k hk => (hs.columns k hk).1)
    (layout.avoids_windowLines (by decide) r.limit r.offset)
    (layout.avoids_windowLines (by decide) s.limit s.offset) hclosing
  have hsort := sort_of_orderLines_eq (fun k hk => (hr.columns k hk).2)
    (fun k hk => (hs.columns k hk).2) horder
  have hforms := Predicate.normalForms_eq_of_text_eq (fun l hl => (hr.fragments l hl).1)
    (fun l hl => (hs.fragments l hl).1) (text_of_whereLines_eq hwhere)
  obtain ⟨hlimit, hoffset⟩ := windowLines_inj hu hwindow
  rw [FetchRequest.normalForm, FetchRequest.normalForm, String.toList_inj.mp htable, hforms, hsort,
    hlimit, hoffset]

/-- On layouts of lines whose limit for none is no numeral, legible requests have the same statement
exactly when they are the same up to values, groups without a fragment and operators that join
nothing. -/
theorem text_tells_normal_form (hseparator : layout.separator = "\n")
    (hu : ∀ n, layout.unboundedLimit ≠ numeral n) (hr : r.Legible) (hs : s.Legible) :
    ((layout.write r).text = (layout.write s).text ↔ r.normalForm = s.normalForm) ∧
    ∀ c d, layout.compile r = .ok c → layout.compile s = .ok d →
      (c.text = d.text ↔ r.normalForm = s.normalForm) := by
  have hw : (layout.write r).text = (layout.write s).text ↔ r.normalForm = s.normalForm := by
    constructor
    · exact normalForm_eq_of_text_eq hseparator hu hr hs
    · intro h
      rw [← layout.text_write_normalForm r, ← layout.text_write_normalForm s, h]
  refine ⟨hw, ?_⟩
  intro c d hc hd
  rw [(compile_eq_ok_iff.mp hc).2, (compile_eq_ok_iff.mp hd).2]
  exact hw

theorem text_tells_groups :
    let layout : Layout := {}
    let r : FetchRequest :=
      { table := "t"
        predicates := [.group .and [.simple "f(a) = ?" [.int 1]], .group .or []]
        sort := [⟨"a,", .descending⟩, ⟨"b", .ascending⟩]
        offset := some 3 }
    let s : FetchRequest :=
      { r with predicates := [.group .or [.group .and [], .simple "f(a) = ?" []]] }
    layout.separator = "\n" ∧ (∀ n, layout.unboundedLimit ≠ numeral n) ∧ r.Legible ∧ s.Legible ∧
      (layout.write r).text = (layout.write s).text ∧ r.normalForm = s.normalForm := by
  intro layout r s
  have hu : ∀ n, layout.unboundedLimit ≠ numeral n := by
    intro n h
    have hm : '-' ∈ Nat.toDigits 10 n := by
      rw [← toList_numeral, ← h]
      decide
    exact absurd (Nat.isDigit_of_mem_toDigits (by decide) (by decide) hm) (by decide)
  have hr : r.Legible := ⟨by decide, by decide, by decide⟩
  have hs : s.Legible := ⟨by decide, by decide, by decide⟩
  have ht : (layout.write r).text = (layout.write s).text := by decide +kernel
  exact ⟨rfl, hu, hr, hs, ht, (text_tells_normal_form rfl hu hr hs).1.mp ht⟩

end Layout

end DataFetch
