import DataFetch.Decimal.Binary64
import Mathlib.Algebra.Ring.Int.Defs
import Mathlib.Algebra.Ring.Nat

/-! # Whole numbers as floating point numbers

Every finite number is a whole number of quanta, the least positive number being one quantum. Main
statements: a whole number becomes a number that no other is nearer to, and it becomes none exactly when
it reaches the half way to where the next number would be after the largest one.
-/
namespace DataFetch.Binary64

theorem twoTo_eq (k : Nat) : twoTo k = 2 ^ k := rfl

/-! ## Rounding -/

theorem roundShift_eq (n k : Nat) :
    roundShift n k =
      if 2 ^ k < 2 * (n % 2 ^ k) ∨ 2 * (n % 2 ^ k) = 2 ^ k ∧ n / 2 ^ k % 2 = 1 then n / 2 ^ k + 1
      else n / 2 ^ k := by
  simp [roundShift, twoTo_eq]

/-- What rounding leaves out is at most half a unit. -/
theorem roundShift_near (n k : Nat) :
    2 * ((n : Int) - (roundShift n k * 2 ^ k : Nat)).natAbs ≤ 2 ^ k := by
  have hdiv := Nat.div_add_mod n (2 ^ k)
  have hmod := Nat.mod_lt n (Nat.two_pow_pos k)
  rw [Nat.mul_comm] at hdiv
  rw [roundShift_eq]
  split
  · rw [Nat.add_mul, Nat.one_mul]
    omega
  · omega

/-! ## The word of a whole number -/

/-- The significand of a whole number, with 53 binary digits or the next power of two. -/
def significandOf (n : Nat) : Nat :=
  if 52 < n.log2 then roundShift n (n.log2 - 52) else n * 2 ^ (52 - n.log2)

def wordOf (n : Nat) : Nat :=
  (n.log2 + 1022) * 2 ^ 52 + significandOf n

theorem significandOf_bounds {n : Nat} (hn : n ≠ 0) :
    2 ^ 52 ≤ significandOf n ∧ significandOf n ≤ 2 ^ 53 := by
  have hlow := Nat.log2_self_le hn
  have hhigh := Nat.lt_log2_self (n := n)
  rw [significandOf]
  split
  · rename_i hl
    have hpos := Nat.two_pow_pos (n.log2 - 52)
    have hq : 2 ^ 52 ≤ n / 2 ^ (n.log2 - 52) := by
      rw [Nat.le_div_iff_mul_le hpos, ← Nat.pow_add]
      rwa [Nat.add_sub_cancel' (Nat.le_of_lt hl)]
    have hq' : n / 2 ^ (n.log2 - 52) < 2 ^ 53 := by
      rw [Nat.div_lt_iff_lt_mul hpos, ← Nat.pow_add]
      have hexponent : 53 + (n.log2 - 52) = n.log2 + 1 := by omega
      rwa [hexponent]
    rw [roundShift_eq]
    split <;> omega
  · rename_i hl
    have hleast : 2 ^ n.log2 * 2 ^ (52 - n.log2) = 2 ^ 52 := by
      rw [← Nat.pow_add]
      congr 1
      omega
    have hnext : 2 ^ (n.log2 + 1) * 2 ^ (52 - n.log2) = 2 ^ 53 := by
      rw [← Nat.pow_add]
      congr 1
      omega
    have hge := Nat.mul_le_mul_right (2 ^ (52 - n.log2)) hlow
    have hle := Nat.mul_le_mul_right (2 ^ (52 - n.log2)) (Nat.le_of_lt hhigh)
    omega

/-- A number is rounded once; it is infinite when its word reaches the one of the infinite number. -/
theorem ofDyadic_eq {n : Nat} (hn : n ≠ 0) :
    ofDyadic false n 0 =
      if 2047 * 2 ^ 52 ≤ wordOf n then infinity false else ofMagnitude false (wordOf n) := by
  obtain ⟨hlow, -⟩ := significandOf_bounds hn
  have hunit : max ((n.log2 : Int) + 0 - 52) (-1074) = (n.log2 : Int) - 52 := by omega
  have hword : ((n.log2 : Int) - 52 + 1074).toNat = n.log2 + 1022 := by omega
  have hsignificand : (if (0 : Int) < (n.log2 : Int) - 52 then
      roundShift n ((n.log2 : Int) - 52 - 0).toNat
      else n * 2 ^ (0 - ((n.log2 : Int) - 52)).toNat) = significandOf n := by
    rw [significandOf]
    by_cases hl : 52 < n.log2
    · have hk : ((n.log2 : Int) - 52 - 0).toNat = n.log2 - 52 := by omega
      rw [if_pos (by omega), if_pos hl, hk]
    · have hk : (0 - ((n.log2 : Int) - 52)).toNat = 52 - n.log2 := by omega
      rw [if_neg (by omega), if_neg hl, hk]
  rw [ofDyadic, if_neg hn]
  dsimp only [twoTo_eq]
  rw [hunit, hsignificand, hword, ← wordOf]
  by_cases hl : 1024 ≤ n.log2
  · have hinfinite : 2047 * 2 ^ 52 ≤ wordOf n := by
      rw [wordOf]
      omega
    rw [if_pos (by omega), if_pos hinfinite]
  · exact if_neg (by omega)

theorem toNat_bits_ofMagnitude {m : Nat} (h : m < 2 ^ 63) :
    (ofMagnitude false m).bits.toNat = m := by
  simp only [ofMagnitude, Bool.false_eq_true, if_false, UInt64.toNat_ofNat']
  omega

theorem magnitude_ofMagnitude {m : Nat} (h : m < 2 ^ 63) : (ofMagnitude false m).magnitude = m := by
  rw [magnitude, toNat_bits_ofMagnitude h, twoTo_eq]
  exact Nat.mod_eq_of_lt h

theorem isNegative_ofMagnitude {m : Nat} (h : m < 2 ^ 63) :
    (ofMagnitude false m).isNegative = false := by
  rw [isNegative, toNat_bits_ofMagnitude h, twoTo_eq]
  exact decide_eq_false (Nat.not_le_of_lt h)

theorem isFinite_eq (x : Binary64) : x.isFinite = (x.magnitude / 2 ^ 52 != 2047) := rfl

theorem isFinite_ofMagnitude {m : Nat} (h : m < 2047 * 2 ^ 52) :
    (ofMagnitude false m).isFinite = true := by
  have hp : m / 2 ^ 52 ≠ 2047 := by omega
  rw [isFinite_eq, magnitude_ofMagnitude (by omega)]
  exact bne_iff_ne.mpr hp

theorem not_isFinite_infinity : (infinity false).isFinite = false := by
  decide

theorem ofInt?_eq {n : Nat} (hn : n ≠ 0) :
    ofInt? n = if 2047 * 2 ^ 52 ≤ wordOf n then none else some (ofMagnitude false (wordOf n)) := by
  have hsign : decide ((n : Int) < 0) = false := decide_eq_false (by omega)
  rw [ofInt?, hsign, Int.natAbs_natCast, ofDyadic_eq hn]
  by_cases h : 2047 * 2 ^ 52 ≤ wordOf n
  · simp only [if_pos h, not_isFinite_infinity, Bool.false_eq_true, if_false]
  · simp only [if_neg h, isFinite_ofMagnitude (Nat.lt_of_not_le h), if_true]

/-! ## Numbers in quanta -/

/-- A finite number in quanta. -/
def quanta? (x : Binary64) : Option Int :=
  match x.datum with
  | .finite negative significand exponent =>
    some (scaledTo (-1074) negative significand exponent)
  | _ => none

/-- The quanta of a number without its sign. -/
def quantaOf (magnitude : Nat) : Nat :=
  if magnitude / 2 ^ 52 = 0 then magnitude
  else (magnitude % 2 ^ 52 + 2 ^ 52) * 2 ^ (magnitude / 2 ^ 52 - 1)

theorem datum_eq (x : Binary64) :
    x.datum =
      if x.magnitude / 2 ^ 52 = 2047 then
        if x.magnitude % 2 ^ 52 = 0 then .infinite x.isNegative else .nan
      else if x.magnitude / 2 ^ 52 = 0 then .finite x.isNegative (x.magnitude % 2 ^ 52) (-1074)
      else
        .finite x.isNegative (x.magnitude % 2 ^ 52 + 2 ^ 52)
          (((x.magnitude / 2 ^ 52 : Nat) : Int) - 1075) :=
  rfl

theorem quanta?_eq (x : Binary64) :
    x.quanta? = if x.isFinite then
      some (if x.isNegative then -(quantaOf x.magnitude : Int) else quantaOf x.magnitude) else none := by
  have hlow : x.magnitude / 2 ^ 52 = 0 → x.magnitude % 2 ^ 52 = x.magnitude := by omega
  have hexp : (((x.magnitude / 2 ^ 52 : Nat) : Int) - 1075 - (-1074)).toNat =
      x.magnitude / 2 ^ 52 - 1 := by omega
  rw [quanta?, datum_eq, isFinite_eq, quantaOf]
  by_cases h : x.magnitude / 2 ^ 52 = 2047
  · have hfinite : (x.magnitude / 2 ^ 52 != 2047) = false := by
      rw [h]
      rfl
    rw [if_pos h, hfinite]
    by_cases h0 : x.magnitude % 2 ^ 52 = 0
    · rw [if_pos h0]
      rfl
    · rw [if_neg h0]
      rfl
  · have hfinite : (x.magnitude / 2 ^ 52 != 2047) = true := bne_iff_ne.mpr h
    rw [if_neg h, hfinite, if_pos rfl]
    by_cases h0 : x.magnitude / 2 ^ 52 = 0
    · have hunit : x.magnitude * twoTo ((-1074 : Int) - -1074).toNat = x.magnitude := Nat.mul_one _
      rw [if_pos h0, if_pos h0, hlow h0]
      dsimp only [scaledTo]
      rw [hunit]
    · rw [if_neg h0, if_neg h0]
      dsimp only [scaledTo]
      rw [hexp, twoTo_eq]

/-- The quanta of a word with this exponent and this significand, which may be the next power of two. -/
theorem quantaOf_word {t significand : Nat} (hlow : 2 ^ 52 ≤ significand)
    (hhigh : significand ≤ 2 ^ 53) : quantaOf (t * 2 ^ 52 + significand) = significand * 2 ^ t := by
  by_cases h : significand = 2 ^ 53
  · have hdiv : (t * 2 ^ 52 + significand) / 2 ^ 52 = t + 2 := by omega
    have hmod : (t * 2 ^ 52 + significand) % 2 ^ 52 = 0 := by omega
    rw [quantaOf, hdiv, hmod, if_neg (by omega), h, Nat.zero_add, Nat.add_succ_sub_one, Nat.pow_succ]
    omega
  · have hdiv : (t * 2 ^ 52 + significand) / 2 ^ 52 = t + 1 := by omega
    have hmod : (t * 2 ^ 52 + significand) % 2 ^ 52 + 2 ^ 52 = significand := by omega
    rw [quantaOf, hdiv, hmod, if_neg (by omega), Nat.add_sub_cancel]

/-- Above a power of two every number is a multiple of what its significand counts. -/
theorem dvd_quantaOf {t m : Nat} (h : 2 ^ (52 + t) ≤ quantaOf m) : 2 ^ t ∣ quantaOf m := by
  rw [quantaOf] at h ⊢
  split at h
  · rename_i h0
    have hpow : 2 ^ 52 ≤ 2 ^ (52 + t) := Nat.pow_le_pow_right (by decide) (by omega)
    omega
  · rename_i h0
    rw [if_neg h0]
    have hlt : (m % 2 ^ 52 + 2 ^ 52) * 2 ^ (m / 2 ^ 52 - 1) < 2 ^ 53 * 2 ^ (m / 2 ^ 52 - 1) :=
      Nat.mul_lt_mul_of_pos_right (by omega) (Nat.two_pow_pos _)
    rw [← Nat.pow_add] at hlt
    have hexp := (Nat.pow_lt_pow_iff_right (by decide)).mp (Nat.lt_of_le_of_lt h hlt)
    exact Nat.dvd_mul_left_of_dvd (Nat.pow_dvd_pow 2 (by omega)) _

/-- The quanta of one. -/
def quantaPerUnit : Nat := twoTo 1074

theorem pow_mul_quantaPerUnit {j k : Nat} (h : k = j + 1074) : 2 ^ j * quantaPerUnit = 2 ^ k := by
  rw [h, Nat.pow_add, quantaPerUnit, twoTo_eq]

/-! ## Nearest numbers -/

/-- No finite number is nearer to the whole number. -/
def IsNearest (x : Binary64) (n : Nat) : Prop :=
  ∃ v, x.quanta? = some v ∧ ∀ (y : Binary64) (w : Int), y.quanta? = some w →
    (((n * quantaPerUnit : Nat) : Int) - v).natAbs ≤ (((n * quantaPerUnit : Nat) : Int) - w).natAbs

/-- Of the multiples of a unit, one that is at most half a unit away is nearest. -/
theorem nearest_of_dvd {n v w unit : Int} (hv : 2 * (n - v).natAbs ≤ unit) (hdv : unit ∣ v)
    (hdw : unit ∣ w) : (n - v).natAbs ≤ (n - w).natAbs := by
  by_cases h : v = w
  · subst h
    exact Nat.le_refl _
  · have hpos : 0 < (v - w).natAbs := by omega
    have hle := Nat.le_of_dvd hpos (Int.natAbs_dvd_natAbs.mpr (Int.dvd_sub hdv hdw))
    omega

theorem significandOf_near (n : Nat) :
    2 * (((n * quantaPerUnit : Nat) : Int) -
      (significandOf n * 2 ^ (n.log2 + 1022) : Nat)).natAbs ≤ 2 ^ (n.log2 + 1022) := by
  rw [significandOf]
  split
  · rename_i hl
    have hpow := pow_mul_quantaPerUnit (j := n.log2 - 52) (k := n.log2 + 1022) (by omega)
    have hround := Nat.mul_le_mul_right quantaPerUnit (roundShift_near n (n.log2 - 52))
    rw [← hpow, ← Nat.mul_assoc]
    rwa [Nat.mul_assoc, ← Int.natAbs_natCast quantaPerUnit, ← Int.natAbs_mul, Int.sub_mul,
      Int.natAbs_natCast] at hround
  · rename_i hl
    have hexact : n * 2 ^ (52 - n.log2) * 2 ^ (n.log2 + 1022) = n * quantaPerUnit := by
      have hpow := pow_mul_quantaPerUnit (j := 0) (k := 52 - n.log2 + (n.log2 + 1022)) (by omega)
      rw [Nat.mul_assoc, ← Nat.pow_add, ← hpow, Nat.pow_zero, Nat.one_mul]
    rw [hexact, Int.sub_self]
    exact Nat.zero_le _

theorem quanta?_of_ofInt? {n : Nat} (hn : n ≠ 0) {x : Binary64} (h : ofInt? n = some x) :
    x.quanta? = some (significandOf n * 2 ^ (n.log2 + 1022) : Nat) := by
  obtain ⟨hlow, hhigh⟩ := significandOf_bounds hn
  rw [ofInt?_eq hn] at h
  split at h
  · cases h
  · rename_i hw
    cases h
    have hword : wordOf n < 2 ^ 63 := by omega
    rw [quanta?_eq, isFinite_ofMagnitude (Nat.lt_of_not_le hw), isNegative_ofMagnitude hword,
      magnitude_ofMagnitude hword, wordOf, quantaOf_word hlow hhigh]
    rfl

/-- What rounding gives within half a unit is nearest to a number that reaches a power of two: below that
power numbers are farther away, and above it they are multiples of the unit. -/
theorem le_of_quanta? {goal significand t : Nat} {y : Binary64} {w : Int}
    (hnear : 2 * ((goal : Int) - (significand * 2 ^ t : Nat)).natAbs ≤ 2 ^ t)
    (hreach : 2 ^ (52 + t) ≤ goal) (hy : y.quanta? = some w) :
    ((goal : Int) - (significand * 2 ^ t : Nat)).natAbs ≤ ((goal : Int) - w).natAbs := by
  have hunit : 2 * ((goal : Int) - (significand * 2 ^ t : Nat)).natAbs ≤ ((2 ^ t : Nat) : Int) := by
    omega
  have hv : ((2 ^ t : Nat) : Int) ∣ (significand * 2 ^ t : Nat) :=
    Int.natCast_dvd_natCast.mpr (Nat.dvd_mul_left _ _)
  -- the power itself is a multiple of the unit, so what lies below it is no nearer than it is
  by_cases hw : ((2 ^ (52 + t) : Nat) : Int) ≤ w
  · have hq : w.natAbs = quantaOf y.magnitude := by
      rw [quanta?_eq] at hy
      split at hy
      · cases hy
        split <;> omega
      · cases hy
    have hdw := dvd_quantaOf (t := t) (m := y.magnitude) (by omega)
    rw [← hq] at hdw
    exact nearest_of_dvd hunit hv (Int.ofNat_dvd_left.mpr hdw)
  · have hpower : ((2 ^ t : Nat) : Int) ∣ (2 ^ (52 + t) : Nat) :=
      Int.natCast_dvd_natCast.mpr (Nat.pow_dvd_pow 2 (by omega))
    have hle := nearest_of_dvd hunit hv hpower
    omega

/-- A whole number becomes a number that no other is nearer to. -/
theorem isNearest_of_ofInt? {n : Nat} (hn : n ≠ 0) {x : Binary64} (h : ofInt? n = some x) :
    x.IsNearest n := by
  refine ⟨_, quanta?_of_ofInt? hn h, fun y w hy => ?_⟩
  have hreach : 2 ^ (52 + (n.log2 + 1022)) ≤ n * quantaPerUnit := by
    rw [← pow_mul_quantaPerUnit (j := n.log2) (by omega)]
    exact Nat.mul_le_mul_right _ (Nat.log2_self_le hn)
  exact le_of_quanta? (significandOf_near n) hreach hy

/-! ## Numbers that are too large -/

/-- Rounding carries into one more digit from half a unit below that digit on, since the quotient there is
odd. -/
theorem le_roundShift_iff {n k : Nat} (h : n.log2 + 1 = 54 + k) :
    2 ^ 53 ≤ roundShift n (k + 1) ↔ 2 ^ (54 + k) - 2 ^ k ≤ n := by
  have hhigh : n < 2 ^ (54 + k) := h ▸ Nat.lt_log2_self
  have hunit : 2 ^ (k + 1) = 2 * 2 ^ k := Nat.pow_succ'
  have hpower : 2 ^ (54 + k) = 2 ^ 53 * 2 ^ (k + 1) := by
    rw [← Nat.pow_add]
    congr 1
    omega
  have hdiv := Nat.div_add_mod n (2 ^ (k + 1))
  have hmod := Nat.mod_lt n (Nat.two_pow_pos (k + 1))
  have hquotient : n / 2 ^ (k + 1) < 2 ^ 53 := by
    rwa [Nat.div_lt_iff_lt_mul (Nat.two_pow_pos (k + 1)), ← hpower]
  rw [roundShift_eq]
  by_cases hlast : n / 2 ^ (k + 1) = 2 ^ 53 - 1
  · rw [hlast] at hdiv ⊢
    split <;> omega
  · have hless : 2 ^ (k + 1) * (n / 2 ^ (k + 1)) ≤ 2 ^ (k + 1) * (2 ^ 53 - 2) :=
      Nat.mul_le_mul_left _ (by omega)
    split <;> omega

/-- A whole number is too large from the half way between the largest number and the next power of two
on. -/
theorem ofInt?_eq_none_iff {n : Nat} (hn : n ≠ 0) : ofInt? n = none ↔ 2 ^ 1024 - 2 ^ 970 ≤ n := by
  have hlow := Nat.log2_self_le hn
  have hhigh := Nat.lt_log2_self (n := n)
  obtain ⟨hleast, hmost⟩ := significandOf_bounds hn
  have hword : ofInt? n = none ↔ 2047 * 2 ^ 52 ≤ wordOf n := by
    rw [ofInt?_eq hn]
    split <;> simp_all
  rw [hword, wordOf]
  -- only in the last binade does the significand decide
  by_cases habove : 1024 ≤ n.log2
  · have hpower := Nat.pow_le_pow_right (n := 2) (by decide) habove
    omega
  · by_cases hbelow : n.log2 + 1 ≤ 1023
    · have hpower := Nat.pow_le_pow_right (n := 2) (by decide) hbelow
      omega
    · have hlog : n.log2 = 1023 := by omega
      have hcarry := le_roundShift_iff (n := n) (k := 970) (by omega)
      have hshift : 1023 - 52 = 970 + 1 := rfl
      rw [significandOf, hlog, if_pos (by decide), hshift]
      omega

end DataFetch.Binary64
