import DataFetch.Text.Utf8

/-! # Bytes that encode a text

Reading UTF-8 undoes writing it. Main statement: bytes are read as a text exactly when they are the
encoding of that text, one character after another.
-/
namespace DataFetch.Text

/-- The encoding of characters one after another. -/
def encodeUtf8 (cs : List Char) : List UInt8 :=
  cs.flatMap String.utf8EncodeChar

/-- Bytes that are the encoding of some text. -/
def IsUtf8 (bytes : List UInt8) : Prop :=
  ∃ cs, encodeUtf8 cs = bytes

/-! ## Forms of encoded characters -/

theorem isContinuation_iff {b : UInt8} :
    isContinuation b = true ↔ 0x80 ≤ b.toNat ∧ b.toNat ≤ 0xbf := by
  simp [isContinuation, UInt8.le_iff_toNat_le]

theorem opensThree_iff {a b : UInt8} : opensThree a b = true ↔
    (a.toNat = 0xe0 ∧ 0xa0 ≤ b.toNat ∧ b.toNat ≤ 0xbf) ∨
    (a.toNat = 0xed ∧ 0x80 ≤ b.toNat ∧ b.toNat ≤ 0x9f) ∨
    (0xe1 ≤ a.toNat ∧ a.toNat ≤ 0xef ∧ a.toNat ≠ 0xed ∧ 0x80 ≤ b.toNat ∧ b.toNat ≤ 0xbf) := by
  simp [opensThree, isContinuation, UInt8.le_iff_toNat_le, ← UInt8.toNat_inj, and_assoc, or_assoc]

theorem opensFour_iff {a b : UInt8} : opensFour a b = true ↔
    (a.toNat = 0xf0 ∧ 0x90 ≤ b.toNat ∧ b.toNat ≤ 0xbf) ∨
    (a.toNat = 0xf4 ∧ 0x80 ≤ b.toNat ∧ b.toNat ≤ 0x8f) ∨
    (0xf1 ≤ a.toNat ∧ a.toNat ≤ 0xf3 ∧ 0x80 ≤ b.toNat ∧ b.toNat ≤ 0xbf) := by
  simp [opensFour, isContinuation, UInt8.le_iff_toNat_le, ← UInt8.toNat_inj, and_assoc, or_assoc]

theorem toNat_val_ofNat {n : Nat} (h : n.isValidChar) : (Char.ofNat n).val.toNat = n := by
  rw [Char.ofNat, dif_pos h]
  rfl

theorem utf8EncodeChar_one {a : UInt8} (h : a.toNat < 0x80) :
    String.utf8EncodeChar (Char.ofNat a.toNat) = [a] := by
  have hv : a.toNat.isValidChar := Or.inl (by omega)
  rw [String.utf8EncodeChar, toNat_val_ofNat hv, if_pos (by omega), UInt8.ofNat_toNat]

theorem utf8EncodeChar_two {a b : UInt8} (ha : 0xc2 ≤ a.toNat ∧ a.toNat ≤ 0xdf)
    (hb : isContinuation b = true) :
    String.utf8EncodeChar (joinBits (a.toNat % 32) [b]) = [a, b] := by
  rw [isContinuation_iff] at hb
  have hv : (a.toNat % 32 * 64 + b.toNat % 64).isValidChar := Or.inl (by omega)
  have hj : (joinBits (a.toNat % 32) [b]).val.toNat = a.toNat % 32 * 64 + b.toNat % 64 :=
    toNat_val_ofNat hv
  rw [String.utf8EncodeChar, hj, if_neg (by omega), if_pos (by omega)]
  simp only [List.cons.injEq, ← UInt8.toNat_inj, UInt8.toNat_ofNat', and_true]
  omega

theorem utf8EncodeChar_three {a b c : UInt8} (hab : opensThree a b = true)
    (hc : isContinuation c = true) :
    String.utf8EncodeChar (joinBits (a.toNat % 16) [b, c]) = [a, b, c] := by
  rw [isContinuation_iff] at hc
  rw [opensThree_iff] at hab
  have hv : ((a.toNat % 16 * 64 + b.toNat % 64) * 64 + c.toNat % 64).isValidChar := by
    unfold Nat.isValidChar
    omega
  have hj : (joinBits (a.toNat % 16) [b, c]).val.toNat =
      (a.toNat % 16 * 64 + b.toNat % 64) * 64 + c.toNat % 64 := toNat_val_ofNat hv
  rw [String.utf8EncodeChar, hj, if_neg (by omega), if_neg (by omega), if_pos (by omega)]
  have hbounds : 0xe0 ≤ a.toNat ∧ a.toNat ≤ 0xef ∧ 0x80 ≤ b.toNat ∧ b.toNat ≤ 0xbf := by omega
  clear hab hv
  simp only [List.cons.injEq, ← UInt8.toNat_inj, UInt8.toNat_ofNat', and_true]
  omega

theorem utf8EncodeChar_four {a b c d : UInt8} (hab : opensFour a b = true)
    (hc : isContinuation c = true) (hd : isContinuation d = true) :
    String.utf8EncodeChar (joinBits (a.toNat % 8) [b, c, d]) = [a, b, c, d] := by
  rw [isContinuation_iff] at hc hd
  rw [opensFour_iff] at hab
  have hv : (((a.toNat % 8 * 64 + b.toNat % 64) * 64 + c.toNat % 64) * 64 +
      d.toNat % 64).isValidChar := by
    unfold Nat.isValidChar
    omega
  have hj : (joinBits (a.toNat % 8) [b, c, d]).val.toNat =
      ((a.toNat % 8 * 64 + b.toNat % 64) * 64 + c.toNat % 64) * 64 + d.toNat % 64 :=
    toNat_val_ofNat hv
  rw [String.utf8EncodeChar, hj, if_neg (by omega), if_neg (by omega), if_neg (by omega)]
  have hbounds : 0xf0 ≤ a.toNat ∧ a.toNat ≤ 0xf4 ∧ 0x80 ≤ b.toNat ∧ b.toNat ≤ 0xbf := by omega
  clear hab hv
  simp only [List.cons.injEq, ← UInt8.toNat_inj, UInt8.toNat_ofNat', and_true]
  omega

/-! ## Reading undoes writing -/

theorem encodeUtf8_cons (c : Char) (cs : List Char) :
    encodeUtf8 (c :: cs) = String.utf8EncodeChar c ++ encodeUtf8 cs := List.flatMap_cons

/-- What is read behind an encoded character. -/
theorem eq_ok_of_map_cons {c : Char} {cs : List Char} {x : Except Utf8Fault (List Char)}
    (h : x.map (c :: ·) = .ok cs) : ∃ ds, x = .ok ds ∧ cs = c :: ds := by
  cases x with
  | error f => cases h
  | ok ds =>
    cases h
    exact ⟨ds, rfl, rfl⟩

theorem encodeUtf8_of_decode {position : Nat} {bytes : List UInt8} {cs : List Char}
    (h : decodeUtf8From position bytes = .ok cs) : encodeUtf8 cs = bytes := by
  fun_induction decodeUtf8From position bytes generalizing cs with
  | case1 =>
    cases h
    rfl
  | case2 position a rest ha ih =>
    obtain ⟨ds, hd, rfl⟩ := eq_ok_of_map_cons h
    rw [encodeUtf8_cons, utf8EncodeChar_one (UInt8.lt_iff_toNat_lt.mp ha), ih hd]
    rfl
  | case4 position a _ b rest hab ih =>
    obtain ⟨ds, hd, rfl⟩ := eq_ok_of_map_cons h
    simp only [Bool.and_eq_true, decide_eq_true_eq, UInt8.le_iff_toNat_le] at hab
    rw [encodeUtf8_cons, utf8EncodeChar_two hab.1 hab.2, ih hd]
    rfl
  | case6 position a _ b _ c rest hc ih =>
    obtain ⟨ds, hd, rfl⟩ := eq_ok_of_map_cons h
    rw [Bool.and_eq_true] at hc
    rw [encodeUtf8_cons, utf8EncodeChar_three hc.1 hc.2, ih hd]
    rfl
  | case8 position a _ b _ c _ d rest hd ih =>
    obtain ⟨ds, hs, rfl⟩ := eq_ok_of_map_cons h
    rw [Bool.and_eq_true, Bool.and_eq_true] at hd
    rw [encodeUtf8_cons, utf8EncodeChar_four hd.1.1 hd.1.2 hd.2, ih hs]
    rfl
  | case3 | case5 | case7 | case9 => cases h

section Steps

variable (position : Nat) {a b c d : UInt8} (rest : List UInt8)

theorem decodeUtf8From_one (ha : a.toNat < 0x80) : decodeUtf8From position (a :: rest) =
    (decodeUtf8From (position + 1) rest).map (Char.ofNat a.toNat :: ·) := by
  have h : a < 0x80 := UInt8.lt_iff_toNat_lt.mpr ha
  simp only [decodeUtf8From, if_pos h]

theorem decodeUtf8From_two (ha : 0xc2 ≤ a.toNat ∧ a.toNat ≤ 0xdf) (hb : isContinuation b = true) :
    decodeUtf8From position (a :: b :: rest) =
      (decodeUtf8From (position + 2) rest).map (joinBits (a.toNat % 32) [b] :: ·) := by
  have h : ¬ a < 0x80 := by
    rw [UInt8.lt_iff_toNat_lt]
    simp
    omega
  have h2 : (0xc2 ≤ a && a ≤ 0xdf && isContinuation b) = true := by
    simpa [hb, UInt8.le_iff_toNat_le] using ha
  simp only [decodeUtf8From, if_neg h, if_pos h2]

/-- A byte that opens no short form. -/
theorem opensLong {a : UInt8} (ha : 0xdf < a.toNat) (b : UInt8) :
    ¬ a < 0x80 ∧ ¬ (0xc2 ≤ a && a ≤ 0xdf && isContinuation b) = true := by
  constructor
  · rw [UInt8.lt_iff_toNat_lt]
    simp
    omega
  · simp [UInt8.le_iff_toNat_le]
    omega

theorem decodeUtf8From_three (hab : opensThree a b = true) (hc : isContinuation c = true) :
    decodeUtf8From position (a :: b :: c :: rest) =
      (decodeUtf8From (position + 3) rest).map (joinBits (a.toNat % 16) [b, c] :: ·) := by
  have hl : 0xdf < a.toNat := by
    rw [opensThree_iff] at hab
    omega
  have h3 : (opensThree a b && isContinuation c) = true := by rw [hab, hc]; rfl
  simp only [decodeUtf8From, if_neg (opensLong hl b).1, if_neg (opensLong hl b).2, if_pos h3]

theorem decodeUtf8From_four (hab : opensFour a b = true) (hc : isContinuation c = true)
    (hd : isContinuation d = true) : decodeUtf8From position (a :: b :: c :: d :: rest) =
      (decodeUtf8From (position + 4) rest).map (joinBits (a.toNat % 8) [b, c, d] :: ·) := by
  have hl : 0xdf < a.toNat := by
    rw [opensFour_iff] at hab
    omega
  have h3 : ¬ (opensThree a b && isContinuation c) = true := by
    rw [Bool.and_eq_true, opensThree_iff]
    rw [opensFour_iff] at hab
    omega
  have h4 : (opensFour a b && isContinuation c && isContinuation d) = true := by
    rw [hab, hc, hd]; rfl
  simp only [decodeUtf8From, if_neg (opensLong hl b).1, if_neg (opensLong hl b).2, if_neg h3,
    if_pos h4]

end Steps

theorem joinBits_eq {lead : Nat} {rest : List UInt8} {c : Char}
    (h : rest.foldl (fun n b => n * 64 + b.toNat % 64) lead = c.toNat) : joinBits lead rest = c := by
  rw [joinBits, h, Char.ofNat_toNat]

/-- A byte of six bits that continues a character. -/
theorem isContinuation_ofNat (n : Nat) :
    isContinuation (UInt8.ofNat (n % 64 + 0x80)) = true ∧
      (UInt8.ofNat (n % 64 + 0x80)).toNat % 64 = n % 64 := by
  rw [isContinuation_iff, UInt8.toNat_ofNat']
  omega

/-- An encoded character is read as itself. -/
theorem decodeUtf8From_encodeChar (position : Nat) (c : Char) (rest : List UInt8) :
    ∃ next, decodeUtf8From position (String.utf8EncodeChar c ++ rest) =
      (decodeUtf8From next rest).map (c :: ·) := by
  have hv : c.toNat.isValidChar := c.valid
  have hc : c.val.toNat = c.toNat := rfl
  unfold Nat.isValidChar at hv
  have h1 := isContinuation_ofNat c.toNat
  have h2 := isContinuation_ofNat (c.toNat / 64)
  have h3 := isContinuation_ofNat (c.toNat / 4096)
  rw [String.utf8EncodeChar, hc]
  split
  · have ha : (UInt8.ofNat c.toNat).toNat = c.toNat := by
      rw [UInt8.toNat_ofNat']
      omega
    refine ⟨position + 1, (decodeUtf8From_one position rest (by omega)).trans ?_⟩
    rw [ha, Char.ofNat_toNat]
  · split
    · have ha : (UInt8.ofNat (c.toNat / 64 % 32 + 0xc0)).toNat = c.toNat / 64 + 0xc0 := by
        rw [UInt8.toNat_ofNat']
        omega
      refine ⟨position + 2, (decodeUtf8From_two position rest (by omega) h1.1).trans ?_⟩
      rw [joinBits_eq (c := c)]
      simp only [List.foldl_cons, List.foldl_nil, ha, h1.2]
      omega
    · split
      · have ha : (UInt8.ofNat (c.toNat / 4096 % 16 + 0xe0)).toNat = c.toNat / 4096 + 0xe0 := by
          rw [UInt8.toNat_ofNat']
          omega
        have hb : (UInt8.ofNat (c.toNat / 64 % 64 + 0x80)).toNat = c.toNat / 64 % 64 + 0x80 := by
          rw [UInt8.toNat_ofNat']
          omega
        refine ⟨position + 3, (decodeUtf8From_three position rest ?_ h1.1).trans ?_⟩
        · rw [opensThree_iff, ha, hb]
          omega
        · rw [joinBits_eq (c := c)]
          simp only [List.foldl_cons, List.foldl_nil, ha, h1.2, h2.2]
          omega
      · have ha : (UInt8.ofNat (c.toNat / 262144 % 8 + 0xf0)).toNat = c.toNat / 262144 + 0xf0 := by
          rw [UInt8.toNat_ofNat']
          omega
        have hb : (UInt8.ofNat (c.toNat / 4096 % 64 + 0x80)).toNat = c.toNat / 4096 % 64 + 0x80 := by
          rw [UInt8.toNat_ofNat']
          omega
        refine ⟨position + 4, (decodeUtf8From_four position rest ?_ h2.1 h1.1).trans ?_⟩
        · rw [opensFour_iff, ha, hb]
          omega
        · rw [joinBits_eq (c := c)]
          simp only [List.foldl_cons, List.foldl_nil, ha, h1.2, h2.2, h3.2]
          omega

theorem decodeUtf8From_encodeUtf8 (position : Nat) (cs : List Char) :
    decodeUtf8From position (encodeUtf8 cs) = .ok cs := by
  induction cs generalizing position with
  | nil => rfl
  | cons c cs ih =>
    obtain ⟨next, h⟩ := decodeUtf8From_encodeChar position c (encodeUtf8 cs)
    rw [encodeUtf8_cons, h, ih]
    rfl

/-- Bytes are read as a text exactly when they are its encoding. -/
theorem decodeUtf8_eq_ok_iff {bytes : List UInt8} {s : String} :
    decodeUtf8 bytes = .ok s ↔ encodeUtf8 s.toList = bytes := by
  constructor
  · intro h
    unfold decodeUtf8 at h
    cases hd : decodeUtf8From 0 bytes with
    | error f =>
      rw [hd] at h
      cases h
    | ok cs =>
      rw [hd] at h
      cases h
      rw [String.toList_ofList]
      exact encodeUtf8_of_decode hd
  · rintro rfl
    rw [decodeUtf8, decodeUtf8From_encodeUtf8, Except.map, String.ofList_toList]

theorem isUtf8_iff {bytes : List UInt8} : IsUtf8 bytes ↔ ∃ s, decodeUtf8 bytes = .ok s := by
  constructor
  · rintro ⟨cs, rfl⟩
    exact ⟨String.ofList cs, decodeUtf8_eq_ok_iff.mpr (by rw [String.toList_ofList])⟩
  · rintro ⟨s, h⟩
    exact ⟨s.toList, decodeUtf8_eq_ok_iff.mp h⟩

end DataFetch.Text
