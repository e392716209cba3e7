import CommandScript.Text.Utf8

/-!
# Decoding undoes encoding

Every character is read back from its own bytes, whatever follows them, so decoding the
bytes of a text gives the text. A byte order mark in front is a character like any other,
and decoding that drops one mark drops no more than that character.
-/

namespace CommandScript.Utf8

variable {position : Nat} {a b c d : UInt8} {rest : List UInt8}

/-! ### Sequences of bytes -/

theorem isTail_iff : isTail b = true ↔ 0x80 ≤ b.toNat ∧ b.toNat < 0xC0 := by
  simp [isTail, UInt8.le_iff_toNat_le, UInt8.lt_iff_toNat_lt]

theorem isSecond_iff :
    isSecond a b = true ↔ (0x80 ≤ b.toNat ∧ b.toNat < 0xC0) ∧
      (a.toNat = 0xE0 → 0xA0 ≤ b.toNat) ∧ (a.toNat = 0xED → b.toNat < 0xA0) ∧
      (a.toNat = 0xF0 → 0x90 ≤ b.toNat) ∧ (a.toNat = 0xF4 → b.toNat < 0x90) := by
  have byte (k : UInt8) : (a = k) = (a.toNat = k.toNat) := by rw [UInt8.toNat_inj]
  simp only [isSecond, Bool.and_eq_true, isTail_iff, Bool.or_eq_true, bne_iff_ne, ne_eq, byte,
    decide_eq_true_eq, UInt8.le_iff_toNat_le, UInt8.lt_iff_toNat_lt, UInt8.reduceToNat]
  omega

/-- A byte is compared as its number. -/
theorem not_lt_of_toNat (h : b.toNat ≤ a.toNat) : ¬ a < b := by
  rw [UInt8.lt_iff_toNat_lt]
  omega

theorem decodeFrom_one (ha : a.toNat < 0x80) :
    decodeFrom position (a :: rest) =
      (decodeFrom (position + 1) rest).map (Char.ofNat a.toNat :: ·) := by
  have one : a < 0x80 := UInt8.lt_iff_toNat_lt.mpr ha
  rw [decodeFrom.eq_def]
  simp only [one, if_true]

theorem decodeFrom_two (low : 0xC2 ≤ a.toNat) (high : a.toNat < 0xE0) (hb : isTail b = true) :
    decodeFrom position (a :: b :: rest) =
      (decodeFrom (position + 2) rest).map (value 0xC0 a [b] :: ·) := by
  have one : ¬ a < 0x80 := not_lt_of_toNat (Nat.le_trans (by decide) low)
  have start : ¬ a < 0xC2 := not_lt_of_toNat low
  have two : a < 0xE0 := UInt8.lt_iff_toNat_lt.mpr high
  rw [decodeFrom.eq_def]
  simp only [one, start, two, hb, if_true, if_false, Bool.not_true, Bool.false_eq_true]

theorem decodeFrom_three (low : 0xE0 ≤ a.toNat) (high : a.toNat < 0xF0)
    (hb : isSecond a b = true) (hc : isTail c = true) :
    decodeFrom position (a :: b :: c :: rest) =
      (decodeFrom (position + 3) rest).map (value 0xE0 a [b, c] :: ·) := by
  have one : ¬ a < 0x80 := not_lt_of_toNat (Nat.le_trans (by decide) low)
  have start : ¬ a < 0xC2 := not_lt_of_toNat (Nat.le_trans (by decide) low)
  have two : ¬ a < 0xE0 := not_lt_of_toNat low
  have three : a < 0xF0 := UInt8.lt_iff_toNat_lt.mpr high
  rw [decodeFrom.eq_def]
  simp only [one, start, two, three, hb, hc, if_true, if_false, Bool.not_true,
    Bool.false_eq_true]

theorem decodeFrom_four (low : 0xF0 ≤ a.toNat) (high : a.toNat < 0xF5)
    (hb : isSecond a b = true) (hc : isTail c = true) (hd : isTail d = true) :
    decodeFrom position (a :: b :: c :: d :: rest) =
      (decodeFrom (position + 4) rest).map (value 0xF0 a [b, c, d] :: ·) := by
  have one : ¬ a < 0x80 := not_lt_of_toNat (Nat.le_trans (by decide) low)
  have start : ¬ a < 0xC2 := not_lt_of_toNat (Nat.le_trans (by decide) low)
  have two : ¬ a < 0xE0 := not_lt_of_toNat (Nat.le_trans (by decide) low)
  have three : ¬ a < 0xF0 := not_lt_of_toNat low
  have four : a < 0xF5 := UInt8.lt_iff_toNat_lt.mpr high
  rw [decodeFrom.eq_def]
  simp only [one, start, two, three, four, hb, hc, hd, if_true, if_false, Bool.not_true,
    Bool.false_eq_true]

/-! ### Characters -/

theorem toNat_toUInt8 {n : Nat} (h : n < 256) : n.toUInt8.toNat = n := by
  simpa using Nat.mod_eq_of_lt h

/-- A character is read back from its bytes, whatever follows. -/
theorem decodeFrom_encodeChar (position : Nat) (x : Char) (rest : List UInt8) :
    decodeFrom position (encodeChar x ++ rest) =
      (decodeFrom (position + (encodeChar x).length) rest).map (x :: ·) := by
  have scalar : x.toNat < 0xD800 ∨ 0xDFFF < x.toNat ∧ x.toNat < 0x110000 := x.valid
  have back : Char.ofNat x.toNat = x := Char.ofNat_toNat x
  generalize hn : x.toNat = n at scalar back
  simp only [encodeChar, hn]
  split
  · have byte := @toNat_toUInt8 n (by omega)
    rw [List.cons_append, decodeFrom_one (by omega), byte, back]
    rfl
  · split
    · have first := @toNat_toUInt8 (0xC0 + n / 0x40) (by omega)
      have second := @toNat_toUInt8 (0x80 + n % 0x40) (by omega)
      have number : (0xC0 + n / 0x40 - 0xC0) * 0x40 + (0x80 + n % 0x40 - 0x80) = n := by omega
      have char : value 0xC0 (0xC0 + n / 0x40).toUInt8 [(0x80 + n % 0x40).toUInt8] = x := by
        simp only [value, List.foldl, first, second, number, back]
      rw [List.cons_append, List.cons_append,
        decodeFrom_two (by omega) (by omega) (isTail_iff.mpr (by omega)), char]
      rfl
    · split
      · have first := @toNat_toUInt8 (0xE0 + n / 0x1000) (by omega)
        have second := @toNat_toUInt8 (0x80 + n / 0x40 % 0x40) (by omega)
        have third := @toNat_toUInt8 (0x80 + n % 0x40) (by omega)
        have number : ((0xE0 + n / 0x1000 - 0xE0) * 0x40 + (0x80 + n / 0x40 % 0x40 - 0x80)) * 0x40 +
            (0x80 + n % 0x40 - 0x80) = n := by omega
        have char : value 0xE0 (0xE0 + n / 0x1000).toUInt8
            [(0x80 + n / 0x40 % 0x40).toUInt8, (0x80 + n % 0x40).toUInt8] = x := by
          simp only [value, List.foldl, first, second, third, number, back]
        rw [List.cons_append, List.cons_append, List.cons_append,
          decodeFrom_three (by omega) (by omega) (isSecond_iff.mpr (by omega))
            (isTail_iff.mpr (by omega)), char]
        rfl
      · have first := @toNat_toUInt8 (0xF0 + n / 0x40000) (by omega)
        have second := @toNat_toUInt8 (0x80 + n / 0x1000 % 0x40) (by omega)
        have third := @toNat_toUInt8 (0x80 + n / 0x40 % 0x40) (by omega)
        have fourth := @toNat_toUInt8 (0x80 + n % 0x40) (by omega)
        have number : (((0xF0 + n / 0x40000 - 0xF0) * 0x40 + (0x80 + n / 0x1000 % 0x40 - 0x80)) *
            0x40 + (0x80 + n / 0x40 % 0x40 - 0x80)) * 0x40 + (0x80 + n % 0x40 - 0x80) = n := by
          omega
        have char : value 0xF0 (0xF0 + n / 0x40000).toUInt8
            [(0x80 + n / 0x1000 % 0x40).toUInt8, (0x80 + n / 0x40 % 0x40).toUInt8,
              (0x80 + n % 0x40).toUInt8] = x := by
          simp only [value, List.foldl, first, second, third, fourth, number, back]
        rw [List.cons_append, List.cons_append, List.cons_append, List.cons_append,
          decodeFrom_four (by omega) (by omega) (isSecond_iff.mpr (by omega))
            (isTail_iff.mpr (by omega)) (isTail_iff.mpr (by omega)), char]
        rfl

/-! ### Texts -/

theorem decodeFrom_encode (position : Nat) (t : Text) : decodeFrom position (encode t) = .ok t := by
  induction t generalizing position with
  | nil => rfl
  | cons x t ih =>
    have later := ih (position + (encodeChar x).length)
    rw [encode, List.flatMap_cons, decodeFrom_encodeChar, ← encode, later]
    rfl

/-- Decoding undoes encoding. -/
theorem decode_encode (t : Text) : decode (encode t) = .ok t := decodeFrom_encode 0 t

/-- The character that serves as byte order mark. -/
theorem encode_mark (t : Text) : encode ('\uFEFF' :: t) = 0xEF :: 0xBB :: 0xBF :: encode t := rfl

/-- Only a text that begins with a mark has bytes that do. -/
theorem eq_mark_cons {t : Text} (h : encode t = 0xEF :: 0xBB :: 0xBF :: rest) :
    ∃ u, t = '\uFEFF' :: u ∧ rest = encode u := by
  have decoded := decode_encode t
  have marked : decode (0xEF :: 0xBB :: 0xBF :: rest) =
      (decodeFrom 3 rest).map ('\uFEFF' :: ·) :=
    decodeFrom_three (by decide) (by decide) (by decide) (by decide)
  rw [h, marked] at decoded
  cases hrest : decodeFrom 3 rest with
  | error fault => simp [hrest, Except.map] at decoded
  | ok u =>
    obtain rfl : '\uFEFF' :: u = t := by simpa [hrest, Except.map] using decoded
    rw [encode_mark] at h
    exact ⟨u, rfl, by simpa using h.symm⟩

/-- Decoding that drops a mark gives the text back, but for one mark in front. -/
theorem decodeMarked_encode (t : Text) :
    ∃ u, decodeMarked (encode t) = .ok u ∧ (t = u ∨ t = '\uFEFF' :: u) := by
  unfold decodeMarked
  split
  · rename_i bytes rest h
    obtain ⟨u, rfl, rfl⟩ := eq_mark_cons h
    exact ⟨u, decode_encode u, .inr rfl⟩
  · exact ⟨t, decode_encode t, .inl rfl⟩

/-- The bytes of a text are never the mere beginning of a mark. -/
theorem decodeFile_encode (t : Text) : decodeFile (encode t) = decodeMarked (encode t) := by
  have decoded := decode_encode t
  unfold decodeFile
  split
  · rename_i h
    rw [h] at decoded
    cases decoded
  · rename_i h
    rw [h] at decoded
    cases decoded
  · rfl

end CommandScript.Utf8
