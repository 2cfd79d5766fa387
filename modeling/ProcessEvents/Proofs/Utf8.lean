import Mathlib.Tactic.SplitIfs
import ProcessEvents.Utf8

/-
  Texts are compared character by character. This file shows
  that their bytes are in the same order: of two characters,
  the greater one has the greater bytes, whatever follows.
  It also shows that a text is read back from its bytes.

  Key theorems include:
    * `Utf8.encodeChar_append_lt`
    * `Utf8.encode_lt_encode_iff`
    * `Utf8.units_encode`
-/

namespace ProcessEvents

namespace Utf8

------------------------------------------------------------
-- Order
------------------------------------------------------------

theorem toNat_lt_of_char
    (c : Char) :
    c.toNat < 0x110000 := by
  rcases c.valid with hLow | ⟨-, hHigh⟩
  · exact Nat.lt_trans hLow (by decide)
  · exact hHigh

/- Bytes are compared by their numbers, which are small enough. -/
theorem ofNat_cons_lt_iff
    {a b : Nat} {xs ys : List UInt8}
    (hLeft : a < 256)
    (hRight : b < 256) :
    UInt8.ofNat a :: xs < UInt8.ofNat b :: ys ↔ a < b ∨ a = b ∧ xs < ys := by
  rw [List.cons_lt_cons_iff, UInt8.lt_iff_toNat_lt, ← UInt8.toNat_inj,
    UInt8.toNat_ofNat', UInt8.toNat_ofNat', Nat.mod_eq_of_lt hLeft,
    Nat.mod_eq_of_lt hRight]

/-
  A character of more bytes has a greater first byte. With as
  many bytes, they are the digits of the character's number.
-/
theorem encodeChar_append_lt
    {c d : Char}
    (hLess : c < d)
    (xs ys : List UInt8) :
    encodeChar c ++ xs < encodeChar d ++ ys := by
  have hNumbers : c.toNat < d.toNat := hLess
  have hBound := toNat_lt_of_char d
  unfold encodeChar firstByte continuation
  generalize c.toNat = n at hNumbers ⊢
  generalize d.toNat = m at hNumbers hBound ⊢
  have hDigits :
      ∀ k, k / 0x40000 = k / 0x1000 / 64 ∧ k / 0x1000 = k / 0x40 / 64 :=
    fun k => ⟨by omega, by omega⟩
  have hSmaller := hDigits n
  have hGreater := hDigits m
  dsimp only
  split_ifs <;>
    simp (disch := omega) only [List.map_cons, List.map_nil, List.cons_append,
      ofNat_cons_lt_iff] <;>
    omega

theorem encode_lt_encode
    {cs ds : List Char}
    (hLess : cs < ds) :
    encode cs < encode ds := by
  induction hLess with
  | @nil d ds =>
      change [] < (firstByte d :: _).map UInt8.ofNat ++ encode ds
      exact List.nil_lt_cons _ _
  | cons _ ih => exact List.append_left_lt ih
  | rel hLess => exact encodeChar_append_lt hLess _ _

/- The order of texts is the order of their bytes. -/
theorem encode_lt_encode_iff
    {cs ds : List Char} :
    encode cs < encode ds ↔ cs < ds := by
  refine ⟨fun hBytes => ?_, encode_lt_encode⟩
  rcases Std.lt_trichotomy cs ds with hLess | rfl | hGreater
  · exact hLess
  · exact absurd hBytes (List.lt_irrefl _)
  · exact absurd hBytes (List.lt_asymm (encode_lt_encode hGreater))

------------------------------------------------------------
-- Reading back
------------------------------------------------------------

theorem start_two
    {b : Nat}
    (hLow : 0xC2 ≤ b)
    (hHigh : b ≤ 0xDF) :
    start b = .pending ⟨b - 0xC0, 1, 0x80, 0xBF⟩ := by
  rw [start, if_neg (by omega), if_pos ⟨hLow, hHigh⟩]

theorem start_three
    {b : Nat}
    (hLow : 0xE0 ≤ b)
    (hHigh : b ≤ 0xEF) :
    start b =
      .pending
        ⟨b - 0xE0, 2,
          if b = 0xE0 then 0xA0 else 0x80,
          if b = 0xED then 0x9F else 0xBF⟩ := by
  by_cases hShort : b = 0xE0
  · rw [hShort]
    rfl
  · by_cases hSurrogate : b = 0xED
    · rw [hSurrogate]
      rfl
    · rw [if_neg hShort, if_neg hSurrogate, start, if_neg (by omega),
        if_neg (by omega), if_neg hShort, if_neg hSurrogate,
        if_pos ⟨by omega, hHigh⟩]

theorem start_four
    {b : Nat}
    (hLow : 0xF0 ≤ b)
    (hHigh : b ≤ 0xF4) :
    start b =
      .pending
        ⟨b - 0xF0, 3,
          if b = 0xF0 then 0x90 else 0x80,
          if b = 0xF4 then 0x8F else 0xBF⟩ := by
  by_cases hShort : b = 0xF0
  · rw [hShort]
    rfl
  · by_cases hLast : b = 0xF4
    · rw [hLast]
      rfl
    · rw [if_neg hShort, if_neg hLast, start, if_neg (by omega),
        if_neg (by omega), if_neg (by omega), if_neg (by omega),
        if_neg (by omega), if_neg hShort, if_neg hLast,
        if_pos ⟨by omega, by omega⟩]

section

variable {bits missing low high b : Nat} {p : Pending} {rest : List UInt8}

theorem toNat_ofNat_of_lt
    (hByte : b < 256) :
    (UInt8.ofNat b).toNat = b := by
  rw [UInt8.toNat_ofNat', Nat.mod_eq_of_lt hByte]

/- The first byte of several begins a character. -/
theorem unitsFrom_first
    (hByte : b < 256)
    (hStart : start b = .pending p) :
    unitsFrom none (UInt8.ofNat b :: rest) = unitsFrom (some p) rest := by
  rw [unitsFrom, begin, toNat_ofNat_of_lt hByte, hStart]
  rfl

/- A character that misses one byte is complete with it. -/
theorem unitsFrom_last
    (hByte : b < 256)
    (hLow : low ≤ b)
    (hHigh : b ≤ high) :
    unitsFrom (some ⟨bits, 1, low, high⟩) (UInt8.ofNat b :: rest) =
      some (Char.ofNat (bits * 64 + b % 64)) :: unitsFrom none rest := by
  rw [unitsFrom, advance, toNat_ofNat_of_lt hByte,
    if_pos ⟨hLow, hHigh⟩, if_pos (Nat.le_refl 1)]
  rfl

/- A character that misses more bytes has six bits more. -/
theorem unitsFrom_more
    (hByte : b < 256)
    (hLow : low ≤ b)
    (hHigh : b ≤ high) :
    unitsFrom (some ⟨bits, missing + 2, low, high⟩) (UInt8.ofNat b :: rest) =
      unitsFrom (some ⟨bits * 64 + b % 64, missing + 1, 0x80, 0xBF⟩) rest := by
  have hMore : ¬ missing + 2 ≤ 1 := by omega
  rw [unitsFrom, advance, toNat_ofNat_of_lt hByte, if_pos ⟨hLow, hHigh⟩]
  dsimp only
  rw [if_neg hMore]
  rfl

end

/-
  A character is read from its bytes, whatever follows. The
  bounds of the second byte are those that no shorter form
  and no surrogate keeps.
-/
theorem unitsFrom_encodeChar
    (c : Char) (rest : List UInt8) :
    unitsFrom none (encodeChar c ++ rest) = some c :: unitsFrom none rest := by
  have hChar : ∀ n, n = c.toNat → some (Char.ofNat n) = some c := by
    rintro _ rfl
    rw [Char.ofNat_toNat]
  have hBound := toNat_lt_of_char c
  have hValid : c.toNat < 0xD800 ∨ 0xDFFF < c.toNat := by
    rcases c.valid with hLow | ⟨hHigh, -⟩
    · exact Or.inl hLow
    · exact Or.inr hHigh
  unfold encodeChar firstByte continuation
  generalize c.toNat = n at hChar hBound hValid ⊢
  dsimp only
  by_cases hOne : n < 0x80
  · rw [if_pos hOne, if_pos hOne]
    change unitsFrom none (UInt8.ofNat n :: rest) = _
    rw [unitsFrom, begin, toNat_ofNat_of_lt (by omega), start, if_pos hOne]
    exact congrArg (· :: unitsFrom none rest) (hChar n rfl)
  · rw [if_neg hOne, if_neg hOne]
    by_cases hTwo : n < 0x800
    · rw [if_pos hTwo, if_pos hTwo]
      change unitsFrom none (UInt8.ofNat _ :: UInt8.ofNat _ :: rest) = _
      rw [unitsFrom_first (by omega) (start_two (by omega) (by omega)),
        unitsFrom_last (by omega) (by omega) (by omega), hChar _ (by omega)]
    · rw [if_neg hTwo, if_neg hTwo]
      by_cases hThree : n < 0x10000
      · rw [if_pos hThree, if_pos hThree]
        change unitsFrom none
          (UInt8.ofNat _ :: UInt8.ofNat _ :: UInt8.ofNat _ :: rest) = _
        rw [unitsFrom_first (by omega) (start_three (by omega) (by omega)),
          unitsFrom_more (by omega) (by split_ifs <;> omega)
            (by split_ifs <;> omega),
          unitsFrom_last (by omega) (by omega) (by omega), hChar _ (by omega)]
      · rw [if_neg hThree, if_neg hThree]
        change unitsFrom none
          (UInt8.ofNat _ :: UInt8.ofNat _ :: UInt8.ofNat _ ::
            UInt8.ofNat _ :: rest) = _
        rw [unitsFrom_first (by omega) (start_four (by omega) (by omega)),
          unitsFrom_more (by omega) (by split_ifs <;> omega)
            (by split_ifs <;> omega),
          unitsFrom_more (by omega) (by omega) (by omega),
          unitsFrom_last (by omega) (by omega) (by omega), hChar _ (by omega)]

/- A text is read back from its bytes, without any gap. -/
theorem units_encode
    (cs : List Char) :
    units (encode cs) = cs.map some := by
  induction cs with
  | nil => rfl
  | cons c cs ih =>
      rw [units] at ih ⊢
      rw [encode, List.flatMap_cons, unitsFrom_encodeChar, List.map_cons]
      exact congrArg _ ih

end Utf8

end ProcessEvents
