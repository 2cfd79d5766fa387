import ProcessEvents.Proofs.Utf8
import ProcessEvents.Url.Percent

/-
  What has been percent-encoded is decoded to the text that
  it stands for, whichever characters are encoded, as long as
  the percent sign is one of them. Only percent signs and
  digits are added to a text, so that a character that is
  encoded is not found in it any more.

  Key definitions include:
    * `Percent.IsUndigited`

  Key theorems include:
    * `Utf8.decode?_encode`
    * `Percent.decode_percent_of_isUndigited`
    * `Percent.decode_encodeText`
    * `Percent.decodeText?_encode`
    * `Percent.mem_encode`
-/

namespace ProcessEvents

------------------------------------------------------------
-- Bytes of texts
------------------------------------------------------------

namespace Utf8

theorem decode?_encode
    (cs : List Char) :
    decode? (encode cs) = some cs := by
  rw [decode?, units_encode]
  induction cs with
  | nil => rfl
  | cons c cs ih =>
      rw [List.map_cons, List.mapM_cons, ih]
      rfl

theorem encode_injective
    {cs ds : List Char}
    (hBytes : encode cs = encode ds) :
    cs = ds := by
  have hTexts := decode?_encode cs
  rw [hBytes, decode?_encode] at hTexts
  exact (Option.some.inj hTexts).symm

end Utf8

namespace Percent

variable {escaped : Char → Bool}

------------------------------------------------------------
-- Single characters
------------------------------------------------------------

/- A character that is no percent sign stands for itself. -/
theorem decode_cons_of_ne
    {c : Char}
    (hChar : c ≠ '%')
    (rest : List Char) :
    decode (c :: rest) = Utf8.encodeChar c ++ decode rest := by
  rw [decode]
  intro a b more hPercent
  exact absurd hPercent hChar

/- A percent sign with two digits is a byte. -/
theorem decode_percent_of_digits
    {a b : Char} {high low : Nat}
    (hHigh : Hex.value? a = some high)
    (hLow : Hex.value? b = some low)
    (rest : List Char) :
    decode ('%' :: a :: b :: rest) =
      UInt8.ofNat (16 * high + low) :: decode rest := by
  rw [decode, hHigh, hLow]

/- The text does not begin with two digits. -/
def IsUndigited
    (cs : List Char) : Prop :=
  ∀ a b more, cs = a :: b :: more → Hex.value? a = none ∨ Hex.value? b = none

/- A percent sign without two digits stands for itself. -/
theorem decode_percent_of_isUndigited
    {rest : List Char}
    (hRest : IsUndigited rest) :
    decode ('%' :: rest) = Utf8.encodeChar '%' ++ decode rest := by
  match rest with
  | [] =>
      rw [decode]
      intro a b more _ hSame
      cases hSame
  | [_] =>
      rw [decode]
      intro a b more _ hSame
      cases hSame
  | a :: b :: more =>
      rw [decode]
      rcases hRest a b more rfl with hNone | hNone
      · rw [hNone]
      · rw [hNone]
        cases Hex.value? a <;> rfl

------------------------------------------------------------
-- Encoded texts
------------------------------------------------------------

theorem decode_encodeByte
    (b : UInt8) (rest : List Char) :
    decode (encodeByte b ++ rest) = b :: decode rest := by
  have hByte := b.toNat_lt
  have hHigh := Hex.value?_upperDigit (b.toNat / 16) (by omega)
  have hLow := Hex.value?_upperDigit (b.toNat % 16) (by omega)
  change decode ('%' :: Hex.upperDigit _ :: Hex.upperDigit _ :: rest) = _
  rw [decode_percent_of_digits hHigh hLow, Nat.div_add_mod, UInt8.ofNat_toNat]

theorem decode_encodeBytes
    (bytes : List UInt8) (rest : List Char) :
    decode (bytes.flatMap encodeByte ++ rest) = bytes ++ decode rest := by
  induction bytes with
  | nil => rfl
  | cons b bytes ih =>
      rw [List.flatMap_cons, List.append_assoc,
        decode_encodeByte, ih, List.cons_append]

/- Whether or not it is encoded, a character is decoded to its bytes. -/
theorem decode_encodeChar
    (hPercent : escaped '%' = true)
    (c : Char) (rest : List Char) :
    decode (encodeChar escaped c ++ rest) =
      Utf8.encodeChar c ++ decode rest := by
  rw [encodeChar]
  by_cases hEscaped : escaped c = true
  · rw [if_pos hEscaped, decode_encodeBytes]
  · rw [if_neg hEscaped]
    apply decode_cons_of_ne
    rintro rfl
    exact hEscaped hPercent

/- A text that is encoded with its percent signs is decoded to its bytes. -/
theorem decode_encodeText
    (hPercent : escaped '%' = true)
    (cs : List Char) :
    decode (encode escaped cs) = Utf8.encode cs := by
  induction cs with
  | nil => rw [encode, List.flatMap_nil, decode]; rfl
  | cons c cs ih =>
      rw [encode] at ih
      rw [encode, List.flatMap_cons, decode_encodeChar hPercent, ih]
      rfl

theorem decodeText?_encode
    (hPercent : escaped '%' = true)
    (cs : List Char) :
    decodeText? (encode escaped cs) = some cs := by
  rw [decodeText?, decode_encodeText hPercent, Utf8.decode?_encode]

/-
  What is found in an encoded text has been there before, or
  belongs to a byte.
-/
theorem mem_encode
    {cs : List Char} {c : Char}
    (hMem : c ∈ encode escaped cs) :
    (c ∈ cs ∧ escaped c = false) ∨ c = '%' ∨ ∃ n < 16,
      c = Hex.upperDigit n := by
  rcases List.mem_flatMap.mp hMem with ⟨d, hChar, hEncoded⟩
  rw [encodeChar] at hEncoded
  by_cases hEscaped : escaped d = true
  · rw [if_pos hEscaped] at hEncoded
    rcases List.mem_flatMap.mp hEncoded with ⟨b, -, hByte⟩
    have hBound := b.toNat_lt
    rw [encodeByte, List.mem_cons, List.mem_cons, List.mem_singleton] at hByte
    rcases hByte with hSign | hHigh | hLow
    · exact Or.inr (Or.inl hSign)
    · exact Or.inr (Or.inr ⟨_, by omega, hHigh⟩)
    · exact Or.inr (Or.inr ⟨_, by omega, hLow⟩)
  · rw [if_neg hEscaped, List.mem_singleton] at hEncoded
    rw [hEncoded]
    exact Or.inl ⟨hChar, Bool.eq_false_iff.mpr hEscaped⟩

/- A text that is encoded is empty only if it has been empty before. -/
theorem encode_eq_nil_iff
    {cs : List Char} :
    encode escaped cs = [] ↔ cs = [] := by
  have hChar : ∀ c, encodeChar escaped c ≠ [] := by
    intro c
    rw [encodeChar]
    split
    · exact List.cons_ne_nil _ _
    · exact List.cons_ne_nil _ _
  cases cs with
  | nil => exact ⟨fun _ => rfl, fun _ => rfl⟩
  | cons c cs =>
      rw [encode, List.flatMap_cons, List.append_eq_nil_iff]
      exact ⟨fun hNone => absurd hNone.1 (hChar c), nofun⟩

end Percent

end ProcessEvents
