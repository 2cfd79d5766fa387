import Mathlib.Tactic.SplitIfs
import ProcessEvents.Base64Url

/-
  This file proves that a text is decoded to bytes exactly if
  it is the encoding of these bytes. Such texts are known by
  their symbols: all are in the alphabet, they are as many as
  whole bytes can have, and the bits that the last one has
  beyond the last byte are zero.

  Key definitions include:
    * `Base64Url.sextets`
    * `Base64Url.IsCanonical`

  Key theorems include:
    * `Base64Url.values_eq_ok_iff`
    * `Base64Url.bytes_sextets`, `Base64Url.sextets_of_bytes`
    * `Base64Url.decode_eq_ok_iff`
    * `Base64Url.exists_encode_iff`
-/

namespace ProcessEvents

namespace Base64Url

------------------------------------------------------------
-- Symbols
------------------------------------------------------------

/- A symbol has six bits, and is the symbol of them. -/
theorem symbol_of_value?
    {c : Char} {v : Nat}
    (hValue : value? c = some v) :
    v < 64 ∧ symbol v = c := by
  have hBetween : ∀ low high : Char, low ≤ c ∧ c ≤ high ↔
      low.toNat ≤ c.toNat ∧ c.toNat ≤ high.toNat := fun _ _ => Iff.rfl
  have hChar : ∀ n, n = c.toNat → Char.ofNat n = c := by
    rintro _ rfl
    exact Char.ofNat_toNat c
  have hLow : 'A'.toNat = 65 ∧ 'a'.toNat = 97 ∧ '0'.toNat = 48 := by decide
  unfold value? at hValue
  simp only [hBetween, Char.reduceToNat] at hValue
  split_ifs at hValue with hUpper hLower hDigit hDash hLine
  · cases hValue
    refine ⟨by omega, ?_⟩
    rw [symbol, if_pos (by omega)]
    exact hChar _ (by omega)
  · cases hValue
    refine ⟨by omega, ?_⟩
    rw [symbol, if_neg (by omega), if_pos (by omega)]
    exact hChar _ (by omega)
  · cases hValue
    refine ⟨by omega, ?_⟩
    rw [symbol, if_neg (by omega), if_neg (by omega), if_pos (by omega)]
    exact hChar _ (by omega)
  · cases hValue
    exact ⟨by omega, hDash.symm⟩
  · cases hValue
    exact ⟨by omega, hLine.symm⟩

------------------------------------------------------------
-- Values
------------------------------------------------------------

/- The values of the symbols of bytes. -/
def sextets : List UInt8 → List Nat
  | a :: b :: c :: rest =>
    let n := (a.toNat * 256 + b.toNat) * 256 + c.toNat
    n / 0x40000 :: n / 0x1000 % 64 :: n / 0x40 % 64 :: n % 64 :: sextets rest
  | [a, b] =>
    let n := (a.toNat * 256 + b.toNat) * 4
    [n / 0x1000, n / 0x40 % 64, n % 64]
  | [a] =>
    let n := a.toNat * 16
    [n / 0x40, n % 64]
  | [] => []

theorem encode_eq_map
    (bs : List UInt8) :
    encode bs = (sextets bs).map symbol := by
  fun_induction encode bs with
  | case1 a b c rest n ih => rw [sextets, ih]; rfl
  | case2 a b n => rfl
  | case3 a n => rfl
  | case4 => rfl

theorem sextets_lt
    (bs : List UInt8) :
    ∀ v ∈ sextets bs, v < 64 := by
  fun_induction sextets bs with
  | case1 a b c rest n ih =>
      have hA := a.toNat_lt
      have hB := b.toNat_lt
      have hC := c.toNat_lt
      simp only [List.forall_mem_cons]
      exact ⟨by omega, by omega, by omega, by omega, ih⟩
  | case2 a b n =>
      have hA := a.toNat_lt
      have hB := b.toNat_lt
      simp only [List.forall_mem_cons]
      exact ⟨by omega, by omega, by omega,
        fun _ hMem => absurd hMem List.not_mem_nil⟩
  | case3 a n =>
      have hA := a.toNat_lt
      simp only [List.forall_mem_cons]
      exact ⟨by omega, by omega, fun _ hMem => absurd hMem List.not_mem_nil⟩
  | case4 => exact fun _ hMem => absurd hMem List.not_mem_nil

/- The values of a text are those that it is written with. -/
theorem values_eq_ok_iff
    {offset : Nat} {cs : List Char} {vs : List Nat} :
    values offset cs = .ok vs ↔ cs = vs.map symbol ∧ ∀ v ∈ vs, v < 64 := by
  induction cs generalizing offset vs with
  | nil =>
      constructor
      · intro hValues
        cases hValues
        exact ⟨rfl, fun _ hMem => absurd hMem List.not_mem_nil⟩
      · rintro ⟨hNone, -⟩
        rw [List.map_eq_nil_iff.mp hNone.symm]
        rfl
  | cons c rest ih =>
      rw [values]
      constructor
      · intro hValues
        cases hValue : value? c with
        | none =>
            rw [hValue] at hValues
            cases hValues
        | some v =>
            rw [hValue] at hValues
            cases hRest : values (offset + 1) rest with
            | error fault =>
                rw [hRest] at hValues
                cases hValues
            | ok more =>
                rw [hRest] at hValues
                cases hValues
                rcases ih.mp hRest with ⟨rfl, hBits⟩
                rcases symbol_of_value? hValue with ⟨hLess, rfl⟩
                exact ⟨rfl, List.forall_mem_cons.mpr ⟨hLess, hBits⟩⟩
      · rintro ⟨hText, hBits⟩
        cases vs with
        | nil => cases hText
        | cons v more =>
            cases hText
            rcases List.forall_mem_cons.mp hBits with ⟨hLess, hRest⟩
            have hMore : values (offset + 1) (more.map symbol) = .ok more :=
              ih.mpr ⟨rfl, hRest⟩
            rw [value?_symbol v hLess]
            dsimp only
            rw [hMore]
            rfl

------------------------------------------------------------
-- Bytes
------------------------------------------------------------

theorem bytes_sextets
    (offset : Nat) (bs : List UInt8) :
    bytes offset (sextets bs) = .ok bs := by
  have hByte : ∀ (b : UInt8) n, n = b.toNat → UInt8.ofNat n = b := by
    rintro b _ rfl
    exact UInt8.ofNat_toNat
  fun_induction sextets bs generalizing offset with
  | case1 a b c rest n ih =>
      have hB := b.toNat_lt
      have hC := c.toNat_lt
      rw [bytes, ih, hByte a _ (by omega), hByte b _ (by omega),
        hByte c _ (by omega)]
      rfl
  | case2 a b n =>
      have hB := b.toNat_lt
      rw [bytes, if_pos (by omega), hByte a _ (by omega), hByte b _ (by omega)]
  | case3 a n => rw [bytes, if_pos (by omega), hByte a _ (by omega)]
  | case4 => rfl

/- Values of six bits are decoded to the bytes that they are the values of. -/
theorem sextets_of_bytes
    {offset : Nat} {vs : List Nat} {bs : List UInt8}
    (hBits : ∀ v ∈ vs, v < 64)
    (hBytes : bytes offset vs = .ok bs) :
    vs = sextets bs := by
  have hByte : ∀ n < 256, (UInt8.ofNat n).toNat = n := by
    intro n hLess
    rw [UInt8.toNat_ofNat', Nat.mod_eq_of_lt hLess]
  fun_induction bytes offset vs generalizing bs with
  | case1 offset a b c d rest n =>
      rename_i ih
      simp only [List.forall_mem_cons] at hBits
      rcases hBits with ⟨hA, hB, hC, hD, hRest⟩
      cases hTail : bytes (offset + 4) rest with
      | error fault =>
          rw [hTail] at hBytes
          cases hBytes
      | ok tail =>
          rw [hTail] at hBytes
          cases hBytes
          rw [sextets, hByte _ (by omega), hByte _ (by omega),
            hByte _ (by omega), ← ih hRest hTail]
          simp only [List.cons.injEq, and_true]
          omega
  | case2 offset a b c n =>
      rename_i hUnused
      simp only [List.forall_mem_cons] at hBits
      rcases hBits with ⟨hA, hB, hC, -⟩
      cases hBytes
      rw [sextets, hByte _ (by omega), hByte _ (by omega)]
      simp only [List.cons.injEq, and_true]
      omega
  | case3 => cases hBytes
  | case4 offset a b n =>
      rename_i hUnused
      simp only [List.forall_mem_cons] at hBits
      rcases hBits with ⟨hA, hB, -⟩
      cases hBytes
      rw [sextets, hByte _ (by omega)]
      simp only [List.cons.injEq, and_true]
      omega
  | case5 => cases hBytes
  | case6 => cases hBytes
  | case7 =>
      cases hBytes
      rfl

------------------------------------------------------------
-- Texts
------------------------------------------------------------

/- A text of symbols has no stray byte at its end. -/
theorem strayLast?_of_symbols
    {vs : List Nat}
    (hBits : ∀ v ∈ vs, v < 64) :
    strayLast? (vs.map symbol) = none := by
  rw [strayLast?, List.getLast?_map]
  cases hLast : vs.getLast? with
  | none => rfl
  | some v =>
      have hValue := value?_symbol v (hBits v (List.mem_of_getLast? hLast))
      rw [Option.map_some, Option.bind_eq_bind,
        Option.bind_some, hValue, Option.isNone_some]
      change (guard ((decide (Utf8.byteCount _ % 4 = 1) && false) = true) >>=
        fun _ => _) = none
      rw [Bool.and_false]
      rfl

/- A text is decoded to bytes exactly if it is their encoding. -/
theorem decode_eq_ok_iff
    {cs : List Char} {bs : List UInt8} :
    decode cs = .ok bs ↔ cs = encode bs := by
  constructor
  · intro hDecode
    rw [decode] at hDecode
    cases hStray : strayLast? cs with
    | some fault =>
        rw [hStray] at hDecode
        cases hDecode
    | none =>
        rw [hStray] at hDecode
        cases hValues : values 0 cs with
        | error fault =>
            rw [hValues] at hDecode
            cases hDecode
        | ok vs =>
            rw [hValues] at hDecode
            rcases values_eq_ok_iff.mp hValues with ⟨rfl, hBits⟩
            rw [encode_eq_map, ← sextets_of_bytes hBits hDecode]
  · rintro rfl
    have hBits := sextets_lt bs
    rw [encode_eq_map, decode, strayLast?_of_symbols hBits]
    dsimp only
    rw [values_eq_ok_iff.mpr ⟨rfl, hBits⟩]
    exact bytes_sextets 0 bs

/-
  A text that is written in symbols only, as many as whole
  bytes can have, and with unused bits that are zero.
-/
structure IsCanonical
    (cs : List Char) : Prop where
  alphabet : ∀ c ∈ cs, (value? c).isSome = true
  length : cs.length % 4 ≠ 1
  unused :
    ∀ c v, cs.getLast? = some c → value? c = some v →
      (cs.length % 4 = 2 → v % 16 = 0) ∧ (cs.length % 4 = 3 → v % 4 = 0)

/- Values as many as whole bytes can have, with unused bits that are zero. -/
structure HasWholeBytes
    (vs : List Nat) : Prop where
  length : vs.length % 4 ≠ 1
  unused :
    ∀ v, vs.getLast? = some v →
      (vs.length % 4 = 2 → v % 16 = 0) ∧ (vs.length % 4 = 3 → v % 4 = 0)

/- A full group of values at the front changes nothing. -/
theorem hasWholeBytes_group
    (a b c d : Nat) (rest : List Nat) :
    HasWholeBytes (a :: b :: c :: d :: rest) ↔ HasWholeBytes rest := by
  have hLength : (a :: b :: c :: d :: rest).length % 4 = rest.length % 4 := by
    simp only [List.length_cons]
    omega
  cases rest with
  | nil =>
      constructor
      · exact fun _ => ⟨by decide, fun v hLast => by cases hLast⟩
      · exact fun _ => ⟨by simp, fun v _ => ⟨by simp, by simp⟩⟩
  | cons e rest =>
      have hLast :
          (a :: b :: c :: d :: e :: rest).getLast? = (e :: rest).getLast? := by
        simp only [List.getLast?_cons_cons]
      constructor
      · rintro ⟨hCount, hUnused⟩
        rw [hLength] at hCount hUnused
        rw [hLast] at hUnused
        exact ⟨hCount, hUnused⟩
      · rintro ⟨hCount, hUnused⟩
        rw [← hLength] at hCount hUnused
        rw [← hLast] at hUnused
        exact ⟨hCount, hUnused⟩

theorem exists_bytes_iff
    {offset : Nat} {vs : List Nat} :
    (∃ bs, bytes offset vs = .ok bs) ↔ HasWholeBytes vs := by
  fun_induction bytes offset vs with
  | case1 offset a b c d rest n ih =>
      rw [hasWholeBytes_group, ← ih]
      cases bytes (offset + 4) rest with
      | error fault =>
          constructor
          · rintro ⟨_, hBytes⟩
            cases hBytes
          · rintro ⟨_, hBytes⟩
            cases hBytes
      | ok tail => exact ⟨fun _ => ⟨_, rfl⟩, fun _ => ⟨_, rfl⟩⟩
  | case2 offset a b c n hUnused =>
      refine ⟨fun _ => ⟨by simp, fun v hLast => ⟨by simp, fun _ => ?_⟩⟩,
        fun _ => ⟨_, rfl⟩⟩
      have hSame : c = v := Option.some.inj hLast
      omega
  | case3 offset a b c n hUnused =>
      constructor
      · rintro ⟨_, hBytes⟩
        cases hBytes
      · intro hWhole
        have hZero := (hWhole.unused c rfl).2 rfl
        omega
  | case4 offset a b n hUnused =>
      refine ⟨fun _ => ⟨by simp, fun v hLast => ⟨fun _ => ?_, by simp⟩⟩,
        fun _ => ⟨_, rfl⟩⟩
      have hSame : b = v := Option.some.inj hLast
      omega
  | case5 offset a b n hUnused =>
      constructor
      · rintro ⟨_, hBytes⟩
        cases hBytes
      · intro hWhole
        have hZero := (hWhole.unused b rfl).1 rfl
        omega
  | case6 =>
      constructor
      · rintro ⟨_, hBytes⟩
        cases hBytes
      · exact fun hWhole => absurd rfl hWhole.length
  | case7 => exact ⟨fun _ => ⟨by decide, fun _ hLast => by cases hLast⟩,
        fun _ => ⟨_, rfl⟩⟩

/- A text in the alphabet is written with values of six bits. -/
theorem exists_values
    {cs : List Char}
    (hAlphabet : ∀ c ∈ cs, (value? c).isSome = true) :
    ∃ vs : List Nat, cs = vs.map symbol ∧ ∀ v ∈ vs, v < 64 := by
  induction cs with
  | nil => exact ⟨[], rfl, fun _ hMem => absurd hMem List.not_mem_nil⟩
  | cons c cs ih =>
      rcases List.forall_mem_cons.mp hAlphabet with ⟨hHere, hRest⟩
      rcases Option.isSome_iff_exists.mp hHere with ⟨v, hValue⟩
      rcases symbol_of_value? hValue with ⟨hLess, rfl⟩
      rcases ih hRest with ⟨vs, rfl, hBits⟩
      exact ⟨v :: vs, rfl, List.forall_mem_cons.mpr ⟨hLess, hBits⟩⟩

/- The encodings of bytes are the texts that are canonical. -/
theorem exists_encode_iff
    {cs : List Char} :
    (∃ bs, cs = encode bs) ↔ IsCanonical cs := by
  constructor
  · rintro ⟨bs, rfl⟩
    have hBits := sextets_lt bs
    have hWhole := exists_bytes_iff.mp ⟨bs, bytes_sextets 0 bs⟩
    rw [encode_eq_map]
    refine ⟨?_, ?_, ?_⟩
    · intro c hMem
      rcases List.mem_map.mp hMem with ⟨v, hValue, rfl⟩
      rw [value?_symbol v (hBits v hValue)]
      rfl
    · rw [List.length_map]
      exact hWhole.length
    · intro c v hLast hValue
      rw [List.getLast?_map, Option.map_eq_some_iff] at hLast
      rcases hLast with ⟨w, hLast, rfl⟩
      rw [value?_symbol w (hBits w (List.mem_of_getLast? hLast)),
        Option.some.injEq] at hValue
      rw [List.length_map, ← hValue]
      exact hWhole.unused w hLast
  · rintro ⟨hAlphabet, hCount, hUnused⟩
    rcases exists_values hAlphabet with ⟨vs, rfl, hBits⟩
    rw [List.length_map] at hCount hUnused
    have hWhole : HasWholeBytes vs := by
      refine ⟨hCount, fun v hLast => hUnused (symbol v) v ?_ ?_⟩
      · rw [List.getLast?_map, hLast]
        rfl
      · exact value?_symbol v (hBits v (List.mem_of_getLast? hLast))
    have hDecoded : ∃ bs, bytes 0 vs = .ok bs := exists_bytes_iff.mpr hWhole
    rcases hDecoded with ⟨bs, hBytes⟩
    exact ⟨bs, by rw [encode_eq_map, ← sextets_of_bytes hBits hBytes]⟩

end Base64Url

end ProcessEvents
