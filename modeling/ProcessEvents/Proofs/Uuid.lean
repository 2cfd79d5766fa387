import ProcessEvents.Uuid

/-
  An identifier is read back from its text. Hence no two
  identifiers share a text, and a pipeline is named by its
  text without ambiguity.

  Key theorems include:
    * `Hex.number?_digits`
    * `Uuid.parse?_toText`
    * `Uuid.toText_injective`
-/

namespace ProcessEvents

------------------------------------------------------------
-- Digits
------------------------------------------------------------

namespace Hex

theorem length_digits
    (n count : Nat) :
    (digits n count).length = count := by
  induction count generalizing n with
  | zero => rfl
  | succ count ih =>
      rw [digits, List.length_append, ih]
      rfl

theorem exists_of_mem_digits
    {n count : Nat} {c : Char}
    (hMem : c ∈ digits n count) :
    ∃ v < 16, c = digit v := by
  induction count generalizing n with
  | zero => cases hMem
  | succ count ih =>
      rw [digits] at hMem
      rcases List.mem_append.mp hMem with hFront | hLast
      · exact ih hFront
      · exact ⟨n % 16, Nat.mod_lt n (by decide), List.mem_singleton.mp hLast⟩

/- The lowest digits of a number make up its remainder. -/
theorem number?_digits
    (n count : Nat) :
    number? (digits n count) = some (n % Nat.pow 16 count) := by
  induction count generalizing n with
  | zero =>
      change some 0 = some (n % 1)
      rw [Nat.mod_one]
  | succ count ih =>
      have hFront := ih (n / 16)
      have hLast := value?_digit (n % 16) (Nat.mod_lt n (by decide))
      have hSplit : n % (16 * Nat.pow 16 count) =
          n % 16 + 16 * (n / 16 % Nat.pow 16 count) :=
        Nat.mod_mul
      rw [number?] at hFront
      rw [digits, number?, List.foldlM_append, hFront]
      simp only [Option.bind_eq_bind, Option.bind_some, List.foldlM_cons,
        List.foldlM_nil, hLast, Option.map_some, Option.pure_def,
        Option.some.injEq]
      change 16 * (n / 16 % Nat.pow 16 count) + n % 16 =
        n % (Nat.pow 16 count * 16)
      rw [Nat.mul_comm (Nat.pow 16 count) 16, hSplit, Nat.add_comm]

end Hex

------------------------------------------------------------
-- Texts
------------------------------------------------------------

namespace Uuid

/- What is written between hyphens is the text without them. -/
theorem filter_hyphenated
    {ds : List Char}
    (hDigits : ∀ d ∈ ds, d ≠ '-') :
    (hyphenated ds).filter (· ≠ '-') = ds := by
  have hTake :
      ∀ n m, ((ds.drop n).take m).filter (· ≠ '-') = (ds.drop n).take m := by
    intro n m
    apply List.filter_eq_self.mpr
    intro d hMem
    exact decide_eq_true
      (hDigits d (List.mem_of_mem_drop (List.mem_of_mem_take hMem)))
  have hDrop : (ds.drop 20).filter (· ≠ '-') = ds.drop 20 := by
    apply List.filter_eq_self.mpr
    intro d hMem
    exact decide_eq_true (hDigits d (List.mem_of_mem_drop hMem))
  have hFirst := hTake 0 8
  have hHyphen : decide ('-' ≠ '-') = false := by decide
  rw [List.drop_zero] at hFirst
  simp only [hyphenated, List.filter_append, List.filter_cons, hHyphen, hFirst,
    hTake, hDrop, Bool.false_eq_true, if_false]
  have hJoin : ∀ n m, (ds.drop n).take m ++ ds.drop (n + m) = ds.drop n := by
    intro n m
    rw [← List.drop_drop, List.take_append_drop]
  rw [hJoin 16 4, hJoin 12 4, hJoin 8 4, List.take_append_drop]

theorem digit_ne_hyphen :
    ∀ v < 16, Hex.digit v ≠ '-' := by
  decide

/- No digit begins one of the other forms of a text. -/
theorem digit_ne_mark :
    ∀ v < 16, (Hex.digit v).toLower ≠ 'u' ∧ Hex.digit v ≠ '{' := by
  decide

theorem parse?_toText
    (u : Uuid) :
    parse? u.toText = some u := by
  have hLength := Hex.length_digits u.bits.toNat 32
  have hNumber := Hex.number?_digits u.bits.toNat 32
  have hBits : u.bits.toNat % Nat.pow 16 32 = u.bits.toNat :=
    Nat.mod_eq_of_lt u.bits.isLt
  have hDigits : ∀ d ∈ Hex.digits u.bits.toNat 32, ∃ v < 16, d = Hex.digit v :=
    fun d hMem => Hex.exists_of_mem_digits hMem
  rw [toText]
  generalize Hex.digits u.bits.toNat 32 = ds at *
  have hFilter : (hyphenated ds).filter (· ≠ '-') = ds := by
    apply filter_hyphenated
    intro d hMem
    rcases hDigits d hMem with ⟨v, hLess, rfl⟩
    exact digit_ne_hyphen v hLess
  have hSimple : parseHyphenated? (hyphenated ds) = some u := by
    rw [parseHyphenated?, hFilter, if_pos rfl, parseSimple?, if_pos hLength,
      hNumber, hBits, Option.map_some, ofNat, BitVec.ofNat_toNat,
      BitVec.setWidth_eq]
  cases ds with
  | nil => cases hLength
  | cons d rest =>
      rcases hDigits d List.mem_cons_self with ⟨v, hLess, rfl⟩
      rcases digit_ne_mark v hLess with ⟨hName, hBrace⟩
      have hLong : (hyphenated (Hex.digit v :: rest)).length = 36 := by
        simp [hyphenated] at hLength ⊢
        omega
      have hHead :
          hyphenated (Hex.digit v :: rest) =
            Hex.digit v :: (hyphenated (Hex.digit v :: rest)).tail := rfl
      rw [parse?, String.toList_ofList, if_neg (by omega), if_neg, if_neg]
      · exact hSimple
      · rw [hHead]
        intro h
        exact hBrace (Option.some.inj h.1)
      · rw [hHead]
        intro h
        exact hName (List.cons.inj h).1

theorem toText_injective
    {u v : Uuid}
    (hText : u.toText = v.toText) :
    u = v := by
  have hRead := parse?_toText u
  rw [hText, parse?_toText] at hRead
  exact (Option.some.inj hRead).symm

end Uuid

end ProcessEvents
