import Mathlib.Data.List.TakeDrop
import Mathlib.Data.Option.Basic
import ProcessEvents.Json.Reader
import ProcessEvents.Json.Writer

/-
  Reading a JSON text that has been written gives back the
  written value, provided that the value is plain: it holds
  no doubles, its integers are within the bounds of the
  reader, and it is not nested too deep.

  Key definitions include:
    * `Json.isPlain`
    * `Json.endsNumeral`

  Key theorems include:
    * `Json.readString_quote`
    * `Json.readNumeral_renderInt`
    * `Json.readValue_render`
    * `Json.read?_toText`
-/

namespace ProcessEvents

namespace Json

------------------------------------------------------------
-- Texts
------------------------------------------------------------

/- How a character is read after it has been escaped. -/
def escapedUnit
    (c : Char) : TextUnit :=
  if isControl c && c ∉ ['\x08', '\x0c', '\n', '\r', '\t'] then
    .code c.toNat
  else .char c

/- The four hexadecimal digits of a control character. -/
theorem hexNumber?_control
    {n : Nat}
    (hControl : n < 32) :
    Hex.number? ['0', '0', Hex.digit (n / 16), Hex.digit (n % 16)] =
      some n := by
  have hHigh := Hex.value?_digit (n / 16) (by omega)
  have hLow := Hex.value?_digit (n % 16) (by omega)
  have hZero : Hex.value? '0' = some 0 := by decide
  simp only [Hex.number?, List.foldlM_cons, List.foldlM_nil, hZero, hHigh, hLow,
    Option.map_some, Option.bind_eq_bind, Option.bind_some, Option.pure_def,
    Option.some.injEq]
  omega

/- A character that needs no escape is read as itself. -/
theorem readUnits_char
    {c : Char} {rest : List Char}
    (hQuote : c ≠ '"')
    (hBackslash : c ≠ '\\')
    (hControl : ¬ c.toNat < 32) :
    readUnits (c :: rest) =
      (readUnits rest).map fun r => (.char c :: r.1, r.2) := by
  have hPlain : (!isControl c && c != '\\') = true := by
    simp only [isControl, Bool.and_eq_true, Bool.not_eq_true',
      decide_eq_false_iff_not, bne_iff_ne]
    exact ⟨hControl, hBackslash⟩
  rw [readUnits]
  · rw [hPlain]
    cases readUnits rest <;> rfl
  · exact fun h => hQuote h
  · intro a b c d rest' h
    exact fun _ => hBackslash h
  · intro e rest' h
    exact fun _ => hBackslash h

/- A letter behind a backslash is read as the character that it stands for. -/
theorem readUnits_letter
    {e c : Char}
    (hLetter : e ≠ 'u')
    (hChar : escapedChar? e = some c)
    (rest : List Char) :
    readUnits ('\\' :: e :: rest) =
      (readUnits rest).map fun r => (.char c :: r.1, r.2) := by
  rw [readUnits]
  · rw [hChar]
    cases readUnits rest <;> rfl
  · intro a b c d rest' h
    exact fun _ => hLetter h

/- A character in its escaped form is read as one unit. -/
theorem readUnits_escape
    (c : Char) (rest : List Char) :
    readUnits (escape c ++ rest) =
      (readUnits rest).map fun r => (escapedUnit c :: r.1, r.2) := by
  unfold escape
  split
  case h_8 hQuote hBackslash hBs hFf hNl hCr hTab =>
    by_cases hControl : c.toNat < 32
    · have hUnit : escapedUnit c = .code c.toNat := by
        simp_all [escapedUnit, isControl]
      rw [if_pos hControl, hUnit]
      simp only [List.cons_append, List.nil_append]
      rw [readUnits, hexNumber?_control hControl]
      cases readUnits rest <;> rfl
    · have hUnit : escapedUnit c = .char c := by
        simp [escapedUnit, isControl, hControl]
      rw [if_neg hControl, hUnit, List.cons_append, List.nil_append]
      exact readUnits_char hQuote hBackslash hControl
  all_goals
    exact readUnits_letter (by decide) rfl rest

/- No escaped character is read as half of a surrogate pair. -/
theorem textOfUnits_escapedUnit
    (c : Char) (units : List TextUnit) :
    textOfUnits (escapedUnit c :: units) =
      (textOfUnits units).map (c :: ·) := by
  unfold escapedUnit
  split
  · rename_i hControl
    have hLow : c.toNat < 32 := by
      simp [isControl] at hControl
      exact hControl.1
    have hHigh : isHighSurrogate c.toNat = false := by
      simp [isHighSurrogate]
      omega
    have hLowHalf : isLowSurrogate c.toNat = false := by
      simp [isLowSurrogate]
      omega
    have hChar : Char.ofNat c.toNat = c := Char.ofNat_toNat c
    generalize c.toNat = n at hHigh hLowHalf hChar
    rw [textOfUnits.eq_def]
    split <;> simp_all
  · rw [textOfUnits]

/- The units of an escaped text, up to the closing quote. -/
theorem readUnits_flatMap_escape
    (cs rest : List Char) :
    readUnits (cs.flatMap escape ++ '"' :: rest) =
      some (cs.map escapedUnit, rest) := by
  induction cs with
  | nil =>
      rw [List.flatMap_nil, List.nil_append, readUnits]
      rfl
  | cons c cs ih =>
      rw [List.flatMap_cons, List.append_assoc, readUnits_escape, ih]
      rfl

theorem textOfUnits_map_escapedUnit
    (cs : List Char) :
    textOfUnits (cs.map escapedUnit) = some cs := by
  induction cs with
  | nil => rfl
  | cons c cs ih =>
      rw [List.map_cons, textOfUnits_escapedUnit, ih]
      rfl

/- A quoted text is read back, whatever its characters are. -/
theorem readString_quote
    (s : String) (rest : List Char) :
    readString (s.toList.flatMap escape ++ '"' :: rest) =
      some (some s, rest) := by
  rw [readString, readUnits_flatMap_escape]
  simp [textOfUnits_map_escapedUnit]

------------------------------------------------------------
-- Numbers
------------------------------------------------------------

/- Whether a number that stands in front of a text ends there. -/
def endsNumeral : List Char → Bool
  | [] => true
  | c :: _ => !c.isDigit && c != '.' && c != 'e' && c != 'E'

/- The number that a text of digits stands for. -/
def wholeNumeral
    (negative : Bool)
    (n : Nat) : Numeral :=
  { negative
    whole := Nat.toDigits 10 n
    fraction := []
    exponent := 0
    hasMark := false }

theorem digitsValue_toDigits
    (n : Nat) :
    digitsValue (Nat.toDigits 10 n) = n := by
  rw [digitsValue, ← Nat.ofDigitChars_eq_foldl, Nat.ofDigitChars_ten_toDigits]

theorem isDigit_of_mem_toDigits
    {n : Nat} {c : Char}
    (hMem : c ∈ Nat.toDigits 10 n) :
    c.isDigit = true :=
  Nat.isDigit_of_mem_toDigits (by decide) (by decide) hMem

/- Only zero is written with a zero in front. -/
theorem toDigits_of_pos
    {n : Nat}
    (hPos : 0 < n) :
    ∃ d ds, Nat.toDigits 10 n = d :: ds ∧ d ≠ '0' := by
  induction n using Nat.strongRecOn with
  | ind n ih =>
      rcases Nat.lt_or_ge n 10 with hSmall | hLarge
      · refine ⟨n.digitChar, [], Nat.toDigits_of_lt_base hSmall, ?_⟩
        exact fun hZero => Nat.ne_of_gt hPos (Nat.digitChar_eq_zero.mp hZero)
      · rcases ih (n / 10) (by omega) (by omega) with ⟨d, ds, hDigits, hHead⟩
        refine ⟨d, ds ++ [(n % 10).digitChar], ?_, hHead⟩
        rw [Nat.toDigits_of_base_le (by decide) hLarge, hDigits]
        rfl

/- Digits end where no digit follows. -/
theorem span_isDigit
    {ds rest : List Char}
    (hDigits : ∀ d ∈ ds, d.isDigit = true)
    (hEnd : endsNumeral rest = true) :
    (ds ++ rest).span Char.isDigit = (ds, rest) := by
  rw [List.span_eq_takeWhile_dropWhile, List.takeWhile_append_of_pos hDigits,
    List.dropWhile_append_of_pos hDigits]
  cases rest with
  | nil => simp
  | cons c rest =>
      have hOther : c.isDigit = false := by
        simp only [endsNumeral, Bool.and_eq_true, Bool.not_eq_true'] at hEnd
        exact hEnd.1.1.1
      simp [hOther]

theorem readWhole_toDigits
    (n : Nat) {rest : List Char}
    (hEnd : endsNumeral rest = true) :
    readWhole (Nat.toDigits 10 n ++ rest) = some (Nat.toDigits 10 n, rest) := by
  rcases Nat.eq_zero_or_pos n with rfl | hPos
  · rw [Nat.toDigits_zero]
    cases rest with
    | nil => rfl
    | cons c rest =>
        have hOther : c.isDigit = false := by
          simp only [endsNumeral, Bool.and_eq_true, Bool.not_eq_true'] at hEnd
          exact hEnd.1.1.1
        simp [readWhole, hOther]
  · rcases toDigits_of_pos hPos with ⟨d, ds, hDigits, hHead⟩
    have hAll : ∀ c ∈ Nat.toDigits 10 n, c.isDigit = true :=
      fun c hMem => isDigit_of_mem_toDigits hMem
    have hFirst : d.isDigit = true :=
      hAll d (by rw [hDigits]; exact List.mem_cons_self)
    have hSpan := span_isDigit hAll hEnd
    rw [hDigits] at hSpan ⊢
    rw [List.cons_append] at hSpan ⊢
    rw [readWhole]
    · rw [if_pos hFirst, hSpan]
    · exact hHead

theorem readFraction_end
    {rest : List Char}
    (hEnd : endsNumeral rest = true) :
    readFraction rest = some ([], rest) := by
  cases rest with
  | nil => rfl
  | cons c rest =>
      rw [readFraction]
      rintro _ hPoint
      cases hPoint
      simp [endsNumeral] at hEnd

theorem readExponent_end
    {rest : List Char}
    (hEnd : endsNumeral rest = true) :
    readExponent rest = some (false, 0, rest) := by
  unfold readExponent
  split
  · simp [endsNumeral] at hEnd
  · simp [endsNumeral] at hEnd
  · rfl

/- A written integer is read up to its end. -/
theorem readNumeral_renderInt
    (n : Int) {rest : List Char}
    (hEnd : endsNumeral rest = true) :
    readNumeral (renderInt n ++ rest) =
      some (wholeNumeral (decide (n < 0)) n.natAbs, rest) := by
  cases n with
  | ofNat n =>
      have hWhole := readWhole_toDigits n hEnd
      have hSign : ∀ cs, Nat.toDigits 10 n ++ rest ≠ '-' :: cs := by
        intro cs hSame
        rw [hSame] at hWhole
        simp [readWhole] at hWhole
      simp only [renderInt, readNumeral]
      rw [hWhole]
      simp [readFraction_end hEnd, readExponent_end hEnd, wholeNumeral]
  | negSucc n =>
      have hWhole := readWhole_toDigits (n + 1) hEnd
      simp only [renderInt, readNumeral, List.cons_append]
      rw [hWhole]
      simp [readFraction_end hEnd, readExponent_end hEnd, wholeNumeral,
        Int.negSucc_lt_zero, Int.natAbs_negSucc]

/- Integers within the bounds of the reader stay integers. -/
theorem toJson_wholeNumeral
    {n : Int}
    (hLow : -0x8000000000000000 ≤ n)
    (hHigh : n ≤ maxSignificand) :
    (wholeNumeral (decide (n < 0)) n.natAbs).toJson = .int n := by
  rw [Numeral.toJson]
  simp only [wholeNumeral, digitsValue_toDigits]
  by_cases hSign : n < 0
  · have hValue : -(n.natAbs : Int) = n := by omega
    simp only [hSign, decide_true, Bool.false_eq_true, if_false, if_true]
    rw [if_pos (by omega), hValue]
  · have hValue : (n.natAbs : Int) = n := by omega
    simp only [hSign, decide_false, Bool.false_eq_true, if_false]
    rw [if_pos (by omega), hValue]

------------------------------------------------------------
-- Values
------------------------------------------------------------

mutual

/- Whether a value holds only what is read as it is written. -/
def isPlain : Json → Bool
  | null => true
  | bool _ => true
  | int n => -0x8000000000000000 ≤ n && n ≤ maxSignificand
  | double _ => false
  | str _ => true
  | arr items => itemsArePlain items
  | obj members => membersArePlain members
  | unreadable => false

def itemsArePlain : List Json → Bool
  | [] => true
  | j :: rest => isPlain j && itemsArePlain rest

def membersArePlain : List (String × Json) → Bool
  | [] => true
  | (_, j) :: rest => isPlain j && membersArePlain rest

end

/- Characters that no value begins with. -/
def isGap
    (c : Char) : Bool :=
  isBlank c || c == ']' || c == '}'

/- A digit begins neither a word, a text, an array nor an object. -/
theorem readValue_of_numeral
    {c : Char} {cs : List Char} {fuel level : Nat}
    (hHead : c.isDigit = true ∨ c = '-') :
    readValue (fuel + 1) level (c :: cs) =
      (readNumeral (c :: cs)).map fun r => (r.1.toJson, r.2) := by
  have hBlank : isBlank c = false := by
    rcases hHead with hDigit | rfl
    · rw [← Bool.not_eq_true]
      intro hBlank
      simp only [isBlank, Bool.or_eq_true, beq_iff_eq] at hBlank
      rcases hBlank with ((rfl | rfl) | rfl) | rfl <;>
        exact absurd hDigit (by decide)
    · decide
  rw [readValue, skipBlanks, List.dropWhile_cons, hBlank]
  rcases hHead with hDigit | rfl
  · simp only [Bool.false_eq_true, if_false]
    split
    all_goals
      first
      | rfl
      | (rename_i hSame
         cases hSame
         exact absurd hDigit (by decide))
  · rfl

theorem renderInt_head
    (n : Int) :
    ∃ c cs, renderInt n = c :: cs ∧ (c.isDigit = true ∨ c = '-') := by
  cases n with
  | ofNat n =>
      cases hDigits : Nat.toDigits 10 n with
      | nil => exact absurd hDigits Nat.toDigits_ne_nil
      | cons d ds =>
          refine ⟨d, ds, hDigits, Or.inl ?_⟩
          have hMem : d ∈ Nat.toDigits 10 n := by
            rw [hDigits]
            exact List.mem_cons_self
          exact isDigit_of_mem_toDigits hMem
  | negSucc n => exact ⟨'-', Nat.toDigits 10 (n + 1), rfl, Or.inr rfl⟩

theorem isGap_of_numeral
    {c : Char}
    (hHead : c.isDigit = true ∨ c = '-') :
    isGap c = false := by
  rw [← Bool.not_eq_true]
  intro hGap
  simp only [isGap, isBlank, Bool.or_eq_true, beq_iff_eq] at hGap
  rcases hHead with hDigit | rfl
  · rcases hGap with ((((rfl | rfl) | rfl) | rfl) | rfl) | rfl <;>
      exact absurd hDigit (by decide)
  · rcases hGap with ((((h | h) | h) | h) | h) | h <;>
      exact absurd h (by decide)

/- A plain value is written without blanks in front. -/
theorem render_head
    {j : Json}
    (hPlain : isPlain j = true) :
    ∃ c cs, render j = c :: cs ∧ isGap c = false := by
  cases j with
  | null => exact ⟨'n', ['u', 'l', 'l'], by rw [render], by decide⟩
  | bool b =>
      cases b with
      | true => exact ⟨'t', ['r', 'u', 'e'], by rw [render], by decide⟩
      | false => exact ⟨'f', ['a', 'l', 's', 'e'], by rw [render], by decide⟩
  | int n =>
      rcases renderInt_head n with ⟨c, cs, hRender, hHead⟩
      exact ⟨c, cs, by rw [render, hRender], isGap_of_numeral hHead⟩
  | double x => simp [isPlain] at hPlain
  | str s => exact ⟨'"', s.toList.flatMap escape ++ ['"'],
        by rw [render, quote], by decide⟩
  | arr items =>
      cases items with
      | nil => exact ⟨'[', [']'], by rw [render], by decide⟩
      | cons j rest => exact ⟨'[', _, by rw [render], by decide⟩
  | obj members =>
      cases members with
      | nil => exact ⟨'{', ['}'], by rw [render], by decide⟩
      | cons m rest => exact ⟨'{', _, by rw [render], by decide⟩
  | unreadable => simp [isPlain] at hPlain

theorem render_length_pos
    {j : Json}
    (hPlain : isPlain j = true) :
    0 < (render j).length := by
  rcases render_head hPlain with ⟨c, cs, hRender, -⟩
  rw [hRender]
  exact Nat.zero_lt_succ _

theorem renderItems_length_pos
    (items : List Json) :
    0 < (renderItems items).length := by
  cases items with
  | nil => simp [renderItems]
  | cons j more => simp [renderItems]

theorem renderMembers_length_pos
    (members : List (String × Json)) :
    0 < (renderMembers members).length := by
  cases members with
  | nil => simp [renderMembers]
  | cons m more =>
      rcases m with ⟨key, j⟩
      simp [renderMembers]

theorem skipBlanks_of_isGap
    {c : Char} {cs : List Char}
    (hGap : isGap c = false) :
    skipBlanks (c :: cs) = c :: cs := by
  simp only [isGap, Bool.or_eq_false_iff] at hGap
  rw [skipBlanks, List.dropWhile_cons, hGap.1.1]
  rfl

/- Below the deepest level a value is used as it is. -/
theorem atLevel_of_lt
    {level : Nat}
    (hLevel : level < maxLevel)
    (j : Json) :
    atLevel level j = j := by
  rw [atLevel, if_pos hLevel]

/- Members whose keys have been read make up an object. -/
theorem ofMembers_of_readable
    (members : List (String × Json)) :
    ofMembers (members.map fun m => (some m.1, m.2)) = .obj members := by
  have hKeys :
      (members.map fun m => (some m.1, m.2)).mapM
          (fun m => m.1.map fun k => (k, m.2)) =
        some members := by
    induction members with
    | nil => rfl
    | cons m rest ih =>
        rw [List.map_cons, List.mapM_cons, ih]
        rfl
  rw [ofMembers, hKeys]

/- What follows an item ends the number that the item may be. -/
theorem endsNumeral_renderItems
    (items : List Json) (rest : List Char) :
    endsNumeral (renderItems items ++ rest) = true := by
  cases items <;> rfl

theorem endsNumeral_renderMembers
    (members : List (String × Json)) (rest : List Char) :
    endsNumeral (renderMembers members ++ rest) = true := by
  cases members with
  | nil => rfl
  | cons m more => rfl

theorem readValue_renderInt
    {n : Int} {rest : List Char}
    (hPlain : isPlain (.int n) = true)
    (hEnd : endsNumeral rest = true)
    (fuel level : Nat) :
    readValue (fuel + 1) level (renderInt n ++ rest) = some (.int n, rest) := by
  simp only [isPlain, Bool.and_eq_true, decide_eq_true_eq] at hPlain
  have hNumeral := readNumeral_renderInt n hEnd
  rcases renderInt_head n with ⟨c, cs, hRender, hHead⟩
  rw [hRender, List.cons_append] at hNumeral ⊢
  rw [readValue_of_numeral hHead, hNumeral, Option.map_some,
    toJson_wholeNumeral hPlain.1 hPlain.2]

theorem readValue_quote
    (s : String) (fuel level : Nat) (rest : List Char) :
    readValue (fuel + 1) level (quote s ++ rest) = some (.str s, rest) := by
  rw [quote, List.cons_append, readValue]
  change (readString (s.toList.flatMap escape ++ ['"'] ++ rest)).map _ = _
  rw [List.append_assoc, List.singleton_append, readString_quote]
  rfl

/- What is no gap after the bracket begins the first item. -/
theorem readValue_of_readItems
    {c : Char} {cs rest : List Char} {items : List Json} {fuel level : Nat}
    (hGap : isGap c = false)
    (hLevel : level < maxLevel)
    (hItems : readItems fuel (level + 1) (c :: cs) = some (items, rest)) :
    readValue (fuel + 1) level ('[' :: c :: cs) = some (.arr items, rest) := by
  rw [readValue, skipBlanks_of_isGap (by decide)]
  simp only [skipBlanks_of_isGap hGap]
  split
  · rename_i hSame
    cases hSame
    exact absurd hGap (by decide)
  · rw [hItems, Option.map_some]
    simp only
    rw [atLevel_of_lt hLevel]

/- The first member begins with the quotation mark of its key. -/
theorem readValue_of_readMembers
    {cs rest : List Char} {members : List (String × Json)} {fuel level : Nat}
    (hLevel : level < maxLevel)
    (hMembers :
      readMembers fuel (level + 1) ('"' :: cs) =
        some (members.map fun m => (some m.1, m.2), rest)) :
    readValue (fuel + 1) level ('{' :: '"' :: cs) =
      some (.obj members, rest) := by
  have hQuote : isGap '"' = false := rfl
  rw [readValue, skipBlanks_of_isGap (by decide)]
  simp only [skipBlanks_of_isGap hQuote]
  change (readMembers fuel (level + 1) _).map _ = _
  rw [hMembers, Option.map_some]
  simp only
  rw [ofMembers_of_readable, atLevel_of_lt hLevel]

mutual

/-
  A plain value is read back from its text, whatever follows
  it, unless this could belong to a number at its end.
-/
theorem readValue_render
    (j : Json)
    (fuel level : Nat) (rest : List Char)
    (hPlain : isPlain j = true)
    (hLevel : level + depth j ≤ maxLevel)
    (hFuel : 2 * (render j).length ≤ fuel)
    (hEnd : endsNumeral rest = true) :
    readValue fuel level (render j ++ rest) = some (j, rest) := by
  have hLength := render_length_pos hPlain
  cases fuel with
  | zero => omega
  | succ fuel =>
      cases j with
      | null =>
          rw [render, readValue]
          rfl
      | bool b =>
          cases b <;> rw [render, readValue] <;> rfl
      | int n =>
          rw [render]
          exact readValue_renderInt hPlain hEnd fuel level
      | double x => simp [isPlain] at hPlain
      | unreadable => simp [isPlain] at hPlain
      | str s =>
          rw [render]
          exact readValue_quote s fuel level rest
      | arr items =>
          cases items with
          | nil =>
              rw [render, readValue]
              change some (atLevel level (arr []), rest) = _
              rw [atLevel_of_lt]
              simp only [depth] at hLevel
              omega
          | cons j more =>
              simp only [isPlain, itemsArePlain, Bool.and_eq_true] at hPlain
              simp only [depth, depthItems] at hLevel
              simp only [render, List.length_cons, List.length_append] at hFuel
              have hItems :=
                readItems_render j more fuel (level + 1) rest
                  hPlain.1 hPlain.2 (by omega) (by omega)
              rcases render_head hPlain.1 with ⟨c, cs, hRender, hGap⟩
              rw [render, List.cons_append, List.append_assoc]
              rw [hRender, List.cons_append] at hItems ⊢
              exact readValue_of_readItems hGap (by omega) hItems
      | obj members =>
          cases members with
          | nil =>
              rw [render, readValue]
              change some (atLevel level (obj []), rest) = _
              rw [atLevel_of_lt]
              simp only [depth] at hLevel
              omega
          | cons m more =>
              rcases m with ⟨key, j⟩
              simp only [isPlain, membersArePlain, Bool.and_eq_true] at hPlain
              simp only [depth, depthMembers] at hLevel
              simp only [render, List.length_cons, List.length_append] at hFuel
              have hMembers :=
                readMembers_render key j more fuel (level + 1) rest
                  hPlain.1 hPlain.2 (by omega) (by omega)
              rw [render, List.cons_append, List.append_assoc, List.cons_append,
                List.append_assoc]
              rw [quote, List.cons_append] at hMembers ⊢
              exact readValue_of_readMembers (by omega) hMembers
termination_by fuel

/- The items of an array are read back up to its end. -/
theorem readItems_render
    (j : Json) (more : List Json)
    (fuel level : Nat) (rest : List Char)
    (hPlain : isPlain j = true)
    (hMore : itemsArePlain more = true)
    (hLevel : level + max (depth j) (depthItems more) ≤ maxLevel)
    (hFuel : 2 * ((render j).length + (renderItems more).length) ≤ fuel + 1) :
    readItems fuel level (render j ++ (renderItems more ++ rest)) =
      some (j :: more, rest) := by
  have hLength := render_length_pos hPlain
  have hTail := renderItems_length_pos more
  cases fuel with
  | zero => omega
  | succ fuel =>
      have hItem :=
        readValue_render j fuel level (renderItems more ++ rest)
          hPlain (by omega) (by omega) (endsNumeral_renderItems more rest)
      rw [readItems, hItem]
      cases more with
      | nil => rfl
      | cons next more =>
          simp only [itemsArePlain, Bool.and_eq_true] at hMore
          simp only [depthItems] at hLevel
          simp only [renderItems, List.length_cons, List.length_append] at hFuel
          have hRest :=
            readItems_render next more fuel level rest
              hMore.1 hMore.2 (by omega) (by omega)
          simp only [renderItems, List.cons_append, List.append_assoc]
          rw [skipBlanks_of_isGap (by decide)]
          simp only
          rw [hRest]
          rfl
termination_by fuel

/- The members of an object are read back up to its end. -/
theorem readMembers_render
    (key : String) (j : Json) (more : List (String × Json))
    (fuel level : Nat) (rest : List Char)
    (hPlain : isPlain j = true)
    (hMore : membersArePlain more = true)
    (hLevel : level + max (depth j) (depthMembers more) ≤ maxLevel)
    (hFuel : 2 * ((render j).length + (renderMembers more).length) ≤ fuel + 1) :
    readMembers fuel level
        (quote key ++ ':' :: (render j ++ (renderMembers more ++ rest))) =
      some (((key, j) :: more).map fun m => (some m.1, m.2), rest) := by
  have hLength := render_length_pos hPlain
  have hTail := renderMembers_length_pos more
  cases fuel with
  | zero => omega
  | succ fuel =>
      have hValue :=
        readValue_render j fuel level (renderMembers more ++ rest)
          hPlain (by omega) (by omega) (endsNumeral_renderMembers more rest)
      rw [readMembers, quote, List.cons_append, skipBlanks_of_isGap (by decide)]
      simp only
      rw [List.append_assoc, List.singleton_append, readString_quote]
      simp only
      rw [skipBlanks_of_isGap (by decide)]
      simp only
      rw [hValue]
      cases more with
      | nil => rfl
      | cons m more =>
          rcases m with ⟨nextKey, next⟩
          simp only [membersArePlain, Bool.and_eq_true] at hMore
          simp only [depthMembers] at hLevel
          simp only [renderMembers, List.length_cons,
            List.length_append] at hFuel
          have hRest :=
            readMembers_render nextKey next more fuel level rest
              hMore.1 hMore.2 (by omega) (by omega)
          simp only [renderMembers, List.cons_append, List.append_assoc]
          rw [skipBlanks_of_isGap (by decide)]
          simp only
          rw [hRest]
          rfl
termination_by fuel

end

/- The text of a plain value is the text of no other value. -/
theorem read?_toText
    {j : Json}
    (hPlain : isPlain j = true)
    (hDepth : depth j ≤ maxLevel) :
    read? j.toText = some j := by
  have hRead : readFirst? (render j) = some (j, []) := by
    have hValue :=
      readValue_render j (readBound (render j)) 0 []
        hPlain (by omega) (by rw [readBound]; omega) rfl
    rw [List.append_nil] at hValue
    exact hValue
  rw [read?, toText, String.toList_ofList, readChars?, hRead]
  rfl

end Json

end ProcessEvents
