import Mathlib.Data.List.DropRight
import ProcessEvents.Proofs.Json.RoundTrip

/-
  The reader bounds its recursion by the length of the text.
  This file states what it reads as a grammar without such a
  bound, and proves that the bound is never reached: a text
  is read exactly as the grammar derives it.

  Key definitions include:
    * `Json.Spells`
    * `Json.Part`, `Json.Reads`

  Key theorems include:
    * `Json.readUnits_eq_some_iff`
    * `Json.Reads.length_lt`
    * `Json.readFirst?_eq_some_iff`
    * `Json.readChars?_eq_some_iff`
-/

namespace ProcessEvents

namespace Json

------------------------------------------------------------
-- Texts
------------------------------------------------------------

/- A text up to its closing quote, its units, and what follows. -/
inductive Spells : List Char → List TextUnit → List Char → Prop
  | close {rest : List Char} :
      Spells ('"' :: rest) [] rest
  | code {a b c d : Char} {n : Nat} {cs rest : List Char}
      {units : List TextUnit}
      (hCode : Hex.number? [a, b, c, d] = some n)
      (hMore : Spells cs units rest) :
      Spells ('\\' :: 'u' :: a :: b :: c :: d :: cs) (.code n :: units) rest
  | letter {e c : Char} {cs rest : List Char} {units : List TextUnit}
      (hChar : escapedChar? e = some c)
      (hMore : Spells cs units rest) :
      Spells ('\\' :: e :: cs) (.char c :: units) rest
  | char {c : Char} {cs rest : List Char} {units : List TextUnit}
      (hQuote : c ≠ '"')
      (hBackslash : c ≠ '\\')
      (hControl : ¬ c.toNat < 32)
      (hMore : Spells cs units rest) :
      Spells (c :: cs) (.char c :: units) rest

theorem readUnits_eq_some_iff
    {cs rest : List Char} {units : List TextUnit} :
    readUnits cs = some (units, rest) ↔ Spells cs units rest := by
  constructor
  · intro hRead
    fun_induction readUnits cs generalizing units rest with
    | case1 => cases hRead
    | case2 rest' =>
        cases hRead
        exact .close
    | case3 a b c d cs ih =>
        rcases Option.bind_eq_some_iff.mp hRead with ⟨n, hCode, hRest⟩
        rcases Option.bind_eq_some_iff.mp hRest with
          ⟨⟨more, after⟩, hMore, hSame⟩
        cases hSame
        exact .code hCode (ih hMore)
    | case4 e cs hOther ih =>
        rcases Option.bind_eq_some_iff.mp hRead with ⟨c, hChar, hRest⟩
        rcases Option.bind_eq_some_iff.mp hRest with
          ⟨⟨more, after⟩, hMore, hSame⟩
        cases hSame
        exact .letter hChar (ih hMore)
    | case5 c cs hQuote hCode hLetter ih =>
        rcases Option.bind_eq_some_iff.mp hRead with ⟨_, hGuard, hRest⟩
        rcases Option.bind_eq_some_iff.mp hRest with
          ⟨⟨more, after⟩, hMore, hSame⟩
        cases hSame
        cases hPlain : !isControl c && c != '\\' with
        | false =>
            rw [hPlain] at hGuard
            cases hGuard
        | true =>
            simp only [isControl, Bool.and_eq_true, Bool.not_eq_true',
              decide_eq_false_iff_not, bne_iff_ne] at hPlain
            exact .char hQuote hPlain.2 hPlain.1 (ih hMore)
  · intro hSpells
    induction hSpells with
    | close => rw [readUnits]
    | code hCode _ ih =>
        rw [readUnits, hCode, ih]
        rfl
    | @letter e _ _ _ _ hChar _ ih =>
        have hLetter : e ≠ 'u' := by
          rintro rfl
          cases hChar
        rw [readUnits_letter hLetter hChar, ih]
        rfl
    | char hQuote hBackslash hControl _ ih =>
        rw [readUnits_char hQuote hBackslash hControl, ih]
        rfl

------------------------------------------------------------
-- Derivations
------------------------------------------------------------

/-
  What is read at once: a value, or what is left of an array
  or of an object.
-/
inductive Part where
  | value (j : Json)
  | items (items : List Json)
  | members (members : List (Option String × Json))

/- The value of a text in quotes. -/
def ofString : Option String → Json
  | some s => .str s
  | none => .unreadable

/-
  What stands in front of a text on a level, and what follows
  it. Blanks may stand in front of every token.
-/
inductive Reads : Nat → List Char → Part → List Char → Prop
  | nullWord {level : Nat} {cs rest : List Char}
      (hHead : skipBlanks cs = 'n' :: 'u' :: 'l' :: 'l' :: rest) :
      Reads level cs (.value .null) rest
  | trueWord {level : Nat} {cs rest : List Char}
      (hHead : skipBlanks cs = 't' :: 'r' :: 'u' :: 'e' :: rest) :
      Reads level cs (.value (.bool true)) rest
  | falseWord {level : Nat} {cs rest : List Char}
      (hHead : skipBlanks cs = 'f' :: 'a' :: 'l' :: 's' :: 'e' :: rest) :
      Reads level cs (.value (.bool false)) rest
  | text {level : Nat} {cs after rest : List Char} {s : Option String}
      (hHead : skipBlanks cs = '"' :: after)
      (hText : readString after = some (s, rest)) :
      Reads level cs (.value (ofString s)) rest
  | number {level : Nat} {c : Char} {cs after rest : List Char} {n : Numeral}
      (hHead : skipBlanks cs = c :: after)
      (hBegins : c.isDigit = true ∨ c = '-')
      (hNumber : readNumeral (c :: after) = some (n, rest)) :
      Reads level cs (.value n.toJson) rest
  | emptyArray {level : Nat} {cs after rest : List Char}
      (hHead : skipBlanks cs = '[' :: after)
      (hEnd : skipBlanks after = ']' :: rest) :
      Reads level cs (.value (atLevel level (.arr []))) rest
  | array {level : Nat} {cs after rest : List Char} {items : List Json}
      (hHead : skipBlanks cs = '[' :: after)
      (hOpen : ∀ rest, skipBlanks after ≠ ']' :: rest)
      (hItems : Reads (level + 1) (skipBlanks after) (.items items) rest) :
      Reads level cs (.value (atLevel level (.arr items))) rest
  | emptyObject {level : Nat} {cs after rest : List Char}
      (hHead : skipBlanks cs = '{' :: after)
      (hEnd : skipBlanks after = '}' :: rest) :
      Reads level cs (.value (atLevel level (.obj []))) rest
  | object {level : Nat} {cs after rest : List Char}
      {members : List (Option String × Json)}
      (hHead : skipBlanks cs = '{' :: after)
      (hOpen : ∀ rest, skipBlanks after ≠ '}' :: rest)
      (hMembers :
        Reads (level + 1) (skipBlanks after) (.members members) rest) :
      Reads level cs (.value (atLevel level (ofMembers members))) rest
  | lastItem {level : Nat} {cs after rest : List Char} {j : Json}
      (hItem : Reads level cs (.value j) after)
      (hEnd : skipBlanks after = ']' :: rest) :
      Reads level cs (.items [j]) rest
  | item {level : Nat} {cs after next rest : List Char}
      {j : Json} {items : List Json}
      (hItem : Reads level cs (.value j) after)
      (hComma : skipBlanks after = ',' :: next)
      (hItems : Reads level next (.items items) rest) :
      Reads level cs (.items (j :: items)) rest
  | lastMember {level : Nat} {cs front middle back after rest : List Char}
      {key : Option String} {j : Json}
      (hHead : skipBlanks cs = '"' :: front)
      (hKey : readString front = some (key, middle))
      (hColon : skipBlanks middle = ':' :: back)
      (hValue : Reads level back (.value j) after)
      (hEnd : skipBlanks after = '}' :: rest) :
      Reads level cs (.members [(key, j)]) rest
  | member {level : Nat} {cs front middle back after next rest : List Char}
      {key : Option String} {j : Json} {members : List (Option String × Json)}
      (hHead : skipBlanks cs = '"' :: front)
      (hKey : readString front = some (key, middle))
      (hColon : skipBlanks middle = ':' :: back)
      (hValue : Reads level back (.value j) after)
      (hComma : skipBlanks after = ',' :: next)
      (hMembers : Reads level next (.members members) rest) :
      Reads level cs (.members ((key, j) :: members)) rest

------------------------------------------------------------
-- From the reader to the grammar
------------------------------------------------------------

/- A number begins with a digit or with its sign. -/
theorem readNumeral_head
    {cs : List Char} {r : Numeral × List Char}
    (hNumber : readNumeral cs = some r) :
    ∃ c after, cs = c :: after ∧ (c.isDigit = true ∨ c = '-') := by
  cases cs with
  | nil => cases hNumber
  | cons c after =>
      refine ⟨c, after, rfl, ?_⟩
      by_cases hSign : c = '-'
      · exact Or.inr hSign
      · left
        by_cases hZero : c = '0'
        · rw [hZero]
          rfl
        · cases hDigit : c.isDigit with
          | true => rfl
          | false =>
              have hNone : readWhole (c :: after) = none := by
                rw [readWhole]
                · rw [hDigit]
                  rfl
                · exact hZero
              have hUnsigned : ∀ rest, c :: after ≠ '-' :: rest :=
                fun rest hSame => hSign (List.cons.inj hSame).1
              rw [readNumeral] at hNumber
              · simp [hNone] at hNumber
              · exact hUnsigned

/- What is read with some fuel is derived. -/
def Derives
    (fuel : Nat) : Prop :=
  (∀ level cs j rest,
      readValue fuel level cs = some (j, rest) →
        Reads level cs (.value j) rest) ∧
    (∀ level cs items rest,
      readItems fuel level cs = some (items, rest) →
        Reads level cs (.items items) rest) ∧
    ∀ level cs members rest,
      readMembers fuel level cs = some (members, rest) →
        Reads level cs (.members members) rest

section

variable {fuel level : Nat} {cs rest : List Char}

theorem reads_of_readValue
    {j : Json}
    (hBelow : Derives fuel)
    (hRead : readValue (fuel + 1) level cs = some (j, rest)) :
    Reads level cs (.value j) rest := by
  rw [readValue] at hRead
  split at hRead
  case h_1 after hHead =>
    cases hRead
    exact .nullWord hHead
  case h_2 after hHead =>
    cases hRead
    exact .trueWord hHead
  case h_3 after hHead =>
    cases hRead
    exact .falseWord hHead
  case h_4 after hHead =>
    rcases Option.map_eq_some_iff.mp hRead with ⟨⟨s, after'⟩, hText, hSame⟩
    cases hSame
    exact .text hHead hText
  case h_5 after hHead =>
    split at hRead
    case h_1 after' hEnd =>
      cases hRead
      exact .emptyArray hHead hEnd
    case h_2 hOpen =>
      rcases Option.map_eq_some_iff.mp hRead with
        ⟨⟨items, after'⟩, hItems, hSame⟩
      cases hSame
      exact .array hHead hOpen (hBelow.2.1 _ _ _ _ hItems)
  case h_6 after hHead =>
    split at hRead
    case h_1 after' hEnd =>
      cases hRead
      exact .emptyObject hHead hEnd
    case h_2 hOpen =>
      rcases Option.map_eq_some_iff.mp hRead with
        ⟨⟨members, after'⟩, hMembers, hSame⟩
      cases hSame
      exact .object hHead hOpen (hBelow.2.2 _ _ _ _ hMembers)
  case h_7 =>
    rcases Option.map_eq_some_iff.mp hRead with ⟨⟨n, after'⟩, hNumber, hSame⟩
    cases hSame
    rcases readNumeral_head hNumber with ⟨c, after, hHead, hBegins⟩
    rw [hHead] at hNumber
    exact .number hHead hBegins hNumber

theorem reads_of_readItems
    {items : List Json}
    (hBelow : Derives fuel)
    (hRead : readItems (fuel + 1) level cs = some (items, rest)) :
    Reads level cs (.items items) rest := by
  rw [readItems] at hRead
  split at hRead
  case h_1 => cases hRead
  case h_2 j after hItem =>
    have hFirst := hBelow.1 _ _ _ _ hItem
    split at hRead
    case h_1 after' hEnd =>
      cases hRead
      exact .lastItem hFirst hEnd
    case h_2 next hComma =>
      rcases Option.map_eq_some_iff.mp hRead with
        ⟨⟨more, after'⟩, hItems, hSame⟩
      cases hSame
      exact .item hFirst hComma (hBelow.2.1 _ _ _ _ hItems)
    case h_3 => cases hRead

theorem reads_of_readMembers
    {members : List (Option String × Json)}
    (hBelow : Derives fuel)
    (hRead : readMembers (fuel + 1) level cs = some (members, rest)) :
    Reads level cs (.members members) rest := by
  rw [readMembers] at hRead
  split at hRead
  case h_2 => cases hRead
  case h_1 front hHead =>
    split at hRead
    case h_1 => cases hRead
    case h_2 key middle hKey =>
      split at hRead
      case h_2 => cases hRead
      case h_1 back hColon =>
        split at hRead
        case h_1 => cases hRead
        case h_2 j after hValue =>
          have hFirst := hBelow.1 _ _ _ _ hValue
          split at hRead
          case h_1 after' hEnd =>
            cases hRead
            exact .lastMember hHead hKey hColon hFirst hEnd
          case h_2 next hComma =>
            rcases Option.map_eq_some_iff.mp hRead with
              ⟨⟨more, after'⟩, hMembers, hSame⟩
            cases hSame
            exact .member hHead hKey hColon hFirst hComma
              (hBelow.2.2 _ _ _ _ hMembers)
          case h_3 => cases hRead

end

theorem derives
    (fuel : Nat) :
    Derives fuel := by
  induction fuel with
  | zero =>
      refine ⟨?_, ?_, ?_⟩
      · intro level cs j rest hRead
        cases hRead
      · intro level cs items rest hRead
        cases hRead
      · intro level cs members rest hRead
        cases hRead
  | succ fuel ih =>
      exact ⟨fun _ _ _ _ => reads_of_readValue ih,
        fun _ _ _ _ => reads_of_readItems ih,
        fun _ _ _ _ => reads_of_readMembers ih⟩

------------------------------------------------------------
-- What a derivation uses up
------------------------------------------------------------

theorem skipBlanks_length_le
    (cs : List Char) :
    (skipBlanks cs).length ≤ cs.length :=
  (List.dropWhile_sublist isBlank).length_le

theorem length_lt_of_skipBlanks
    {c : Char} {cs after : List Char}
    (hHead : skipBlanks cs = c :: after) :
    after.length < cs.length := by
  have hSkip := skipBlanks_length_le cs
  rw [hHead, List.length_cons] at hSkip
  exact hSkip

theorem spells_length_lt
    {cs rest : List Char} {units : List TextUnit}
    (hSpells : Spells cs units rest) :
    rest.length < cs.length := by
  induction hSpells with
  | close => exact Nat.lt_succ_self _
  | code _ _ ih | letter _ _ ih | char _ _ _ _ ih =>
      simp only [List.length_cons]
      omega

theorem readString_length_lt
    {cs rest : List Char} {s : Option String}
    (hRead : readString cs = some (s, rest)) :
    rest.length < cs.length := by
  rcases Option.map_eq_some_iff.mp hRead with ⟨⟨units, after⟩, hUnits, hSame⟩
  cases hSame
  exact spells_length_lt (readUnits_eq_some_iff.mp hUnits)

theorem readDigits_eq
    (cs : List Char) :
    readDigits cs =
      if cs.takeWhile Char.isDigit = [] then none
      else some (cs.takeWhile Char.isDigit, cs.dropWhile Char.isDigit) := by
  rw [readDigits, List.span_eq_takeWhile_dropWhile]
  cases cs.takeWhile Char.isDigit <;> rfl

theorem readDigits_length_lt
    {cs ds rest : List Char}
    (hRead : readDigits cs = some (ds, rest)) :
    rest.length < cs.length := by
  rw [readDigits_eq] at hRead
  split at hRead
  case isTrue => cases hRead
  case isFalse hSome =>
    cases hRead
    have hPositive := List.length_pos_of_ne_nil hSome
    calc (cs.dropWhile Char.isDigit).length
        < (cs.takeWhile Char.isDigit).length +
          (cs.dropWhile Char.isDigit).length := by omega
      _ = cs.length := by
        rw [← List.length_append, List.takeWhile_append_dropWhile]

theorem readWhole_zero
    (cs : List Char) :
    readWhole ('0' :: cs) =
      if cs.takeWhile Char.isDigit = [] then some (['0'], cs) else none := by
  cases cs with
  | nil => rfl
  | cons c cs => cases hDigit : c.isDigit <;> simp [readWhole, hDigit]

theorem readWhole_other
    {cs : List Char}
    (hOther : ∀ rest, cs ≠ '0' :: rest) :
    readWhole cs = readDigits cs := by
  cases cs with
  | nil => rfl
  | cons c cs =>
      have hHead : c ≠ '0' := fun hSame => hOther cs (by rw [hSame])
      rw [readWhole, readDigits_eq, List.span_eq_takeWhile_dropWhile]
      · cases hDigit : c.isDigit <;> simp [hDigit]
      · exact hHead

theorem readWhole_length_lt
    {cs ds rest : List Char}
    (hRead : readWhole cs = some (ds, rest)) :
    rest.length < cs.length := by
  by_cases hZero : ∃ after, cs = '0' :: after
  · rcases hZero with ⟨after, rfl⟩
    rw [readWhole_zero] at hRead
    split at hRead
    case isFalse => cases hRead
    case isTrue =>
      cases hRead
      exact Nat.lt_succ_self _
  · rw [readWhole_other (not_exists.mp hZero)] at hRead
    exact readDigits_length_lt hRead

theorem readFraction_length_le
    {cs ds rest : List Char}
    (hRead : readFraction cs = some (ds, rest)) :
    rest.length ≤ cs.length := by
  unfold readFraction at hRead
  split at hRead
  · exact Nat.le_succ_of_le (readDigits_length_lt hRead).le
  · cases hRead
    exact Nat.le_refl _

/- The digits of an exponent, with the value that they have. -/
def readMarked
    (value : List Char → Int)
    (cs : List Char) : Option (Bool × Int × List Char) :=
  (readDigits cs).map fun r => (true, value r.1, r.2)

/- An exponent after its mark. -/
def readSigned : List Char → Option (Bool × Int × List Char)
  | '-' :: rest => readMarked (fun ds => -(digitsValue ds : Int)) rest
  | '+' :: rest => readMarked (fun ds => digitsValue ds) rest
  | rest => readMarked (fun ds => digitsValue ds) rest

theorem readExponent_marked
    {mark : Char}
    (hMark : mark = 'e' ∨ mark = 'E')
    (cs : List Char) :
    readExponent (mark :: cs) = readSigned cs := by
  rcases hMark with rfl | rfl <;> rfl

theorem readExponent_other
    {cs : List Char}
    (hSmall : ∀ rest, cs ≠ 'e' :: rest)
    (hLarge : ∀ rest, cs ≠ 'E' :: rest) :
    readExponent cs = some (false, 0, cs) := by
  unfold readExponent
  split
  · exact absurd rfl (hSmall _)
  · exact absurd rfl (hLarge _)
  · rfl

theorem readMarked_length_le
    {value : List Char → Int} {cs rest : List Char} {hasMark : Bool}
    {exponent : Int}
    (hRead : readMarked value cs = some (hasMark, exponent, rest)) :
    rest.length ≤ cs.length := by
  rcases Option.map_eq_some_iff.mp hRead with ⟨⟨ds, after⟩, hDigits, hSame⟩
  cases hSame
  exact (readDigits_length_lt hDigits).le

theorem readSigned_length_le
    {cs rest : List Char} {hasMark : Bool} {exponent : Int}
    (hRead : readSigned cs = some (hasMark, exponent, rest)) :
    rest.length ≤ cs.length := by
  unfold readSigned at hRead
  split at hRead
  · exact Nat.le_succ_of_le (readMarked_length_le hRead)
  · exact Nat.le_succ_of_le (readMarked_length_le hRead)
  · exact readMarked_length_le hRead

theorem readExponent_length_le
    {cs rest : List Char} {hasMark : Bool} {exponent : Int}
    (hRead : readExponent cs = some (hasMark, exponent, rest)) :
    rest.length ≤ cs.length := by
  by_cases hSmall : ∃ after, cs = 'e' :: after
  · rcases hSmall with ⟨after, rfl⟩
    rw [readExponent_marked (Or.inl rfl)] at hRead
    exact Nat.le_succ_of_le (readSigned_length_le hRead)
  by_cases hLarge : ∃ after, cs = 'E' :: after
  · rcases hLarge with ⟨after, rfl⟩
    rw [readExponent_marked (Or.inr rfl)] at hRead
    exact Nat.le_succ_of_le (readSigned_length_le hRead)
  · rw [readExponent_other (not_exists.mp hSmall) (not_exists.mp hLarge)]
      at hRead
    cases hRead
    exact Nat.le_refl _

/- The parts of a number after its sign. -/
def readParts
    (negative : Bool)
    (cs : List Char) : Option (Numeral × List Char) := do
  let (whole, cs) ← readWhole cs
  let (fraction, cs) ← readFraction cs
  let (marked, exponent, cs) ← readExponent cs
  return (
    ⟨negative, whole, fraction, exponent, marked || !fraction.isEmpty⟩, cs)

theorem readNumeral_minus
    (cs : List Char) :
    readNumeral ('-' :: cs) = readParts true cs :=
  rfl

theorem readNumeral_other
    {cs : List Char}
    (hOther : ∀ rest, cs ≠ '-' :: rest) :
    readNumeral cs = readParts false cs := by
  rw [readNumeral]
  · rfl
  · exact hOther

theorem readParts_eq_some_iff
    {negative : Bool} {cs rest : List Char} {n : Numeral} :
    readParts negative cs = some (n, rest) ↔
      ∃ whole fraction exponent hasMark, ∃ afterWhole afterFraction : List Char,
        readWhole cs = some (whole, afterWhole) ∧
          readFraction afterWhole = some (fraction, afterFraction) ∧
            readExponent afterFraction = some (hasMark, exponent, rest) ∧
              n = ⟨negative, whole, fraction,
                exponent, hasMark || !fraction.isEmpty⟩ := by
  constructor
  · intro hRead
    rcases Option.bind_eq_some_iff.mp hRead with
      ⟨⟨whole, afterWhole⟩, hWhole, hRead⟩
    rcases Option.bind_eq_some_iff.mp hRead with
      ⟨⟨fraction, afterFraction⟩, hFraction, hRead⟩
    rcases Option.bind_eq_some_iff.mp hRead with
      ⟨⟨hasMark, exponent, _⟩, hExponent, hRead⟩
    cases hRead
    exact ⟨_, _, _, _, _, _, hWhole, hFraction, hExponent, rfl⟩
  · rintro ⟨whole, fraction, exponent, hasMark,
      afterWhole, afterFraction, hWhole, hFraction,
      hExponent, rfl⟩
    rw [readParts, hWhole]
    change (readFraction afterWhole >>= _) = _
    rw [hFraction]
    change (readExponent afterFraction >>= _) = _
    rw [hExponent]
    rfl

theorem readParts_length_lt
    {negative : Bool} {cs rest : List Char} {n : Numeral}
    (hRead : readParts negative cs = some (n, rest)) :
    rest.length < cs.length := by
  rcases readParts_eq_some_iff.mp hRead with
    ⟨_, _, _, _, _, _, hWhole, hFraction, hExponent, -⟩
  have hAfterWhole := readWhole_length_lt hWhole
  have hAfterFraction := readFraction_length_le hFraction
  have hAfter := readExponent_length_le hExponent
  omega

theorem readNumeral_length_lt
    {cs rest : List Char} {n : Numeral}
    (hRead : readNumeral cs = some (n, rest)) :
    rest.length < cs.length := by
  by_cases hSign : ∃ after, cs = '-' :: after
  · rcases hSign with ⟨after, rfl⟩
    rw [readNumeral_minus] at hRead
    exact Nat.lt_succ_of_lt (readParts_length_lt hRead)
  · rw [readNumeral_other (not_exists.mp hSign)] at hRead
    exact readParts_length_lt hRead

/- Every part uses up a character at least. -/
theorem Reads.length_lt
    {level : Nat} {cs rest : List Char} {part : Part}
    (hReads : Reads level cs part rest) :
    rest.length < cs.length := by
  induction hReads with
  | nullWord hHead | trueWord hHead | falseWord hHead =>
      have hLess := length_lt_of_skipBlanks hHead
      simp only [List.length_cons] at hLess
      omega
  | text hHead hText =>
      exact Nat.lt_trans (readString_length_lt hText)
        (length_lt_of_skipBlanks hHead)
  | number hHead _ hNumber =>
      have hLess := readNumeral_length_lt hNumber
      rw [List.length_cons] at hLess
      exact Nat.lt_of_le_of_lt (Nat.le_of_lt_succ hLess)
        (length_lt_of_skipBlanks hHead)
  | emptyArray hHead hEnd | emptyObject hHead hEnd =>
      exact Nat.lt_trans (length_lt_of_skipBlanks hEnd)
        (length_lt_of_skipBlanks hHead)
  | array hHead _ _ ih | object hHead _ _ ih =>
      have hInside := Nat.lt_of_lt_of_le ih (skipBlanks_length_le _)
      exact Nat.lt_trans hInside (length_lt_of_skipBlanks hHead)
  | lastItem _ hEnd ih => exact Nat.lt_trans (length_lt_of_skipBlanks hEnd) ih
  | item _ hComma _ ih ihItems =>
      exact Nat.lt_trans ihItems
        (Nat.lt_trans (length_lt_of_skipBlanks hComma) ih)
  | lastMember hHead hKey hColon _ hEnd ih =>
      have hBefore :=
        Nat.lt_trans (readString_length_lt hKey) (length_lt_of_skipBlanks hHead)
      have hValue := Nat.lt_trans ih (length_lt_of_skipBlanks hColon)
      exact Nat.lt_trans (length_lt_of_skipBlanks hEnd)
        (Nat.lt_trans hValue hBefore)
  | member hHead hKey hColon _ hComma _ ih ihMembers =>
      have hBefore :=
        Nat.lt_trans (readString_length_lt hKey) (length_lt_of_skipBlanks hHead)
      have hValue := Nat.lt_trans ih (length_lt_of_skipBlanks hColon)
      have hNext := Nat.lt_trans ihMembers (length_lt_of_skipBlanks hComma)
      exact Nat.lt_trans hNext (Nat.lt_trans hValue hBefore)

------------------------------------------------------------
-- From the grammar to the reader
------------------------------------------------------------

/- The reader reads the part with any fuel that its text asks for. -/
def IsRead
    (level : Nat)
    (cs : List Char) : Part → List Char → Prop
  | .value j, rest =>
    ∀ fuel, 2 * cs.length + 1 ≤ fuel → readValue fuel level cs = some (j, rest)
  | .items items, rest =>
    ∀ fuel, 2 * cs.length + 2 ≤ fuel →
      readItems fuel level cs = some (items, rest)
  | .members members, rest =>
    ∀ fuel, 2 * cs.length + 2 ≤ fuel →
      readMembers fuel level cs = some (members, rest)

theorem readValue_skipBlanks
    (fuel level : Nat) (cs : List Char) :
    readValue (fuel + 1) level (skipBlanks cs) =
      readValue (fuel + 1) level cs := by
  have hSkip : skipBlanks (skipBlanks cs) = skipBlanks cs :=
    List.dropWhile_idempotent isBlank cs
  rw [readValue, readValue, hSkip]

theorem Reads.isRead
    {level : Nat} {cs rest : List Char} {part : Part}
    (hReads : Reads level cs part rest) :
    IsRead level cs part rest := by
  induction hReads with
  | nullWord hHead | trueWord hHead | falseWord hHead =>
      rintro (_ | fuel) hFuel
      · cases hFuel
      · rw [readValue, hHead]
        rfl
  | text hHead hText =>
      rintro (_ | fuel) hFuel
      · cases hFuel
      · rw [readValue, hHead]
        change (readString _).map _ = _
        rw [hText]
        rename_i s _
        cases s <;> rfl
  | number hHead hBegins hNumber =>
      rintro (_ | fuel) hFuel
      · cases hFuel
      · rw [← readValue_skipBlanks, hHead, readValue_of_numeral hBegins,
          hNumber]
        rfl
  | emptyArray hHead hEnd | emptyObject hHead hEnd =>
      rintro (_ | fuel) hFuel
      · cases hFuel
      · rw [readValue, hHead]
        simp only [hEnd]
  | @array _ cs after _ _ hHead hOpen _ ih =>
      rintro (_ | fuel) hFuel
      · cases hFuel
      · have hLess := length_lt_of_skipBlanks hHead
        have hSkip := skipBlanks_length_le after
        rw [readValue, hHead]
        simp only
        rw [ih fuel (by omega)]
        rfl
  | @object _ cs after _ _ hHead hOpen _ ih =>
      rintro (_ | fuel) hFuel
      · cases hFuel
      · have hLess := length_lt_of_skipBlanks hHead
        have hSkip := skipBlanks_length_le after
        rw [readValue, hHead]
        simp only
        rw [ih fuel (by omega)]
        rfl
  | lastItem _ hEnd ih =>
      rintro (_ | fuel) hFuel
      · cases hFuel
      · rw [readItems, ih fuel (by omega)]
        simp only [hEnd]
  | @item _ cs after next _ _ _ hItem hComma _ ih ihItems =>
      rintro (_ | fuel) hFuel
      · cases hFuel
      · have hLess := hItem.length_lt
        have hNext := length_lt_of_skipBlanks hComma
        rw [readItems, ih fuel (by omega)]
        simp only [hComma]
        rw [ihItems fuel (by omega)]
        rfl
  | @lastMember _ cs front middle back _ _ _ _ hHead hKey hColon _ hEnd ih =>
      rintro (_ | fuel) hFuel
      · cases hFuel
      · have hFront := length_lt_of_skipBlanks hHead
        have hMiddle := readString_length_lt hKey
        have hBack := length_lt_of_skipBlanks hColon
        rw [readMembers, hHead]
        simp only [hKey, hColon]
        rw [ih fuel (by omega)]
        simp only [hEnd]
  | @member _ cs front middle back after next _
      _ _ _ hHead hKey hColon hValue hComma _ ih
      ihMembers =>
      rintro (_ | fuel) hFuel
      · cases hFuel
      · have hFront := length_lt_of_skipBlanks hHead
        have hMiddle := readString_length_lt hKey
        have hBack := length_lt_of_skipBlanks hColon
        have hAfter := hValue.length_lt
        have hNext := length_lt_of_skipBlanks hComma
        rw [readMembers, hHead]
        simp only [hKey, hColon]
        rw [ih fuel (by omega)]
        simp only [hComma]
        rw [ihMembers fuel (by omega)]
        rfl

/- The first value of a text is the one that is derived. -/
theorem readFirst?_eq_some_iff
    {cs rest : List Char} {j : Json} :
    readFirst? cs = some (j, rest) ↔ Reads 0 cs (.value j) rest := by
  constructor
  · exact (derives (readBound cs)).1 0 cs j rest
  · intro hReads
    exact hReads.isRead (readBound cs) (Nat.le_succ _)

/-
  A text has a value exactly if it is derived, with nothing
  but blanks behind it.
-/
theorem readChars?_eq_some_iff
    {cs : List Char} {j : Json} :
    readChars? cs = some j ↔
      ∃ rest, Reads 0 cs (.value j) rest ∧ skipBlanks rest = [] := by
  rw [readChars?]
  constructor
  · intro hRead
    split at hRead
    case h_2 => cases hRead
    case h_1 j' rest hFirst =>
      split at hRead
      case isFalse => cases hRead
      case isTrue hBlank =>
        cases hRead
        exact ⟨rest, readFirst?_eq_some_iff.mp hFirst,
          List.isEmpty_iff.mp hBlank⟩
  · rintro ⟨rest, hReads, hBlank⟩
    rw [readFirst?_eq_some_iff.mpr hReads]
    simp only [hBlank, List.isEmpty_nil, if_true]

end Json

end ProcessEvents
