import Mathlib.Data.List.DropRight
import ProcessEvents.Text

/-
  This file collects what is used of texts that are cut at
  their ends, or into the parts between separators.

  Key definitions include:
    * `Text.IsTrimmed`

  Key theorems include:
    * `Text.exists_dropped`
    * `Text.dropEndWhile_append`
    * `Text.isTrimmed_iff_eq_trim`
    * `Text.stripPrefix?_eq_some_iff`
    * `Text.intercalate_parts`
    * `Text.notMem_of_mem_parts`
    * `Text.parts_flatMap`
-/

namespace ProcessEvents

namespace Text

variable {p : Char → Bool} {cs : List Char}

------------------------------------------------------------
-- Characters at the end
------------------------------------------------------------

/- What is dropped stands behind the last character that is kept. -/
theorem exists_dropped
    (p : Char → Bool) (cs : List Char) :
    ∃ dropped,
      cs = dropEndWhile p cs ++ dropped ∧
        (∀ c ∈ dropped, p c = true) ∧
        ∀ c, (dropEndWhile p cs).getLast? = some c → p c = false := by
  refine ⟨cs.rtakeWhile p, List.rdropWhile_append_rtakeWhile.symm, ?_, ?_⟩
  · exact fun c hMem => List.mem_rtakeWhile_imp hMem
  · intro c hLast
    have hSome : cs.rdropWhile p ≠ [] := by
      intro hNone
      change (cs.rdropWhile p).getLast? = some c at hLast
      rw [hNone] at hLast
      cases hLast
    have hSame : (cs.rdropWhile p).getLast hSome = c :=
      Option.some.inj ((List.getLast?_eq_some_getLast hSome).symm.trans hLast)
    rw [← hSame]
    exact Bool.eq_false_iff.mpr (List.rdropWhile_last_not p cs hSome)

/- Without characters to drop at its end, a text is kept. -/
theorem dropEndWhile_eq_self
    (hLast : ∀ c, cs.getLast? = some c → p c = false) :
    dropEndWhile p cs = cs := by
  apply List.rdropWhile_eq_self_iff.mpr
  intro hSome
  rw [hLast _ (List.getLast?_eq_some_getLast hSome)]
  exact Bool.false_ne_true

/- Dropped characters are not seen. -/
theorem dropEndWhile_append
    {dropped : List Char}
    (hDropped : ∀ c ∈ dropped, p c = true) :
    dropEndWhile p (cs ++ dropped) = dropEndWhile p cs := by
  have hReverse : ∀ c ∈ dropped.reverse, p c = true :=
    fun c hMem => hDropped c (List.mem_reverse.mp hMem)
  rw [dropEndWhile, List.reverse_append, List.dropWhile_append_of_pos hReverse]
  rfl

------------------------------------------------------------
-- White space
------------------------------------------------------------

/- What is left of a text without the white space around it. -/
def IsTrimmed
    (cs trimmed : List Char) : Prop :=
  (∃ before after, cs = before ++ (trimmed ++ after) ∧
      (∀ c ∈ before, isWhiteSpace c = true) ∧
        ∀ c ∈ after, isWhiteSpace c = true) ∧
    (∀ c, trimmed.head? = some c → isWhiteSpace c = false) ∧
    ∀ c, trimmed.getLast? = some c → isWhiteSpace c = false

theorem isTrimmed_trim
    (cs : List Char) :
    IsTrimmed cs (trim cs) := by
  rcases exists_dropped isWhiteSpace (cs.dropWhile isWhiteSpace) with
    ⟨after, hSplit, hAfter, hLast⟩
  refine ⟨⟨cs.takeWhile isWhiteSpace, after, ?_, ?_, hAfter⟩, ?_, hLast⟩
  · rw [trim, ← hSplit, List.takeWhile_append_dropWhile]
  · exact fun c hMem => List.mem_takeWhile_imp hMem
  · intro c hHead
    -- what stands in front of the kept text stands in front of all
    have hFirst : (cs.dropWhile isWhiteSpace).head? = some c := by
      rw [hSplit, List.head?_append]
      rw [trim] at hHead
      rw [hHead]
      rfl
    have hNot := List.head?_dropWhile_not isWhiteSpace cs
    rw [hFirst] at hNot
    exact hNot

/- There is one way only to cut white space. -/
theorem isTrimmed_iff_eq_trim
    {trimmed : List Char} :
    IsTrimmed cs trimmed ↔ trimmed = trim cs := by
  constructor
  · rintro ⟨⟨before, after, rfl, hBefore, hAfter⟩, hHead, hLast⟩
    rw [trim, List.dropWhile_append_of_pos hBefore]
    cases trimmed with
    | nil =>
        have hNone : after.dropWhile isWhiteSpace = [] :=
          List.dropWhile_eq_nil_iff.mpr hAfter
        rw [List.nil_append, hNone]
        rfl
    | cons c trimmed =>
        have hFirst : ¬ isWhiteSpace c = true :=
          Bool.eq_false_iff.mp (hHead c rfl)
        rw [List.cons_append, List.dropWhile_cons_of_neg hFirst,
          ← List.cons_append, dropEndWhile_append hAfter,
          dropEndWhile_eq_self hLast]
  · rintro rfl
    exact isTrimmed_trim cs

/- White space is cut up to what begins and ends with other characters. -/
theorem isTrimmed_append
    {middle : List Char} {first last : Char}
    (hHead : middle.head? = some first)
    (hFirst : isWhiteSpace first = false)
    (hEnd : middle.getLast? = some last)
    (hLast : isWhiteSpace last = false)
    (front back : List Char) :
    IsTrimmed (front ++ (middle ++ back))
      (front.dropWhile isWhiteSpace ++
        (middle ++ dropEndWhile isWhiteSpace back)) := by
  rcases exists_dropped isWhiteSpace back with ⟨after, hSplit, hAfter, hBack⟩
  refine ⟨⟨front.takeWhile isWhiteSpace, after, ?_, ?_, hAfter⟩, ?_, ?_⟩
  · rw [List.append_assoc, List.append_assoc, ← hSplit,
      ← List.append_assoc (front.takeWhile isWhiteSpace),
      List.takeWhile_append_dropWhile]
  · exact fun c hMem => List.mem_takeWhile_imp hMem
  · intro c hHere
    have hNot := List.head?_dropWhile_not isWhiteSpace front
    rw [List.head?_append, List.head?_append, hHead] at hHere
    cases hFront : (front.dropWhile isWhiteSpace).head? with
    | none =>
        rw [hFront] at hHere
        cases hHere
        exact hFirst
    | some d =>
        rw [hFront] at hHere hNot
        cases hHere
        exact hNot
  · intro c hHere
    rw [List.getLast?_append, List.getLast?_append, hEnd] at hHere
    cases hKept : (dropEndWhile isWhiteSpace back).getLast? with
    | none =>
        rw [hKept] at hHere
        cases hHere
        exact hLast
    | some d =>
        rw [hKept] at hHere
        exact hBack c (hKept.trans hHere)

------------------------------------------------------------
-- Starts
------------------------------------------------------------

theorem stripPrefix?_eq_some_iff
    {start rest : List Char} :
    stripPrefix? start cs = some rest ↔ cs = start ++ rest := by
  induction start generalizing cs with
  | nil =>
      rw [stripPrefix?, Option.some.injEq, List.nil_append]
  | cons s start ih =>
      cases cs with
      | nil =>
          constructor
          · intro hNone
            cases hNone
          · intro hEmpty
            cases hEmpty
      | cons c cs =>
          rw [stripPrefix?]
          by_cases hSame : s = c
          · rw [if_pos hSame, ih, hSame, List.cons_append,
              List.cons.injEq, and_iff_right rfl]
          · rw [if_neg hSame, List.cons_append, List.cons.injEq]
            exact ⟨fun hNone => (by cases hNone),
              fun hBoth => absurd hBoth.1.symm hSame⟩

------------------------------------------------------------
-- Parts
------------------------------------------------------------

/- The parts with the separators between them are the text. -/
theorem intercalate_parts
    (separator : Char) (cs : List Char) :
    [separator].intercalate (parts separator cs) = cs := by
  induction cs with
  | nil => rfl
  | cons c rest ih =>
      rw [parts]
      cases hParts : parts separator rest with
      | nil => exact absurd hParts (parts_ne_nil separator rest)
      | cons part more =>
          rw [hParts] at ih
          by_cases hSeparator : c = separator
          · rw [if_pos hSeparator, List.intercalate_cons_cons, ih, hSeparator]
            rfl
          · rw [if_neg hSeparator]
            cases more with
            | nil => rw [← ih, List.intercalate_singleton,
                  List.intercalate_singleton]
            | cons next more =>
                rw [← ih, List.intercalate_cons_cons,
                  List.intercalate_cons_cons]
                rfl

/- No separator is left in a part. -/
theorem notMem_of_mem_parts
    {separator : Char} {cs part : List Char}
    (hPart : part ∈ parts separator cs) :
    separator ∉ part := by
  induction cs generalizing part with
  | nil =>
      rw [parts, List.mem_singleton] at hPart
      rw [hPart]
      exact List.not_mem_nil
  | cons c rest ih =>
      rw [parts] at hPart
      by_cases hSeparator : c = separator
      · rw [if_pos hSeparator, List.mem_cons] at hPart
        rcases hPart with rfl | hRest
        · exact List.not_mem_nil
        · exact ih hRest
      · rw [if_neg hSeparator] at hPart
        cases hParts : parts separator rest with
        | nil => exact absurd hParts (parts_ne_nil separator rest)
        | cons first more =>
            rw [hParts] at hPart ih
            rcases List.mem_cons.mp hPart with rfl | hMore
            · rw [List.mem_cons, not_or]
              exact ⟨Ne.symm hSeparator, ih List.mem_cons_self⟩
            · exact ih (List.mem_cons_of_mem first hMore)

/- A text without separators is its only part. -/
theorem parts_of_notMem
    {separator : Char}
    (hNone : separator ∉ cs) :
    parts separator cs = [cs] := by
  induction cs with
  | nil => rfl
  | cons c rest ih =>
      rw [List.mem_cons, not_or] at hNone
      rw [parts, if_neg (Ne.symm hNone.1), ih hNone.2]

/- What stands in front of a separator is the first part. -/
theorem parts_append_separator
    {separator : Char} {part : List Char}
    (hNone : separator ∉ part)
    (rest : List Char) :
    parts separator (part ++ separator :: rest) =
      part :: parts separator rest := by
  induction part with
  | nil => rw [List.nil_append, parts, if_pos rfl]
  | cons c part ih =>
      rw [List.mem_cons, not_or] at hNone
      rw [List.cons_append, parts, if_neg (Ne.symm hNone.1), ih hNone.2]

/- Texts that each follow a separator are the parts behind an empty one. -/
theorem parts_flatMap
    {separator : Char} {texts : List (List Char)}
    (hNone : ∀ text ∈ texts, separator ∉ text) :
    parts separator (texts.flatMap fun text => separator :: text) =
      [] :: texts := by
  have hBehind : ∀ first, separator ∉ first →
      parts separator (first ++ texts.flatMap fun text => separator :: text) =
        first :: texts := by
    induction texts with
    | nil =>
        intro first hFirst
        rw [List.flatMap_nil, List.append_nil, parts_of_notMem hFirst]
    | cons text texts ih =>
        intro first hFirst
        rw [List.forall_mem_cons] at hNone
        rw [List.flatMap_cons, List.cons_append, parts_append_separator hFirst,
          ih hNone.2 text hNone.1]
  exact hBehind [] List.not_mem_nil

end Text

end ProcessEvents
