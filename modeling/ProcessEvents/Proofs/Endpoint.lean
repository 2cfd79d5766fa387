import ProcessEvents.Proofs.Percent
import ProcessEvents.Proofs.Text
import ProcessEvents.Url.Endpoint

/-
  The address of a resource keeps all of its base but for the
  end of the path, where the segments are found again. None of
  them breaks out of its place, whatever characters it has,
  so that different segments never make the same address.

  Of the path of the base, an empty segment at the end is
  given up. If there are two, and nothing else, then both are:
  what is left of such a path cannot be told from a bare root.

  Key definitions include:
    * `Url.IsName`
    * `Url.names`
    * `Url.IsRooted`
    * `Url.DecodesTo`
    * `Url.Continues`

  Key theorems include:
    * `Url.decode_plainDots`
    * `Url.appendSegment_of_isName`
    * `Url.namesOf_foldl_appendSegment`
    * `Url.IsRooted.of_parse`
    * `Url.endpoint_continues_iff`
-/

namespace ProcessEvents

namespace Url

------------------------------------------------------------
-- Dots
------------------------------------------------------------

theorem plainDots_cons_of_ne
    {c : Char}
    (hChar : c ≠ '%')
    (rest : List Char) :
    plainDots (c :: rest) = c :: plainDots rest := by
  rw [plainDots]
  · intro _ hPercent
    exact absurd hPercent hChar
  · intro _ hPercent
    exact absurd hPercent hChar

/- A percent sign is kept unless the code of a dot follows it. -/
theorem plainDots_percent
    {rest : List Char}
    (hRest : ∀ b more, rest = '2' :: b :: more → b ≠ 'e' ∧ b ≠ 'E') :
    plainDots ('%' :: rest) = '%' :: plainDots rest := by
  rw [plainDots]
  · rintro more - rfl
    exact (hRest 'e' more rfl).1 rfl
  · rintro more - rfl
    exact (hRest 'E' more rfl).2 rfl

/- The first character is kept, unless a dot takes its place. -/
theorem exists_plainDots_cons
    (c : Char) (rest : List Char) :
    ∃ d more, plainDots (c :: rest) = d :: more ∧ (d = c ∨ d = '.') := by
  unfold plainDots
  split
  · exact ⟨_, _, rfl, Or.inr rfl⟩
  · exact ⟨_, _, rfl, Or.inr rfl⟩
  · rename_i d more _ _ hSame
    rw [List.cons.injEq] at hSame
    exact ⟨d, _, rfl, Or.inl hSame.1.symm⟩
  · rename_i hSame
    cases hSame

/- A percent sign is no digit. -/
theorem ne_percent_of_digit
    {c : Char} {n : Nat}
    (hDigit : Hex.value? c = some n) :
    c ≠ '%' := by
  rintro rfl
  cases hDigit

/- A dot is no digit, so that no digit takes the place of another character. -/
theorem value?_of_plainDots_cons
    {c d : Char} {rest more : List Char}
    (hPlain : plainDots (c :: rest) = d :: more)
    (hDigit : Hex.value? c = none) :
    Hex.value? d = none := by
  rcases exists_plainDots_cons c rest with ⟨d', more', hSame, hKept⟩
  rw [hSame] at hPlain
  cases hPlain
  rcases hKept with rfl | rfl
  · exact hDigit
  · rfl

theorem isUndigited_plainDots
    {cs : List Char}
    (hText : Percent.IsUndigited cs) :
    Percent.IsUndigited (plainDots cs) := by
  match cs with
  | [] => exact nofun
  | [c] =>
      have hSame : plainDots [c] = [c] := by
        rw [plainDots, plainDots] <;> exact nofun
      rw [hSame]
      exact nofun
  | a :: b :: rest =>
      intro x y more hPlain
      cases hHigh : Hex.value? a with
      | none => exact Or.inl (value?_of_plainDots_cons hPlain hHigh)
      | some high =>
          have hLow : Hex.value? b = none :=
            (hText a b rest rfl).resolve_left (by simp [hHigh])
          rw [plainDots_cons_of_ne (ne_percent_of_digit hHigh),
            List.cons.injEq] at hPlain
          exact Or.inr (value?_of_plainDots_cons hPlain.2 hLow)

/-
  A percent sign that stands for itself is neither read nor
  written as a dot.
-/
theorem decode_plainDots_percent
    {rest : List Char}
    (hRest : Percent.IsUndigited rest)
    (hSame : Percent.decode (plainDots rest) = Percent.decode rest) :
    Percent.decode (plainDots ('%' :: rest)) =
      Percent.decode ('%' :: rest) := by
  have hKept : ∀ b more, rest = '2' :: b :: more → b ≠ 'e' ∧ b ≠ 'E' := by
    rintro b more rfl
    constructor
    · rintro rfl
      cases (hRest _ _ more rfl).resolve_left nofun
    · rintro rfl
      cases (hRest _ _ more rfl).resolve_left nofun
  rw [plainDots_percent hKept, Percent.decode_percent_of_isUndigited hRest,
    Percent.decode_percent_of_isUndigited (isUndigited_plainDots hRest), hSame]

/- Dots that are written plainly are decoded to the same bytes. -/
theorem decode_plainDots
    (cs : List Char) :
    Percent.decode (plainDots cs) = Percent.decode cs := by
  induction cs using Percent.decode.induct with
  | case1 a b rest high low hLow hHigh ih =>
      rw [Percent.decode_percent_of_digits hHigh hLow]
      by_cases hDot : a = '2' ∧ (b = 'e' ∨ b = 'E')
      · rcases hDot with ⟨rfl, rfl | rfl⟩
        · cases hHigh
          cases hLow
          rw [plainDots, Percent.decode_cons_of_ne (by decide), ih]
          rfl
        · cases hHigh
          cases hLow
          rw [plainDots, Percent.decode_cons_of_ne (by decide), ih]
          rfl
      · have hKept : ∀ b' more, a :: b :: rest = '2' :: b' :: more →
            b' ≠ 'e' ∧ b' ≠ 'E' := by
          rintro b' more hSame
          cases hSame
          exact ⟨fun hE => hDot ⟨rfl, Or.inl hE⟩,
            fun hE => hDot ⟨rfl, Or.inr hE⟩⟩
        rw [plainDots_percent hKept,
          plainDots_cons_of_ne (ne_percent_of_digit hHigh),
          plainDots_cons_of_ne (ne_percent_of_digit hLow),
          Percent.decode_percent_of_digits hHigh hLow, ih]
  | case2 a b rest hDigits ih =>
      refine decode_plainDots_percent ?_ ih
      rintro _ _ _ ⟨⟩
      cases hHigh : Hex.value? a with
      | none => exact Or.inl rfl
      | some high =>
          refine Or.inr
            (Option.eq_none_iff_forall_ne_some.mpr fun low hLow => ?_)
          exact hDigits high low hHigh hLow
  | case3 c rest hOther ih =>
      by_cases hPercent : c = '%'
      · rw [hPercent]
        exact decode_plainDots_percent
          (fun a b more hRest => (hOther a b more hPercent hRest).elim) ih
      · rw [plainDots_cons_of_ne hPercent, Percent.decode_cons_of_ne hPercent,
          Percent.decode_cons_of_ne hPercent, ih]
  | case4 => rfl

------------------------------------------------------------
-- Encoded segments
------------------------------------------------------------

section

variable {escaped : Char → Bool} {cs : List Char}

/- A segment that is encoded is made of dots only if it has been before. -/
theorem eq_dots_of_plainDots_encode
    (hPercent : escaped '%' = true)
    {dots : List Char}
    (hDots : ∀ c ∈ dots, c = '.')
    (hPlain : plainDots (Percent.encode escaped cs) = dots) :
    cs = dots := by
  have hDecode : Percent.decode dots = Utf8.encode dots := by
    clear hPlain
    induction dots with
    | nil => rw [Percent.decode]; rfl
    | cons c dots ih =>
        rw [List.forall_mem_cons] at hDots
        rw [hDots.1, Percent.decode_cons_of_ne (by decide), ih hDots.2]
        rfl
  apply Utf8.encode_injective
  rw [← hDecode, ← hPlain, decode_plainDots, Percent.decode_encodeText hPercent]

theorem slash_notMem_encode
    (hNone : '/' ∉ cs ∨ escaped '/' = true) :
    '/' ∉ Percent.encode escaped cs := by
  have hDigit : ∀ n < 16, '/' ≠ Hex.upperDigit n := by decide
  intro hMem
  rcases Percent.mem_encode hMem with
    ⟨hBefore, hPlain⟩ | hSign | ⟨n, hBound, hSame⟩
  · rcases hNone with hNone | hEscaped
    · exact hNone hBefore
    · rw [hEscaped] at hPlain
      cases hPlain
  · cases hSign
  · exact hDigit n hBound hSame

end

/-
  A text that can stand as a segment of its own. It neither is
  empty nor points to another place, and no character of it
  is left out.
-/
structure IsName
    (segment : String) : Prop where
  not_empty : segment ≠ ""
  not_dot : segment ≠ "."
  not_dots : segment ≠ ".."
  unbroken : ∀ c ∈ segment.toList, c ≠ '\t' ∧ c ≠ '\n' ∧ c ≠ '\r'

instance
    (segment : String) :
    Decidable (IsName segment) :=
  decidable_of_iff
    (segment ≠ "" ∧ segment ≠ "." ∧ segment ≠ ".." ∧
      segment.toList.all fun c => c ≠ '\t' ∧ c ≠ '\n' ∧ c ≠ '\r')
    ⟨fun h => ⟨h.1, h.2.1, h.2.2.1, by simpa using h.2.2.2⟩,
      fun h => ⟨h.not_empty, h.not_dot, h.not_dots, by simpa using h.unbroken⟩⟩

/- How a segment stands in a path. -/
def written
    (kind : SchemeKind)
    (segment : String) : String :=
  encoded (inSegmentSet kind) segment.toList

section

variable {kind : SchemeKind} {segment : String}

theorem inSegmentSet_percent
    (kind : SchemeKind) :
    inSegmentSet kind '%' = true := by
  cases kind <;> rfl

theorem inSegmentSet_slash
    (kind : SchemeKind) :
    inSegmentSet kind '/' = true := by
  cases kind <;> rfl

theorem decodeText?_written
    (kind : SchemeKind) (segment : String) :
    Percent.decodeText? (written kind segment).toList =
      some segment.toList := by
  rw [written, encoded, String.toList_ofList,
    Percent.decodeText?_encode (inSegmentSet_percent kind)]

theorem slash_notMem_written
    (kind : SchemeKind) (segment : String) :
    '/' ∉ (written kind segment).toList := by
  rw [written, encoded, String.toList_ofList]
  exact slash_notMem_encode (Or.inr (inSegmentSet_slash kind))

theorem IsName.written_ne_empty
    (hName : IsName segment) :
    written kind segment ≠ "" := by
  intro hEmpty
  rw [written, encoded, String.ofList_eq_empty_iff, Percent.encode_eq_nil_iff,
    String.toList_eq_nil_iff] at hEmpty
  exact hName.not_empty hEmpty

/- A name is not resolved, however its dots are written. -/
theorem IsName.pushEncoded_written
    (hName : IsName segment)
    (hKind : kind ≠ .file)
    (parts : List String) :
    pushEncoded kind true parts (written kind segment) =
      parts ++ [written kind segment] := by
  have hPercent := inSegmentSet_percent kind
  have hDouble : isDoubleDot (written kind segment) = false := by
    rw [isDoubleDot, beq_eq_false_iff_ne, written,
      encoded, String.toList_ofList]
    intro hPlain
    apply hName.not_dots
    rw [← String.toList_inj,
      eq_dots_of_plainDots_encode hPercent (by simp) hPlain]
    rfl
  have hSingle : isSingleDot (written kind segment) = false := by
    rw [isSingleDot, beq_eq_false_iff_ne, written,
      encoded, String.toList_ofList]
    intro hPlain
    apply hName.not_dot
    rw [← String.toList_inj,
      eq_dots_of_plainDots_encode hPercent (by simp) hPlain]
    rfl
  have hKept :
      kept kind parts (written kind segment) = written kind segment := by
    rw [kept, startsAtDrive, beq_eq_false_iff_ne.mpr hKind]
    rfl
  rw [pushEncoded, hDouble, hSingle, hKept]
  rfl

end

------------------------------------------------------------
-- Names in a path
------------------------------------------------------------

/- The names among the segments of a path. A bare root has none. -/
def namesOf
    (parts : List String) : List String :=
  if parts = [""] then [] else parts

/- The names in a path, each of which follows a slash. -/
def names
    (u : Url) : List String :=
  namesOf (((Text.parts '/' u.path.toText.toList).drop 1).map String.ofList)

/- A path that begins with a slash, and its segments between the slashes. -/
structure IsRooted
    (parts : List String) : Prop where
  not_nil : parts ≠ []
  apart : ∀ part ∈ parts, '/' ∉ part.toList

section

variable {parts segments : List String} {u v : Url}

theorem parts_toText
    (hRooted : IsRooted parts) :
    Text.parts '/' (Path.segments false parts).toText.toList =
      [] :: parts.map String.toList := by
  have hText :
      (Path.segments false parts).toText.toList =
        (parts.map String.toList).flatMap fun text => '/' :: text := by
    rw [Path.toText, String.toList_append, String.toList_join,
      List.flatMap_map, List.flatMap_map]
    simp [String.toList_append]
  rw [hText, Text.parts_flatMap]
  rw [List.forall_mem_map]
  exact hRooted.apart

theorem names_of_isRooted
    (hRooted : IsRooted parts)
    (hPath : u.path = .segments false parts) :
    u.names = namesOf parts := by
  rw [names, hPath, parts_toText hRooted, List.drop_one,
    List.tail_cons, List.map_map]
  simp

/- A path is two slashes only if it has two empty segments. -/
theorem toText_eq_slashes_iff
    (hRooted : IsRooted parts) :
    (Path.segments false parts).toText = "//" ↔ parts = ["", ""] := by
  constructor
  · intro hText
    have hParts := parts_toText hRooted
    rw [hText] at hParts
    change [[], [], []] = [] :: parts.map String.toList at hParts
    rw [List.cons.injEq, and_iff_right rfl] at hParts
    have hTexts := congrArg (List.map String.ofList) hParts
    rw [List.map_map] at hTexts
    simpa using hTexts.symm
  · rintro rfl
    rfl

end

------------------------------------------------------------
-- Names that are added
------------------------------------------------------------

section

variable {kind : SchemeKind} {parts segments : List String} {segment : String}

theorem known_ne_file : SchemeKind.known ≠ .file :=
  nofun

/- Only files have drives: all other segments are encoded as a whole. -/
theorem pushSegment_of_ne_file
    (hKind : kind ≠ .file)
    (escaped : Char → Bool) (isLast : Bool) (parts : List String)
    (cs : List Char) :
    pushSegment kind escaped isLast parts cs =
      pushEncoded kind isLast parts (encoded escaped (withoutBreaks cs)) := by
  have hDrive :
      ((splitDrive? cs).filter fun _ => kind == .file && parts.isEmpty) =
        none := by
    simp [hKind]
  rw [pushSegment, hDrive]

/- A name stands behind the names that there are. -/
theorem appendSegment_of_isName
    (hName : IsName segment)
    (hKind : kind ≠ .file)
    (parts : List String) :
    appendSegment kind parts segment =
      namesOf parts ++ [written kind segment] := by
  have hUnbroken : withoutBreaks segment.toList = segment.toList := by
    apply List.filter_eq_self.mpr
    intro c hMem
    rcases hName.unbroken c hMem with ⟨hTab, hFeed, hReturn⟩
    simp [isBreak, hTab, hFeed, hReturn]
  have hFront : (if parts == [""] then [] else parts) = namesOf parts := by
    simp [namesOf]
  have hDots : ¬ (segment == "." || segment == "..") = true := by
    simp [hName.not_dot, hName.not_dots]
  rw [appendSegment, if_neg hDots, hFront, settled, if_neg hKind,
    pushSegment_of_ne_file hKind, hUnbroken]
  exact hName.pushEncoded_written hKind (namesOf parts)

/- After names that are added, the path has them behind its own. -/
theorem namesOf_foldl_appendSegment
    (hNames : ∀ s ∈ segments, IsName s)
    (hKind : kind ≠ .file)
    (parts : List String) :
    namesOf (segments.foldl (appendSegment kind) parts) =
      namesOf parts ++ segments.map (written kind) := by
  induction segments generalizing parts with
  | nil => rw [List.foldl_nil, List.map_nil, List.append_nil]
  | cons segment segments ih =>
      rw [List.forall_mem_cons] at hNames
      have hSome : namesOf parts ++ [written kind segment] ≠ [""] := by
        intro hSame
        have hLast := congrArg List.getLast? hSame
        rw [List.getLast?_append, List.getLast?_singleton] at hLast
        exact hNames.1.written_ne_empty (Option.some.inj hLast)
      rw [List.foldl_cons, ih hNames.2, appendSegment_of_isName hNames.1 hKind,
        namesOf, if_neg hSome, List.append_assoc]
      rfl

theorem IsRooted.appendSegment
    (hRooted : IsRooted parts)
    (hName : IsName segment)
    (hKind : kind ≠ .file) :
    IsRooted (appendSegment kind parts segment) := by
  rw [appendSegment_of_isName hName hKind]
  refine ⟨List.append_ne_nil_of_right_ne_nil _ (List.cons_ne_nil _ _), ?_⟩
  rw [List.forall_mem_append, List.forall_mem_singleton]
  refine ⟨fun part hMem => ?_, slash_notMem_written kind segment⟩
  rw [namesOf] at hMem
  split at hMem
  · cases hMem
  · exact hRooted.apart part hMem

theorem IsRooted.foldl_appendSegment
    (hRooted : IsRooted parts)
    (hNames : ∀ s ∈ segments, IsName s)
    (hKind : kind ≠ .file) :
    IsRooted (segments.foldl (Url.appendSegment kind) parts) := by
  induction segments generalizing parts with
  | nil => exact hRooted
  | cons segment segments ih =>
      rw [List.forall_mem_cons] at hNames
      exact ih (hRooted.appendSegment hNames.1 hKind) hNames.2

/- An empty segment at the end is given up, but not the only one. -/
theorem IsRooted.withoutEmptyLast
    (hRooted : IsRooted parts) :
    IsRooted (withoutEmptyLast parts) := by
  rw [Url.withoutEmptyLast]
  split
  · rename_i hSeveral
    rw [Bool.and_eq_true, decide_eq_true_iff] at hSeveral
    refine ⟨fun hNone => ?_, fun part hMem =>
      hRooted.apart part (List.dropLast_subset parts hMem)⟩
    have hLength := congrArg List.length hNone
    rw [List.length_dropLast, List.length_nil] at hLength
    omega
  · exact hRooted

/-
  It makes no difference whether the last segment is given up
  among the names or among the segments, but for two empty
  segments, of which a bare root is left.
-/
theorem namesOf_withoutEmptyLast
    (parts : List String) :
    namesOf (withoutEmptyLast parts) =
      if parts = ["", ""] then [] else withoutEmptyLast (namesOf parts) := by
  by_cases hRoot : parts = [""]
  · rw [hRoot]
    rfl
  · by_cases hSlashes : parts = ["", ""]
    · rw [hSlashes]
      rfl
    · have hLeft : withoutEmptyLast parts ≠ [""] := by
        rw [withoutEmptyLast]
        split
        · rename_i hSeveral
          rw [Bool.and_eq_true, beq_iff_eq] at hSeveral
          intro hSame
          apply hSlashes
          rw [← List.dropLast_append_getLast? "" hSeveral.2, hSame]
          rfl
        · exact hRoot
      rw [if_neg hSlashes, namesOf, if_neg hLeft, namesOf, if_neg hRoot]

end

------------------------------------------------------------
-- Paths that are read
------------------------------------------------------------

section

variable {parts : List String} {u : Url}

/- No segment that is read has a slash. -/
theorem pushSegment_apart
    {cs : List Char}
    (hParts : ∀ part ∈ parts, '/' ∉ part.toList)
    (hNone : '/' ∉ cs)
    (isLast : Bool) :
    ∀ part ∈ pushSegment .known inPathSet isLast parts cs,
      '/' ∉ part.toList := by
  have hEnding : ∀ part ∈ (if isLast then [""] else []), '/' ∉ part.toList := by
    cases isLast <;> decide
  rw [pushSegment_of_ne_file known_ne_file, pushEncoded]
  split
  · rw [List.forall_mem_append]
    refine ⟨fun part hMem => ?_, hEnding⟩
    unfold oneUp at hMem
    split at hMem
    · split at hMem
      · exact hParts part hMem
      · exact hParts part (List.dropLast_subset parts hMem)
    · cases hMem
  · split
    · exact List.forall_mem_append.mpr ⟨hParts, hEnding⟩
    · rw [List.forall_mem_append, List.forall_mem_singleton]
      refine ⟨hParts, ?_⟩
      have hBreaks : '/' ∉ withoutBreaks cs :=
        fun hMem => hNone (List.mem_filter.mp hMem).1
      change '/' ∉ (encoded inPathSet (withoutBreaks cs)).toList
      rw [encoded, String.toList_ofList]
      exact slash_notMem_encode (Or.inl hBreaks)

/- The last segment is there even if it is made of dots. -/
theorem pushSegment_ne_nil
    (parts : List String) (cs : List Char) :
    pushSegment .known inPathSet true parts cs ≠ [] := by
  rw [pushSegment_of_ne_file known_ne_file, pushEncoded]
  split
  · exact List.append_ne_nil_of_right_ne_nil _ (List.cons_ne_nil _ _)
  · split
    · exact List.append_ne_nil_of_right_ne_nil _ (List.cons_ne_nil _ _)
    · exact List.append_ne_nil_of_right_ne_nil _ (List.cons_ne_nil _ _)

theorem pushSegments_isRooted
    {texts : List (List Char)}
    (hTexts : texts ≠ [])
    (hNone : ∀ text ∈ texts, '/' ∉ text)
    (hParts : ∀ part ∈ parts, '/' ∉ part.toList)
    (atDrive : Bool) :
    IsRooted (pushSegments .known atDrive parts texts).2 := by
  induction texts generalizing parts atDrive with
  | nil => exact absurd rfl hTexts
  | cons text texts ih =>
      rw [List.forall_mem_cons] at hNone
      rw [pushSegments]
      cases texts with
      | nil =>
          exact ⟨pushSegment_ne_nil _ _, pushSegment_apart hParts hNone.1 true⟩
      | cons next texts =>
          exact ih (List.cons_ne_nil _ _) hNone.2
            (pushSegment_apart hParts hNone.1 _) _

theorem readSegments_isRooted
    (cs : List Char) :
    IsRooted (readSegments .known cs) := by
  have hRooted :
      ∀ cs, IsRooted (pushSegments .known false [] (Text.parts '/' cs)).2 :=
    fun cs =>
      pushSegments_isRooted (Text.parts_ne_nil '/' cs)
        (fun _ => Text.notMem_of_mem_parts)
        (List.forall_mem_nil _) false
  exact hRooted _

/-
  Behind an authority, the path begins with a slash even if
  it is not written.
-/
theorem exists_pathAfterAuthority
    (cs : List Char) :
    ∃ parts, pathAfterAuthority .known cs = .segments false parts ∧
      IsRooted parts := by
  unfold pathAfterAuthority
  split
  · exact ⟨_, rfl, by decide, by decide⟩
  · split
    · exact ⟨_, rfl, readSegments_isRooted _⟩
    · exact ⟨_, rfl, readSegments_isRooted _⟩

end

section

variable {base scheme : String} {kind : SchemeKind} {cs : List Char} {u : Url}

/- A URL with an authority has the path that follows it. -/
theorem of_readRest
    (hRead : readRest scheme kind cs = .ok u) :
    u.scheme = scheme ∧ ∃ path, u.path = pathAfterAuthority kind path := by
  unfold readRest at hRead
  cases hAuthority : readAuthority scheme kind cs with
  | error fault =>
      rw [hAuthority] at hRead
      cases hRead
  | ok authority =>
      rw [hAuthority] at hRead
      cases hRead
      exact ⟨rfl, _, rfl⟩

theorem scheme_of_readFile
    (hRead : readFile cs = .ok u) :
    u.scheme = "file" := by
  unfold readFile at hRead
  split at hRead
  · cases hRead
    rfl
  · split at hRead
    · cases hRead
      rfl
    · rename_i two _
      cases hHost : readFileHost two with
      | error fault =>
          rw [hHost] at hRead
          cases hRead
      | ok host =>
          rw [hHost] at hRead
          cases hRead
          rfl

/- The path of a URL whose scheme is known is rooted. -/
theorem IsRooted.of_parse
    (hParse : parse base = .ok u)
    (hKnown : SchemeKind.ofName u.scheme = .known) :
    ∃ parts, u.path = .segments false parts ∧ IsRooted parts := by
  unfold parse at hParse
  dsimp only at hParse
  split at hParse
  · cases hParse
  · split at hParse
    · rw [scheme_of_readFile hParse] at hKnown
      exact absurd hKnown (by decide)
    · rcases of_readRest hParse with ⟨-, path, hPath⟩
      rcases exists_pathAfterAuthority path with ⟨parts, hParts, hRooted⟩
      exact ⟨parts, hPath.trans hParts, hRooted⟩
    · rename_i hOther _
      rw [(of_readRest hParse).1, hOther] at hKnown
      cases hKnown
    · rename_i hOther _ _
      cases hParse
      change SchemeKind.ofName _ = .known at hKnown
      rw [hOther] at hKnown
      cases hKnown

end

------------------------------------------------------------
-- Addresses
------------------------------------------------------------

/- Names that are decoded one by one to segments. -/
def DecodesTo
    (added segments : List String) : Prop :=
  added.map (fun name => Percent.decodeText? name.toList) =
    segments.map fun segment => some segment.toList

/-
  A URL continues another one with segments. It has the names
  of the other one, without an empty one at the end, and then
  names that are decoded to the segments.
-/
def Continues
    (u v : Url)
    (segments : List String) : Prop :=
  ∃ added, v.names = withoutEmptyLast u.names ++ added ∧
    DecodesTo added segments

section

variable {base : String} {segments others added : List String} {u v : Url}

theorem decodesTo_written
    (kind : SchemeKind) (segments : List String) :
    DecodesTo (segments.map (written kind)) segments := by
  rw [DecodesTo, List.map_map]
  exact List.map_congr_left fun segment _ => decodeText?_written kind segment

/- Names are decoded to nothing but their own segments. -/
theorem DecodesTo.unique
    (hSegments : DecodesTo added segments)
    (hOthers : DecodesTo added others) :
    others = segments := by
  rw [DecodesTo] at hSegments hOthers
  rw [hSegments] at hOthers
  apply List.map_injective_iff.mpr ?_ hOthers.symm
  intro s t hSame
  exact String.toList_inj.mp (Option.some.inj hSame)

/-
  URLs that differ in their paths alone have the same names
  if they have the same text.
-/
theorem names_of_toText
    {path path' : Path}
    (hText : toText { u with path := path' } = toText { u with path }) :
    names { u with path := path' } = names { u with path } := by
  rw [toText, toText, String.append_left_inj, String.append_right_inj, target,
    target, String.append_left_inj] at hText
  rw [names, names, hText]

/-
  The address of segments is the base with their names behind
  its own. Of two slashes, no name is left.
-/
theorem endpoint_of_parse
    (hParse : parse base = .ok u)
    (hKnown : SchemeKind.ofName u.scheme = .known)
    (hNames : ∀ s ∈ segments, IsName s) :
    ∃ path v,
      endpoint base segments = .ok v ∧
        v = { u with path } ∧
        v.names =
          (if u.path.toText = "//" then [] else withoutEmptyLast u.names) ++
            segments.map (written .known) := by
  rcases IsRooted.of_parse hParse hKnown with ⟨parts, hPath, hRooted⟩
  have hEndpoint :
      endpoint base segments =
        .ok { u with
          path := .segments false
            (segments.foldl
              (appendSegment .known) (withoutEmptyLast parts)) } := by
    change (parse base >>= fun u => u.append segments) = _
    rw [hParse]
    change u.append segments = _
    rw [append, hPath, hKnown]
  refine ⟨_, _, hEndpoint, rfl, ?_⟩
  have hAppended :=
    hRooted.withoutEmptyLast.foldl_appendSegment hNames known_ne_file
  rw [names_of_isRooted hAppended rfl,
    namesOf_foldl_appendSegment hNames known_ne_file, namesOf_withoutEmptyLast,
    names_of_isRooted hRooted hPath, hPath]
  simp only [toText_eq_slashes_iff hRooted]

/-
  Segments that are appended to an address over HTTP stand at
  the end of its path, and nothing else of it changes. They
  are decoded to what they have been, so that other segments
  make another address. In front of them are the names of the
  base, without an empty one at the end; a path of two slashes
  alone loses the other empty name too.
-/
theorem endpoint_continues_iff
    (hParse : parse base = .ok u)
    (hScheme : u.scheme = "http" ∨ u.scheme = "https")
    (hNames : ∀ s ∈ segments, IsName s) :
    ∃ v,
      endpoint base segments = .ok v ∧
        v.scheme = u.scheme ∧ v.authority = u.authority ∧
        v.query = u.query ∧ v.fragment = u.fragment ∧
        (∃ kept added,
          v.names = kept ++ added ∧ DecodesTo added segments ∧
            kept =
              if u.path.toText = "//" then [] else withoutEmptyLast u.names) ∧
        (Continues u v segments ↔ u.path.toText ≠ "//") ∧
        ∀ others w,
          (∀ s ∈ others, IsName s) →
            endpoint base others = .ok w →
              w.toText = v.toText → others = segments := by
  have hKnown : SchemeKind.ofName u.scheme = .known := by
    rcases hScheme with hHttp | hHttps
    · rw [hHttp]
      decide
    · rw [hHttps]
      decide
  rcases endpoint_of_parse hParse hKnown hNames with
    ⟨path, v, hEndpoint, rfl, hAdded⟩
  have hDecodes := decodesTo_written .known segments
  refine ⟨_, hEndpoint, rfl, rfl, rfl, rfl,
    ⟨_, _, hAdded, hDecodes, rfl⟩, ?_, ?_⟩
  · constructor
    · rintro ⟨added, hContinued, -⟩ hSlashes
      have hTwo : u.names = ["", ""] := by
        rw [names, hSlashes]
        rfl
      rw [hAdded, if_pos hSlashes, List.nil_append, hTwo] at hContinued
      change segments.map (written .known) = "" :: added at hContinued
      rcases List.map_eq_cons_iff.mp hContinued with
        ⟨segment, _, rfl, hEmpty, -⟩
      exact (hNames segment List.mem_cons_self).written_ne_empty hEmpty
    · intro hPath
      rw [if_neg hPath] at hAdded
      exact ⟨_, hAdded, hDecodes⟩
  · intro others w hOthers hOther hText
    rcases endpoint_of_parse hParse hKnown hOthers with
      ⟨path', w', hEndpoint', rfl, hAdded'⟩
    rw [hEndpoint'] at hOther
    cases hOther
    have hSame := names_of_toText hText
    rw [hAdded, hAdded', List.append_cancel_left_eq] at hSame
    exact hDecodes.unique (hSame ▸ decodesTo_written .known others)

end

/- An address whose path ends in a slash. -/
def slashedUrl : Url :=
  { scheme := "http"
    authority := some { host := .ipv6 [0, 0, 0, 0, 0, 0, 0, 1] }
    path := .segments false ["api", ""] }

/- Texts that would lead to other places if they were not encoded. -/
def strayingSegments : List String :=
  ["../b", "%2e%2E", "\\ü?#"]

theorem endpoint_continues_iff_straying :
    parse "http://[::1]/api/" = .ok slashedUrl ∧
      (∀ s ∈ strayingSegments, IsName s) ∧
      ∃ v,
        endpoint "http://[::1]/api/" strayingSegments = .ok v ∧
          Continues slashedUrl v strayingSegments := by
  have hNames : ∀ s ∈ strayingSegments, IsName s := by decide
  have hParse : parse "http://[::1]/api/" = .ok slashedUrl := rfl
  rcases endpoint_continues_iff hParse (Or.inl rfl) hNames with
    ⟨v, hEndpoint, -, -, -, -, -, hContinues, -⟩
  exact ⟨hParse, hNames, v, hEndpoint, hContinues.mpr (by decide)⟩

example :
    (endpoint "http://[::1]/api/" strayingSegments).map toText =
      .ok "http://[::1]/api/..%2Fb/%252e%252E/%5C%C3%BC%3F%23" := by
  rfl

/-
  Of a path of two slashes, no empty name is left in front
  of what is appended.
-/
theorem endpoint_drops_name :
    ∃ u v,
      parse "http://[::1]//" = .ok u ∧
        u.scheme = "http" ∧
        IsName "a" ∧
        endpoint "http://[::1]//" ["a"] = .ok v ∧
        v.toText = "http://[::1]/a" ∧
        ¬ Continues u v ["a"] := by
  refine ⟨_, _, rfl, rfl, by decide, rfl, rfl, ?_⟩
  rintro ⟨added, hNames, -⟩
  change ["a"] = "" :: added at hNames
  exact absurd (List.cons.inj hNames).1 (by decide)

end Url

end ProcessEvents
