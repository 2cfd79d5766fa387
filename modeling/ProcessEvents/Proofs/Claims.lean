import ProcessEvents.Claims
import ProcessEvents.Proofs.Base64Url
import ProcessEvents.Proofs.Json.Gaps
import ProcessEvents.Proofs.Json.Inverse
import ProcessEvents.Proofs.Text
import ProcessEvents.Proofs.Utf8

/-
  This file proves which tokens have claims, and which ones:
  those whose payload is the encoding of a JSON text for the
  claims, whatever stands in front and behind.

  Key definitions include:
    * `Claims.IsUnprefixed`
    * `Claims.IsSecondPart`
    * `Claims.HasPayload`
    * `Claims.AreRead`

  Key theorems include:
    * `Claims.payload?_eq_some_iff`
    * `Claims.ofText?_of_fits`
    * `Claims.parse_eq_ok_iff`
    * `Claims.hasPayload_tokenOf`
-/

namespace ProcessEvents

namespace Claims

------------------------------------------------------------
-- The parts of a token
------------------------------------------------------------

/- A token without the word in front, in one of its spellings. -/
inductive IsUnprefixed (token : List Char) : List Char → Prop
  | upper {rest : List Char} (hToken : token = "Bearer ".toList ++ rest) :
      IsUnprefixed token rest
  | lower {rest : List Char} (hToken : token = "bearer ".toList ++ rest) :
      IsUnprefixed token rest
  | bare
      (hUpper : ∀ rest, token ≠ "Bearer ".toList ++ rest)
      (hLower : ∀ rest, token ≠ "bearer ".toList ++ rest) :
      IsUnprefixed token token

/- What stands between the first dot and the second one, or the end. -/
def IsSecondPart
    (cs part : List Char) : Prop :=
  '.' ∉ part ∧
    ∃ first more, '.' ∉ first ∧ cs = first ++ '.' :: (part ++ more) ∧
      (more = [] ∨ ∃ rest, more = '.' :: rest)

/- What is left without the equals signs at the end. -/
def IsUnpadded
    (cs unpadded : List Char) : Prop :=
  (∃ count, cs = unpadded ++ List.replicate count '=') ∧
    unpadded.getLast? ≠ some '='

/- The payload of a token. -/
def HasPayload
    (token payload : List Char) : Prop :=
  ∃ rest bare part,
    IsUnprefixed token rest ∧ Text.IsTrimmed rest bare ∧
      IsSecondPart bare part ∧
      IsUnpadded part payload

theorem isUnprefixed_iff
    {token rest : List Char} :
    IsUnprefixed token rest ↔
      rest = (schemes.findSome? (Text.stripPrefix? · token)).getD token := by
  rw [schemes, List.findSome?_cons, List.findSome?_cons, List.findSome?_nil]
  cases hUpper : Text.stripPrefix? "Bearer ".toList token with
  | some after =>
      have hToken := Text.stripPrefix?_eq_some_iff.mp hUpper
      constructor
      · rintro (hSame | hSame | hNone)
        · rw [hToken] at hSame
          exact (List.append_cancel_left hSame).symm
        · rw [hToken] at hSame
          cases hSame
        · exact absurd hToken (hNone after)
      · rintro rfl
        exact .upper hToken
  | none =>
      have hNotUpper : ∀ after, token ≠ "Bearer ".toList ++ after := by
        intro after hToken
        rw [Text.stripPrefix?_eq_some_iff.mpr hToken] at hUpper
        cases hUpper
      cases hLower : Text.stripPrefix? "bearer ".toList token with
      | some after =>
          have hToken := Text.stripPrefix?_eq_some_iff.mp hLower
          constructor
          · rintro (hSame | hSame | ⟨-, hNone⟩)
            · exact absurd hSame (hNotUpper rest)
            · rw [hToken] at hSame
              exact (List.append_cancel_left hSame).symm
            · exact absurd hToken (hNone after)
          · rintro rfl
            exact .lower hToken
      | none =>
          have hNotLower : ∀ after, token ≠ "bearer ".toList ++ after := by
            intro after hToken
            rw [Text.stripPrefix?_eq_some_iff.mpr hToken] at hLower
            cases hLower
          constructor
          · rintro (hSame | hSame | -)
            · exact absurd hSame (hNotUpper rest)
            · exact absurd hSame (hNotLower rest)
            · rfl
          · rintro rfl
            exact .bare hNotUpper hNotLower

theorem isSecondPart_iff
    {cs part : List Char} :
    IsSecondPart cs part ↔
      ∃ rest, cs.dropWhile (· ≠ '.') = '.' :: rest ∧
        part = rest.takeWhile (· ≠ '.') := by
  have hOther :
      ∀ {xs : List Char}, '.' ∉ xs → ∀ c ∈ xs, decide (c ≠ '.') = true := by
    intro xs hNone c hMem
    refine decide_eq_true ?_
    rintro rfl
    exact hNone hMem
  have hNone : ∀ xs : List Char, '.' ∉ xs.takeWhile (· ≠ '.') := by
    intro xs hMem
    have hOther := List.mem_takeWhile_imp hMem
    simp at hOther
  constructor
  · rintro ⟨hPart, first, more, hFirst, rfl, hMore⟩
    refine ⟨part ++ more, ?_, ?_⟩
    · rw [List.dropWhile_append_of_pos (hOther hFirst)]
      rfl
    · rw [List.takeWhile_append_of_pos (hOther hPart)]
      rcases hMore with rfl | ⟨rest, rfl⟩
      · rw [List.takeWhile_nil, List.append_nil]
      · rw [List.takeWhile_cons_of_neg (by simp), List.append_nil]
  · rintro ⟨rest, hDot, rfl⟩
    refine ⟨hNone rest, cs.takeWhile (· ≠ '.'),
      rest.dropWhile (· ≠ '.'), hNone cs, ?_, ?_⟩
    · rw [List.takeWhile_append_dropWhile, ← hDot,
        List.takeWhile_append_dropWhile]
    · cases hMore : rest.dropWhile (· ≠ '.') with
      | nil => exact Or.inl rfl
      | cons c more =>
          have hNot :=
            List.head?_dropWhile_not (fun c : Char => decide (c ≠ '.')) rest
          rw [hMore] at hNot
          have hSame : c = '.' := by simpa using hNot
          exact Or.inr ⟨more, by rw [hSame]⟩

theorem isUnpadded_iff
    {cs unpadded : List Char} :
    IsUnpadded cs unpadded ↔ unpadded = Text.dropEndWhile (· == '=') cs := by
  constructor
  · rintro ⟨⟨count, rfl⟩, hLast⟩
    have hKept : ∀ c, unpadded.getLast? = some c → (c == '=') = false := by
      intro c hHere
      refine beq_eq_false_iff_ne.mpr ?_
      rintro rfl
      exact hLast hHere
    rw [Text.dropEndWhile_append fun c hMem =>
      beq_iff_eq.mpr (List.eq_of_mem_replicate hMem),
      Text.dropEndWhile_eq_self hKept]
  · rintro rfl
    rcases Text.exists_dropped (· == '=') cs with
      ⟨dropped, hSplit, hDropped, hLast⟩
    have hSame : dropped = List.replicate dropped.length '=' :=
      List.eq_replicate_of_mem fun c hMem => beq_iff_eq.mp (hDropped c hMem)
    refine ⟨⟨dropped.length, ?_⟩, fun hEnd => ?_⟩
    · rw [← hSame]
      exact hSplit
    · cases hLast '=' hEnd

/- The payload that is read is the one that the token has. -/
theorem payload?_eq_some_iff
    {token : String} {payload : List Char} :
    payload? token = some payload ↔ HasPayload token.toList payload := by
  have hParts : HasPayload token.toList payload ↔
      ∃ rest, (bareToken token.toList).dropWhile (· ≠ '.') = '.' :: rest ∧
        payload = Text.dropEndWhile (· == '=') (rest.takeWhile (· ≠ '.')) := by
    simp only [HasPayload, isUnprefixed_iff, Text.isTrimmed_iff_eq_trim,
      isSecondPart_iff, isUnpadded_iff]
    constructor
    · rintro ⟨_, _, _, rfl, rfl, ⟨rest, hDot, rfl⟩, rfl⟩
      exact ⟨rest, hDot, rfl⟩
    · rintro ⟨rest, hDot, rfl⟩
      exact ⟨_, _, _, rfl, rfl, ⟨rest, hDot, rfl⟩, rfl⟩
  rw [hParts, payload?]
  cases hDot : (bareToken token.toList).dropWhile (· ≠ '.') with
  | nil => simp
  | cons c rest =>
      have hNot := List.head?_dropWhile_not (fun c : Char => decide (c ≠ '.'))
        (bareToken token.toList)
      rw [hDot] at hNot
      have hSame : c = '.' := by simpa using hNot
      subst hSame
      simp [eq_comm]

------------------------------------------------------------
-- Bytes of claims
------------------------------------------------------------

/-
  The text of bytes, with two unpaired surrogate escapes in
  place of every gap. Such escapes stand for no character, so
  that a gap is read only within texts that are skipped.
-/
def maskedText
    (bytes : List UInt8) : String :=
  String.ofList (Json.maskGaps false (Utf8.units bytes))

/- The bytes are a JSON text for the claims. -/
def AreRead
    (bytes : List UInt8)
    (claims : Claims) : Prop :=
  codec.ofText? (maskedText bytes) = some claims

/- Without gaps, nothing is masked. -/
theorem maskGaps_some
    (escaped : Bool) (cs : List Char) :
    Json.maskGaps escaped (cs.map some) = cs := by
  induction cs generalizing escaped with
  | nil => rfl
  | cons c cs ih => rw [List.map_cons, Json.maskGaps, ih]

theorem maskedText_encode
    (text : String) :
    maskedText (Utf8.encode text.toList) = text := by
  rw [maskedText, Utf8.units_encode, maskGaps_some, String.ofList_toList]

/- The bytes of a text are read as the text is. -/
theorem areRead_encode_iff
    {text : String} {claims : Claims} :
    AreRead (Utf8.encode text.toList) claims ↔
      codec.ofText? text = some claims := by
  rw [AreRead, maskedText_encode]

theorem areRead_iff
    {bytes : List UInt8} {claims : Claims} :
    AreRead bytes claims ↔
      (Json.readBytes? bytes).bind codec.decode = some claims := by
  rw [AreRead, Codec.ofText?, Json.read?, maskedText, String.toList_ofList]
  rfl

theorem isMonotone :
    codec.IsMonotone := by
  have hRoles : rolesCodec.IsMonotone := .record (.field _ _ (.list .string))
  exact .record (.pair (.field _ _ .string) (.field _ _ hRoles))

/- Characters beyond ASCII in the gaps change nothing. -/
theorem ofText?_of_fits
    {bytes : List UInt8} {claims : Claims} {filled : List Char}
    (hRead : AreRead bytes claims)
    (hFits : List.Forall₂ Json.Fits (Utf8.units bytes) filled) :
    codec.ofText? (String.ofList filled) = some claims := by
  rcases Option.bind_eq_some_iff.mp (areRead_iff.mp hRead) with
    ⟨j, hBytes, hDecode⟩
  rcases Json.readBytes?_of_fits hBytes hFits with ⟨j', hText, hSame⟩
  rw [Codec.ofText?, Json.read?, String.toList_ofList, hText]
  exact isMonotone j j' claims hSame hDecode

theorem fits_decodeLossy
    (bytes : List UInt8) :
    List.Forall₂ Json.Fits (Utf8.units bytes) (Utf8.decodeLossy bytes) := by
  rw [Utf8.decodeLossy, List.forall₂_map_right_iff, List.forall₂_same]
  intro unit _
  cases unit with
  | none => exact .gap (by decide)
  | some c => exact .char c

/-
  A token has claims exactly if its payload encodes bytes
  that are read as them.
-/
theorem parse_eq_ok_iff
    {token : String} {claims : Claims} :
    parse token = .ok claims ↔
      ∃ bytes, HasPayload token.toList (Base64Url.encode bytes) ∧
        AreRead bytes claims := by
  simp only [← payload?_eq_some_iff, areRead_iff]
  rw [parse]
  cases payload? token with
  | none => simp
  | some payload =>
      simp only [Option.some.injEq, ← Base64Url.decode_eq_ok_iff]
      cases Base64Url.decode payload with
      | error fault => simp
      | ok bytes =>
          simp only [Except.ok.injEq, exists_eq_left']
          cases (Json.readBytes? bytes).bind codec.decode with
          | none => simp
          | some read => simp

------------------------------------------------------------
-- Tokens that are put together
------------------------------------------------------------

/- A token of its parts, with equals signs behind the payload. -/
def tokenOf
    (scheme header : String)
    (bytes : List UInt8)
    (padding : Nat)
    (signature : String) : String :=
  scheme ++ header ++ "." ++
    String.ofList (Base64Url.encode bytes ++ List.replicate padding '=') ++
      "." ++ signature

variable {header tail : List Char}

/- The word in front may be part of a header, but holds no dot. -/
theorem exists_unprefixed_of_word
    {word rest : List Char}
    (hWord : '.' ∉ word)
    (hHeader : '.' ∉ header)
    (hSame : header ++ '.' :: tail = word ++ rest) :
    ∃ header', '.' ∉ header' ∧ rest = header' ++ '.' :: tail := by
  rcases List.append_eq_append_iff.mp hSame with
    ⟨more, rfl, hRest⟩ | ⟨more, rfl, hRest⟩
  · cases more with
    | nil => exact ⟨[], List.not_mem_nil, hRest.symm⟩
    | cons c more =>
        rw [List.cons_append, List.cons.injEq] at hRest
        rw [← hRest.1] at hWord
        exact absurd (List.mem_append_right _ List.mem_cons_self) hWord
  · exact ⟨more, fun hMem => hHeader (List.mem_append_right _ hMem), hRest⟩

theorem exists_unprefixed
    {scheme : String}
    (hScheme : scheme ∈ ["", "Bearer ", "bearer "])
    (hHeader : '.' ∉ header) :
    ∃ header', '.' ∉ header' ∧
      IsUnprefixed (scheme.toList ++ (header ++ '.' :: tail))
        (header' ++ '.' :: tail) := by
  simp only [List.mem_cons, List.not_mem_nil, or_false] at hScheme
  rcases hScheme with rfl | rfl | rfl
  · change ∃ header', _ ∧ IsUnprefixed (header ++ '.' :: tail) _
    by_cases hUpper : ∃ rest, header ++ '.' :: tail = "Bearer ".toList ++ rest
    · rcases hUpper with ⟨rest, hToken⟩
      rcases exists_unprefixed_of_word (by decide) hHeader hToken with
        ⟨header', hNone, rfl⟩
      exact ⟨header', hNone, .upper hToken⟩
    · by_cases hLower : ∃ rest, header ++ '.' :: tail = "bearer ".toList ++ rest
      · rcases hLower with ⟨rest, hToken⟩
        rcases exists_unprefixed_of_word (by decide) hHeader hToken with
          ⟨header', hNone, rfl⟩
        exact ⟨header', hNone, .lower hToken⟩
      · exact ⟨header, hHeader,
          .bare (not_exists.mp hUpper) (not_exists.mp hLower)⟩
  · exact ⟨header, hHeader, .upper rfl⟩
  · exact ⟨header, hHeader, .lower rfl⟩

/- White space is cut from the header and from the signature only. -/
theorem exists_trimmed
    (hHeader : '.' ∉ header)
    (part signature : List Char) :
    ∃ header' signature', '.' ∉ header' ∧
      Text.IsTrimmed (header ++ '.' :: (part ++ '.' :: signature))
        (header' ++ '.' :: (part ++ '.' :: signature')) := by
  have hHead : ('.' :: (part ++ ['.'])).head? = some '.' := rfl
  have hEnd : ('.' :: (part ++ ['.'])).getLast? = some '.' := by
    rw [← List.cons_append, List.getLast?_concat]
  have hTrimmed :=
    Text.isTrimmed_append hHead (by decide) hEnd (by decide) header signature
  simp only [List.cons_append, List.append_assoc, List.nil_append] at hTrimmed
  exact ⟨_, _, fun hMem => hHeader ((List.dropWhile_sublist _).subset hMem),
    hTrimmed⟩

/- The payload of a token stands between its dots, whatever is around them. -/
theorem hasPayload_tokenOf
    {scheme header : String}
    (hScheme : scheme ∈ ["", "Bearer ", "bearer "])
    (hHeader : '.' ∉ header.toList)
    (bytes : List UInt8) (padding : Nat) (signature : String) :
    HasPayload (tokenOf scheme header bytes padding signature).toList
      (Base64Url.encode bytes) := by
  have hSymbols :
      ∀ c ∈ Base64Url.encode bytes, (Base64Url.value? c).isSome = true :=
    (Base64Url.exists_encode_iff.mp ⟨bytes, rfl⟩).alphabet
  have hUnpadded :
      IsUnpadded (Base64Url.encode bytes ++ List.replicate padding '=')
        (Base64Url.encode bytes) := by
    refine ⟨⟨padding, rfl⟩, fun hLast => ?_⟩
    exact absurd (hSymbols '=' (List.mem_of_getLast? hLast)) (by decide)
  have hPart : '.' ∉ Base64Url.encode bytes ++ List.replicate padding '=' := by
    intro hMem
    rcases List.mem_append.mp hMem with hSymbol | hEquals
    · exact absurd (hSymbols '.' hSymbol) (by decide)
    · cases List.eq_of_mem_replicate hEquals
  have hToken :
      (tokenOf scheme header bytes padding signature).toList =
        scheme.toList ++ (header.toList ++ '.' ::
          (Base64Url.encode bytes ++ List.replicate padding '=' ++
            '.' :: signature.toList)) := by
    simp [tokenOf]
  rw [hToken]
  generalize Base64Url.encode bytes ++ List.replicate padding '=' =
    part at hUnpadded hPart
  rcases exists_unprefixed hScheme hHeader with ⟨rest, hRest, hUnprefixed⟩
  rcases exists_trimmed hRest part signature.toList with
    ⟨first, after, hFirst, hTrimmed⟩
  exact ⟨_, _, part, hUnprefixed, hTrimmed,
    ⟨hPart, first, '.' :: after, hFirst, rfl, Or.inr ⟨after, rfl⟩⟩, hUnpadded⟩

/- The claims are decoded from the text that they are written as. -/
theorem inverts
    (claims : Claims) :
    codec.Inverts 3 claims := by
  have hRoles : rolesCodec.Inverts 2 claims.roles := by
    apply Codec.Inverts.record (by simp [Fields.items, Fields.field]) rfl
    exact .field _ _ (.list fun _ _ => .string _)
  apply Codec.Inverts.record
    (by simp [Fields.pair, Fields.text, Fields.field]) rfl
  exact .pair (.text _ _) (.field _ _ hRoles)

theorem isAdmin_iff
    {claims : Claims} :
    claims.isAdmin = true ↔ "admin" ∈ claims.roles := by
  rw [isAdmin, List.contains_iff_mem, adminRole]

/-
  A token of a header, of the encoding of a JSON text for
  claims and of a signature has these claims. Whatever token
  has claims, its payload is the canonical encoding of bytes
  that are read as them. The bytes of a text are read as the
  text is, and whatever is read from bytes with gaps is read
  from their text with replacements for the gaps as well. All
  other tokens are faults.
-/
theorem parse_exact :
    (∀ (subject : String) (roles : List String)
      (text scheme header signature : String) (padding : Nat),
      codec.ofText? text = some ⟨subject, roles⟩ →
        scheme ∈ ["", "Bearer ", "bearer "] → '.' ∉ header.toList →
          parse (tokenOf scheme header
            (Utf8.encode text.toList) padding signature) =
            .ok ⟨subject, roles⟩) ∧
      (∀ claims : Claims,
        codec.ofText? (codec.encode claims).toText = some claims ∧
          (claims.isAdmin = true ↔ "admin" ∈ claims.roles)) ∧
      (∀ token claims,
        parse token = .ok claims ↔
          ∃ payload bytes,
            HasPayload token.toList payload ∧ Base64Url.IsCanonical payload ∧
              payload = Base64Url.encode bytes ∧ AreRead bytes claims) ∧
      (∀ text claims,
        AreRead (Utf8.encode text.toList) claims ↔
          codec.ofText? text = some claims) ∧
      (∀ bytes claims,
        AreRead bytes claims →
          codec.ofText? (String.ofList (Utf8.decodeLossy bytes)) =
            some claims) ∧
      ∀ token,
        (∀ claims, parse token ≠ .ok claims) →
          ∃ fault, (parse token).mapError DeployError.invalidToken =
            .error (.invalidToken fault) := by
  refine ⟨?_, ?_, ?_, fun _ _ => areRead_encode_iff,
    fun bytes _ hRead => ofText?_of_fits hRead (fits_decodeLossy bytes), ?_⟩
  · intro subject roles text scheme header signature
      padding hText hScheme hHeader
    exact parse_eq_ok_iff.mpr
      ⟨_, hasPayload_tokenOf hScheme hHeader _ padding signature,
        areRead_encode_iff.mpr hText⟩
  · exact fun claims =>
      ⟨(inverts claims).ofText?_toText (by decide), isAdmin_iff⟩
  · intro token claims
    rw [parse_eq_ok_iff]
    constructor
    · rintro ⟨bytes, hPayload, hRead⟩
      exact ⟨_, bytes, hPayload, Base64Url.exists_encode_iff.mp ⟨bytes, rfl⟩,
        rfl, hRead⟩
    · rintro ⟨_, bytes, hPayload, -, rfl, hRead⟩
      exact ⟨bytes, hPayload, hRead⟩
  · intro token hNone
    cases hParse : parse token with
    | ok claims => exact absurd hParse (hNone claims)
    | error fault => exact ⟨fault, rfl⟩

/- The payload of an administrator's token, with its padding. -/
def paddedPayload : String :=
  "eyJzdWIiOiJ1MSIsInJlYWxtX2FjY2VzcyI6eyJyb2xlcyI6WyJhZG1pbiJdfX0=="

/- An administrator, with a padded payload and a signature that holds a dot. -/
theorem parse_exact_admin :
    let text := (codec.encode ⟨"u1", ["admin"]⟩).toText
    codec.ofText? text = some ⟨"u1", ["admin"]⟩ ∧
      tokenOf "bearer " "e30" (Utf8.encode text.toList) 2 "s.t" =
        "bearer e30." ++ paddedPayload ++ ".s.t" ∧
      parse ("bearer e30." ++ paddedPayload ++ ".s.t") =
        .ok ⟨"u1", ["admin"]⟩ := by
  intro text
  have hText : codec.ofText? text = some ⟨"u1", ["admin"]⟩ :=
    (inverts ⟨"u1", ["admin"]⟩).ofText?_toText (by decide)
  have hToken :
      tokenOf "bearer " "e30" (Utf8.encode text.toList) 2 "s.t" =
        "bearer e30." ++ paddedPayload ++ ".s.t" := by
    decide +kernel
  refine ⟨hText, hToken, ?_⟩
  rw [← hToken]
  exact parse_exact.1 "u1" ["admin"] text "bearer " "e30" "s.t" 2 hText
    (by decide) (by decide)

/-
  A payload with a byte that encodes no character, in a
  member that is skipped.
-/
def gappedPayload : String :=
  "eyJzdWIiOiJhIiwieCI6IsMifQ"

/- Claims may come from a payload that is no text. -/
theorem parse_gappedPayload :
    parse ("Bearer h." ++ gappedPayload ++ ".s") = .ok { subject := "a" } ∧
      ¬ ∃ text : String,
        HasPayload ("Bearer h." ++ gappedPayload ++ ".s").toList
            (Base64Url.encode (Utf8.encode text.toList)) ∧
          codec.ofText? text = some { subject := "a" } := by
  constructor
  · decide +kernel
  · rintro ⟨text, hPayload, -⟩
    have hFound :
        payload? ("Bearer h." ++ gappedPayload ++ ".s") =
          some gappedPayload.toList := by
      decide +kernel
    have hBytes :
        Base64Url.decode gappedPayload.toList =
          .ok [123, 34, 115, 117, 98, 34, 58,
            34, 97, 34, 44, 34, 120, 34, 58, 34, 0xC3, 34,
            125] := by
      decide +kernel
    have hGap :
        none ∈ Utf8.units
          [123, 34, 115, 117, 98, 34, 58, 34, 97, 34, 44, 34, 120, 34, 58, 34,
          0xC3, 34, 125] := by
      decide +kernel
    rw [payload?_eq_some_iff.mpr hPayload, Option.some.injEq] at hFound
    rw [← hFound, Base64Url.decode_eq_ok_iff.mpr rfl, Except.ok.injEq] at hBytes
    rw [← hBytes, Utf8.units_encode] at hGap
    simp at hGap

end Claims

end ProcessEvents
