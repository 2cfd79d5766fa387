import ProcessEvents.Text

/-
  This file defines media types as they stand in headers: a
  type, a subtype that may have a suffix after a plus sign,
  and parameters, of which only the form matters here.

  Key definitions include:
    * `MediaType`
    * `MediaType.parse?`
    * `MediaType.isJson`
-/

namespace ProcessEvents

/- A media type without its parameters, in lower case. -/
structure MediaType where
  type : String
  subtype : String
  suffix : Option String
  deriving DecidableEq, Repr

namespace MediaType

------------------------------------------------------------
-- Characters
------------------------------------------------------------

/- The characters of names. -/
def isToken
    (c : Char) : Bool :=
  c.isAlphanum || "!#$%&'*+-.^_`|~".toList.contains c

/- The characters that may stand within quotes. -/
def isQuotable
    (c : Char) : Bool :=
  32 ≤ c.toNat && c.toNat < 128 && c.toNat != 127

------------------------------------------------------------
-- Parameters
------------------------------------------------------------

/- What follows a quoted value: at least one character, then a quote. -/
def afterQuoted? : List Char → Option (List Char)
  | [] => none
  | first :: rest =>
    if isQuotable first then
      match rest.dropWhile fun c => isQuotable c && c != '"' with
      | '"' :: rest => some rest
      | _ => none
    else none

/- The parameters that follow a separator, or that there are none. -/
def afterSeparator? : List Char → Option (List Char)
  | [] => some []
  | ';' :: rest => some rest
  | _ => none

/-
  What follows a value and its separator. A plain value that
  is followed by another parameter is not empty.
-/
def afterValue? : List Char → Option (List Char)
  | '"' :: rest =>
    (afterQuoted? rest).bind fun rest =>
      afterSeparator? (rest.dropWhile (· == ' '))
  | cs =>
    match cs.span isToken with
    | ([], ';' :: _) => none
    | (_, rest) => afterSeparator? rest

/- What follows a parameter: a name, an equals sign and a value. -/
def afterParameter?
    (cs : List Char) : Option (List Char) :=
  match cs.span isToken with
  | ([], _) => none
  | (_, '=' :: rest) => afterValue? rest
  | _ => none

/-
  Whether a text is a list of parameters, with blanks before
  each of them. Every parameter takes at least one character.
-/
def areParameters : Nat → List Char → Bool
  | 0, _ => false
  | fuel + 1, cs =>
    match cs.dropWhile (· == ' ') with
    | [] => true
    | cs =>
      match afterParameter? cs with
      | some rest => areParameters fuel rest
      | none => false

------------------------------------------------------------
-- Media types
------------------------------------------------------------

/-
  A subtype and its suffix: what follows the last plus sign,
  unless the sign comes first.
-/
def splitSuffix
    (cs : List Char) : List Char × Option (List Char) :=
  let suffix := (cs.reverse.takeWhile (· != '+')).reverse
  let before := cs.take (cs.length - suffix.length - 1)
  if before.isEmpty then (cs, none) else (before, some suffix)

def lower
    (cs : List Char) : String :=
  String.ofList (cs.map Char.toLower)

/- The media type of a header. -/
def parse?
    (text : String) : Option MediaType :=
  match text.toList.span isToken with
  | (type, '/' :: rest) =>
    let (subtype, rest) := rest.span isToken
    let (before, suffix) := splitSuffix subtype
    let wellFormed :=
      match rest with
      | [] => true
      | ';' :: params =>
          !subtype.isEmpty && areParameters (params.length + 1) params
      | _ => false
    if !type.isEmpty && wellFormed then
      some
        { type := lower type
          subtype := lower before
          suffix := suffix.map lower }
    else none
  | _ => none

/- Whether what is of this type is written as JSON. -/
def isJson
    (m : MediaType) : Bool :=
  m.type == "application" && (m.subtype == "json" || m.suffix == some "json")

end MediaType

end ProcessEvents
