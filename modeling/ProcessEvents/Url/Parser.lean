import ProcessEvents.Url.Basic

/-
  This file defines how URLs are read. Blanks at both ends
  and line breaks and tabs anywhere are left out, schemes and
  names are folded to lower case, default ports are dropped,
  and dots are resolved within paths.

  Key definitions include:
    * `Url.pushSegment`
    * `Url.readSegments`
    * `Url.readAuthority`
    * `Url.readFile`
    * `Url.parse`
-/

namespace ProcessEvents

namespace Url

------------------------------------------------------------
-- Characters that are left out
------------------------------------------------------------

/- Tabs and line breaks. -/
def isBreak
    (c : Char) : Bool :=
  c == '\t' || c == '\n' || c == '\r'

/- A text without tabs and line breaks. -/
def withoutBreaks
    (cs : List Char) : List Char :=
  cs.filter fun c => !isBreak c

/- The characters that are left out at both ends. -/
def isBlank
    (c : Char) : Bool :=
  c.toNat ≤ 0x20

/- A text without blanks at both ends. -/
def withoutBlanks
    (cs : List Char) : List Char :=
  Text.dropEndWhile isBlank (cs.dropWhile isBlank)

------------------------------------------------------------
-- Sets of encoded characters
------------------------------------------------------------

/- The characters that are encoded within fragments. -/
def inFragmentSet
    (c : Char) : Bool :=
  Percent.isControlOrBeyond c || " \"<>`".toList.contains c

/- The characters that are encoded within paths. -/
def inPathSet
    (c : Char) : Bool :=
  inFragmentSet c || "#?\x7b\x7d".toList.contains c

/- The characters that are encoded within users and passwords. -/
def inUserSet
    (c : Char) : Bool :=
  inPathSet c || "/:;=@[\\]^|".toList.contains c

/- The characters that are encoded within queries. -/
def inQuerySet
    (kind : SchemeKind)
    (c : Char) : Bool :=
  Percent.isControlOrBeyond c || " \"#<>".toList.contains c ||
    (kind.isSpecial && c == '\'')

/- A part with the characters of a set encoded. -/
def encoded
    (escaped : Char → Bool)
    (cs : List Char) : String :=
  String.ofList (Percent.encode escaped cs)

------------------------------------------------------------
-- Paths
------------------------------------------------------------

/- A segment with every encoded dot as a dot. -/
def plainDots : List Char → List Char
  | '%' :: '2' :: 'e' :: rest => '.' :: plainDots rest
  | '%' :: '2' :: 'E' :: rest => '.' :: plainDots rest
  | c :: rest => c :: plainDots rest
  | [] => []

/- Whether a segment stays where it is. -/
def isSingleDot
    (segment : String) : Bool :=
  plainDots segment.toList == ['.']

/- Whether a segment goes one level up. -/
def isDoubleDot
    (segment : String) : Bool :=
  plainDots segment.toList == ['.', '.']

/- Whether a segment names a drive: a letter with a colon or a bar. -/
def isDrive
    (cs : List Char) : Bool :=
  match cs with
  | [c, mark] => c.isAlpha && (mark == ':' || mark == '|')
  | _ => false

/- Whether a segment names a drive, up to a backslash. -/
def beginsWithDrive
    (cs : List Char) : Bool :=
  isDrive cs || (isDrive (cs.take 2) && (cs.drop 2).head? == some '\\')

/- The segments one level up; a drive is never left. -/
def oneUp
    (parts : List String) : List String :=
  match parts.getLast? with
  | some last => if beginsWithDrive last.toList then parts else parts.dropLast
  | none => []

/- Whether a segment is the drive that a path of a file begins with. -/
def startsAtDrive
    (kind : SchemeKind)
    (parts : List String)
    (segment : List Char) : Bool :=
  kind == .file && parts.isEmpty && isDrive segment

/- A segment as it is kept; the drive of a file has a colon. -/
def kept
    (kind : SchemeKind)
    (parts : List String)
    (segment : String) : String :=
  if startsAtDrive kind parts segment.toList then
    String.ofList (segment.toList.take 1 ++ [':'])
  else segment

/-
  A drive and what follows it, if a tab or a line break comes
  in between.
-/
def splitDrive?
    (cs : List Char) : Option (List Char × List Char) :=
  match cs.span (· != ':') with
  | (letter, colon :: c :: rest) =>
    let drive := withoutBreaks letter ++ [colon]
    let rest := withoutBreaks rest
    if isDrive drive && isBreak c && !rest.isEmpty then some (drive, rest)
    else none
  | _ => none

/-
  The segments after one more. A segment of dots is resolved;
  if it is the last one, an empty one takes its place.
-/
def pushEncoded
    (kind : SchemeKind)
    (isLast : Bool)
    (parts : List String)
    (segment : String) : List String :=
  let ending := if isLast then [""] else []
  if isDoubleDot segment then oneUp parts ++ ending
  else if isSingleDot segment then parts ++ ending
  else parts ++ [kept kind parts segment]

/-
  The segments after one more that has to be encoded. At the
  start of the path of a file, a tab or a line break after a
  drive begins another segment.
-/
def pushSegment
    (kind : SchemeKind)
    (escaped : Char → Bool)
    (isLast : Bool)
    (parts : List String)
    (cs : List Char) : List String :=
  match (splitDrive? cs).filter fun _ => kind == .file && parts.isEmpty with
  | some (drive, rest) => [String.ofList drive, encoded escaped rest]
  | none => pushEncoded kind isLast parts (encoded escaped (withoutBreaks cs))

/-
  The segments after several more, and whether they start at
  a drive, in whose place the path was empty.
-/
def pushSegments
    (kind : SchemeKind)
    (atDrive : Bool)
    (parts : List String) : List (List Char) → Bool × List String
  | [] => (atDrive, parts)
  | cs :: rest =>
    pushSegments kind
      (atDrive || startsAtDrive kind parts (withoutBreaks cs))
      (pushSegment kind inPathSet rest.isEmpty parts cs) rest

/- Segments without empty ones in front, in paths of files. -/
def settled
    (kind : SchemeKind)
    (parts : List String) : List String :=
  if kind = .file then
    match parts.dropWhile (· == "") with
    | [] => [""]
    | parts => parts
  else parts

/- The segments of a path after its first slash, which may start at a drive. -/
def walk
    (kind : SchemeKind)
    (cs : List Char) : Bool × List String :=
  let cs :=
    if kind.isSpecial then cs.map fun c => if c = '\\' then '/' else c else cs
  let (atDrive, parts) := pushSegments kind false [] (Text.parts '/' cs)
  (atDrive, settled kind parts)

/- The segments of a path after its first slash. -/
def readSegments
    (kind : SchemeKind)
    (cs : List Char) : List String :=
  (walk kind cs).2

------------------------------------------------------------
-- Authorities
------------------------------------------------------------

/- The characters that end an authority. -/
def isEnd
    (kind : SchemeKind)
    (c : Char) : Bool :=
  c == '/' || c == '?' || c == '#' || (kind.isSpecial && c == '\\')

/- What stands before and after the last at sign. -/
def splitLastAt?
    (cs : List Char) : Option (List Char × List Char) :=
  if cs.contains '@' then
    let after := (cs.reverse.takeWhile (· ≠ '@')).reverse
    some (cs.take (cs.length - after.length - 1), after)
  else none

/- The user and the password of a text. -/
def readUserinfo
    (cs : List Char) : String × String :=
  let (user, password) := Text.splitFirst ':' cs
  (encoded inUserSet user, encoded inUserSet (password.getD []))

/- The host of a text, up to a colon outside of brackets. -/
def hostPart
    (inside : Bool) : List Char → List Char
  | [] => []
  | c :: rest =>
    if c = ':' && !inside then []
    else c :: hostPart (c = '[' || (inside && c ≠ ']')) rest

/- The host of an authority without its user. -/
def readHost
    (kind : SchemeKind)
    (cs : List Char) : Except Fault Host :=
  if kind.isSpecial then
    if cs.isEmpty then .error .emptyHost else Host.ofName cs
  else Host.ofText cs

/- The port of a text that follows a colon. -/
def readPort
    (scheme : String)
    (cs : List Char) : Except Fault (Option Nat) :=
  match Ipv4.numberIn? 10 cs with
  | none => .error .port
  | some n =>
    if 65535 < n then .error .port
    else if cs.isEmpty || some n = defaultPort? scheme then .ok none
    else .ok (some n)

/- The authority of a text without its user. -/
def readHostAndPort
    (scheme : String)
    (kind : SchemeKind)
    (user password : String)
    (cs : List Char) : Except Fault Authority := do
  let hostText := hostPart false cs
  let rest := cs.drop hostText.length
  let host ← readHost kind hostText
  if host = .none && (!rest.isEmpty || user != "" || password != "") then
    .error .emptyHost
  else
    let port ←
      match rest with
      | [] => pure none
      | _ :: digits => readPort scheme (digits.takeWhile (· ≠ '\\'))
    return { user, password, host, port }

/-
  The authority of a text, and what follows it. A port ends
  at a backslash in every scheme.
-/
def readAuthority
    (scheme : String)
    (kind : SchemeKind)
    (cs : List Char) : Except Fault (Authority × List Char) := do
  let (here, rest) := cs.span fun c => !isEnd kind c
  let (userinfo, hostAndPort) := (splitLastAt? here).getD ([], here)
  let anonymous := (splitLastAt? here).isSome && userinfo.isEmpty
  if anonymous && hostAndPort.isEmpty && !rest.isEmpty then .error .emptyHost
  else
    let (user, password) := readUserinfo userinfo
    let authority ← readHostAndPort scheme kind user password hostAndPort
    let afterHost := hostAndPort.drop (hostPart false hostAndPort).length
    return (authority, afterHost.dropWhile (· ≠ '\\') ++ rest)

------------------------------------------------------------
-- Schemes and tails
------------------------------------------------------------

/- The characters of schemes after the first one. -/
def isSchemeChar
    (c : Char) : Bool :=
  c.isAlphanum || c == '+' || c == '-' || c == '.'

/- The scheme in lower case, and what follows its colon. -/
def readScheme?
    (cs : List Char) : Option (String × List Char) :=
  match cs.span isSchemeChar with
  | (c :: scheme, ':' :: rest) =>
    if c.isAlpha then
      some (String.ofList ((c :: scheme).map Char.toLower), rest)
    else none
  | _ => none

/- What follows a path: a query, and a fragment. -/
structure Tail where
  query : Option String
  fragment : Option String
  deriving DecidableEq, Repr

/- The path of a text, and its query and fragment. -/
def splitTail
    (kind : SchemeKind)
    (cs : List Char) : List Char × Tail :=
  let (before, fragment) := Text.splitFirst '#' cs
  let (path, query) := Text.splitFirst '?' before
  (path,
    { query := query.map fun cs => encoded (inQuerySet kind) (withoutBreaks cs)
      fragment :=
        fragment.map fun cs => encoded inFragmentSet (withoutBreaks cs) })

/- What follows the first colon. -/
def afterColon
    (cs : List Char) : List Char :=
  (cs.dropWhile (· != ':')).drop 1

------------------------------------------------------------
-- Files
------------------------------------------------------------

/- What follows a slash of either kind. -/
def afterSlash?
    (cs : List Char) : Option (List Char) :=
  match cs.dropWhile isBreak with
  | c :: rest => if c == '/' || c == '\\' then some rest else none
  | [] => none

/-
  The host of a file, and what follows it. A drive is no
  host, and the own host has no name.
-/
def readFileHost
    (cs : List Char) : Except Fault (Host × List Char) :=
  let (here, rest) := cs.span fun c => !isEnd .file c
  let name := withoutBreaks here
  if isDrive name then .ok (.none, cs)
  else if name.isEmpty then .ok (.none, rest)
  else do
    let host ← Host.ofName name
    return (if host = .name "localhost" then .none else host, rest)

/- The URL of a file on a host; a path that starts at a drive needs none. -/
def ofFile
    (host : Host)
    (cs : List Char) : Url :=
  let (path, tail) := splitTail .file cs
  let (atDrive, parts) := walk .file path
  { scheme := "file"
    authority := some { host := if atDrive then .none else host }
    path := .segments false parts
    query := tail.query
    fragment := tail.fragment }

/-
  A URL whose scheme is the one of files. The slash after a
  host belongs to it; without a host, it begins the path.
-/
def readFile
    (cs : List Char) : Except Fault Url :=
  match afterSlash? cs with
  | none => .ok (ofFile .none cs)
  | some one =>
    match afterSlash? one with
    | none => .ok (ofFile .none one)
    | some two => do
      let (host, rest) ← readFileHost two
      return ofFile host
        (if host = .none then rest else (afterSlash? rest).getD rest)

------------------------------------------------------------
-- URLs
------------------------------------------------------------

/- The path after an authority. -/
def pathAfterAuthority
    (kind : SchemeKind)
    (cs : List Char) : Path :=
  match cs with
  | [] => .segments false (if kind.isSpecial then [""] else [])
  | c :: rest =>
    if c = '/' || (kind.isSpecial && c = '\\') then
      .segments false (readSegments kind rest)
    else .segments false (readSegments kind cs)

/- The path without an authority. -/
def pathAlone
    (kind : SchemeKind)
    (cs : List Char) : Path :=
  match cs with
  | '/' :: rest =>
    let parts := readSegments kind rest
    .segments (1 < parts.length && parts.head? == some "") parts
  | _ => .flat (encoded Percent.isControlOrBeyond cs)

/- A URL whose authority follows. -/
def readRest
    (scheme : String)
    (kind : SchemeKind)
    (cs : List Char) : Except Fault Url := do
  let (authority, rest) ← readAuthority scheme kind cs
  let (path, tail) := splitTail kind rest
  return {
    scheme
    authority := some authority
    path := pathAfterAuthority kind path
    query := tail.query
    fragment := tail.fragment }

/- The URL of a text. -/
def parse
    (text : String) : Except Fault Url :=
  let cs := withoutBlanks text.toList
  match readScheme? (withoutBreaks cs) with
  | none => .error .relativeWithoutBase
  | some (scheme, rest) =>
    match SchemeKind.ofName scheme, rest with
    | .file, _ => readFile (afterColon cs)
    | .known, rest =>
      readRest scheme .known (rest.dropWhile fun c => c == '/' || c == '\\')
    | .other, '/' :: '/' :: rest => readRest scheme .other rest
    | .other, rest =>
      let (path, tail) := splitTail .other rest
      .ok {
        scheme
        path := pathAlone .other path
        query := tail.query
        fragment := tail.fragment }

end Url

end ProcessEvents
