import ProcessEvents.Http.Form
import ProcessEvents.Url.Host

/-
  This file defines URLs by their parts, and their text. All
  parts are kept as they are written, that is encoded.

  Key definitions include:
    * `Url.SchemeKind`
    * `Url.Authority`
    * `Url.Path`
    * `Url`
    * `Url.toText`
    * `Url.withQuery`
-/

namespace ProcessEvents

namespace Url

------------------------------------------------------------
-- Schemes
------------------------------------------------------------

/- How the rest of a URL is read. -/
inductive SchemeKind where
  | file
  | known
  | other
  deriving DecidableEq, Repr

/- The kind of a scheme in lower case. -/
def SchemeKind.ofName
    (scheme : String) : SchemeKind :=
  if scheme == "file" then .file
  else if ["http", "https", "ws", "wss", "ftp"].contains scheme then .known
  else .other

/- Whether a backslash stands for a slash. -/
def SchemeKind.isSpecial : SchemeKind → Bool
  | .other => false
  | _ => true

/- The port that a scheme has if none is given. -/
def defaultPort?
    (scheme : String) : Option Nat :=
  match scheme with
  | "http" => some 80
  | "ws" => some 80
  | "https" => some 443
  | "wss" => some 443
  | "ftp" => some 21
  | _ => none

------------------------------------------------------------
-- Parts
------------------------------------------------------------

/- Who is asked, and as whom. -/
structure Authority where
  user : String := ""
  password : String := ""
  host : Host := .none
  port : Option Nat := none
  deriving DecidableEq, Repr

/-
  A path: a flat text, or segments that each follow a slash.
  Segments may be written behind a slash and a dot, so that
  an empty one in front is not taken for an authority.
-/
inductive Path where
  | flat (text : String)
  | segments (dotted : Bool) (parts : List String)
  deriving DecidableEq, Repr

end Url

structure Url where
  scheme : String
  authority : Option Url.Authority := none
  path : Url.Path
  query : Option String := none
  fragment : Option String := none
  deriving DecidableEq, Repr

namespace Url

------------------------------------------------------------
-- Texts
------------------------------------------------------------

/- The user and the password, if there are any. -/
def Authority.userinfo
    (a : Authority) : String :=
  if a.user == "" && a.password == "" then ""
  else if a.password == "" then a.user ++ "@"
  else a.user ++ ":" ++ a.password ++ "@"

def Authority.toText
    (a : Authority) : String :=
  "//" ++ a.userinfo ++ a.host.toText ++
    ((a.port.map fun n => ":" ++ Text.decimal n).getD "")

def Path.toText : Path → String
  | flat text => text
  | segments dotted parts =>
    (if dotted then "/." else "") ++ String.join (parts.map ("/" ++ ·))

/- A part behind its mark, if it is there. -/
def marked
    (mark : String)
    (part : Option String) : String :=
  (part.map (mark ++ ·)).getD ""

/- What a server is sent of a URL: its path and its query. -/
def target
    (u : Url) : String :=
  u.path.toText ++ marked "?" u.query

def toText
    (u : Url) : String :=
  u.scheme ++ ":" ++ (u.authority.map (·.toText)).getD "" ++ u.target ++
    marked "#" u.fragment

------------------------------------------------------------
-- Queries
------------------------------------------------------------

/- A URL with further pairs in its query. -/
def withQuery
    (u : Url)
    (pairs : List (String × String)) : Url :=
  let before := u.query.getD ""
  let added := Form.write pairs
  { u with
    query := some (if before == "" then added else before ++ "&" ++ added) }

end Url

end ProcessEvents
