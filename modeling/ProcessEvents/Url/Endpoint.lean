import ProcessEvents.Url.Parser

/-
  This file defines the addresses of resources: segments that
  are appended to the path of a base address, encoded so that
  none of them can break out of its place.

  Key definitions include:
    * `Url.inSegmentSet`
    * `Url.appendSegment`
    * `Url.endpoint`
-/

namespace ProcessEvents

namespace Url

/- The characters that are encoded within a segment. -/
def inSegmentSet
    (kind : SchemeKind)
    (c : Char) : Bool :=
  inPathSet c || c == '/' || c == '%' || (kind.isSpecial && c == '\\')

/- The segments of a path without an empty one at the end of several. -/
def withoutEmptyLast
    (parts : List String) : List String :=
  if 1 < parts.length && parts.getLast? == some "" then parts.dropLast
  else parts

/-
  The segments after one that is appended. Segments of dots
  are left out, and a single empty one gives way.
-/
def appendSegment
    (kind : SchemeKind)
    (parts : List String)
    (segment : String) : List String :=
  if segment == "." || segment == ".." then parts
  else
    settled kind
      (pushSegment kind (inSegmentSet kind) true
        (if parts == [""] then [] else parts)
        segment.toList)

/- The URL of a base with segments appended to its path. -/
def append
    (u : Url)
    (segments : List String) : Except Fault Url :=
  match u.path with
  | .flat _ => .error .withoutPath
  | .segments dotted parts =>
    let kind := SchemeKind.ofName u.scheme
    .ok { u with
      path := .segments dotted
        (segments.foldl (appendSegment kind) (withoutEmptyLast parts)) }

/- The URL of a resource: segments appended to a base. -/
def endpoint
    (base : String)
    (segments : List String) : Except Fault Url := do
  let u ← parse base
  u.append segments

end Url

end ProcessEvents
