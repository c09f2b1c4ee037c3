import PlatformLink.Web.Url.Basic

/-!
# Paths

How segments are added to a path. A dot segment is not kept: one dot adds nothing and two dots take
away the segment before, unless there is none or it names a drive. Where a dot segment ends a path
an empty segment stands in its place.

A text that is added as one segment is encoded, so that it cannot end the segment; one that is a dot
segment from the start is passed over, and one that becomes a dot segment because tabs and line ends
are dropped from it is resolved.

The path of a file may begin with a drive, which is written with a colon. A drive that only a tab or
a line end parts from the rest of its segment is a segment of its own, and the rest is kept as it
is, dots or not.
-/

namespace PlatformLink.Web

def isDot (segment : String) : Bool :=
  [".", "%2e", "%2E"].contains segment

def isTwoDots (segment : String) : Bool :=
  ["..", ".%2e", ".%2E", "%2e.", "%2E.",
    "%2e%2e", "%2e%2E", "%2E%2e", "%2E%2E"].contains segment

/-- A letter and a colon or a bar. -/
def isDrive (segment : String) : Bool :=
  match segment.toList with
  | [c, d] => c.isAlpha && (d == ':' || d == '|')
  | _ => false

/-- Whether a segment names a drive, with or without a part after a backslash. -/
def namesDrive (segment : String) : Bool :=
  isDrive (String.ofList (segment.toList.takeWhile (· != '\\')))

/-- The path without its last segment. -/
def shortened (path : List String) : List String :=
  match path.getLast? with
  | some last => if namesDrive last then path else path.dropLast
  | none => path

/-- Adds a segment after which the path goes on. -/
def addInner (path : List String) (segment : String) : List String :=
  if isTwoDots segment then shortened path
  else if isDot segment then path
  else path ++ [segment]

/-- Adds the segment that ends the path. -/
def addLast (path : List String) (segment : String) : List String :=
  if isTwoDots segment then shortened path ++ [""]
  else if isDot segment then path ++ [""]
  else path ++ [segment]

/-- Adds the segments of a text that was split at slashes. -/
def addAll (path : List String) : List String → List String
  | [] => path
  | [segment] => addLast path segment
  | segment :: rest => addAll (addInner path segment) rest

/-- Tabs and line ends do not count in URLs. -/
def isDropped (c : Char) : Bool :=
  c == '\t' || c == '\n' || c == '\r'

/-- The characters that count. -/
def counted (cs : List Char) : List Char :=
  cs.filter fun c => !isDropped c

/-- Characters as one segment. -/
def segmentOf (part : UrlPart) (cs : List Char) : String :=
  String.ofList (part.encode (counted cs))

/-- The text of a drive with a colon. -/
def driveText (segment : String) : String :=
  String.ofList (segment.toList.take 1 ++ [':'])

/-- A drive and the rest of its segment, if characters that do not count stand between them. -/
def partedDrive? (part : UrlPart) (cs : List Char) : Option (List String) :=
  match cs.dropWhile isDropped with
  | [] => none
  | c :: rest =>
    match rest.dropWhile isDropped with
    | ':' :: rest =>
      if c.isAlpha && rest.head?.any isDropped && !(counted rest).isEmpty then
        some [segmentOf part [c, ':'], segmentOf part rest]
      else none
    | _ => none

/-- The segments of a first segment that is or holds a drive. -/
def leadingDrive? (part : UrlPart) (cs : List Char) : Option (List String) :=
  match partedDrive? part cs with
  | some segments => some segments
  | none =>
    if isDrive (segmentOf part cs) then some [driveText (segmentOf part cs)] else none

/-- A path that is ready for another segment: an empty only segment is replaced. -/
def openEnd (path : List String) : List String :=
  if path = [""] then [] else path

/-- Adds a text as one segment to a path, which may be that of a file. -/
def pushSegment (file : Bool) (part : UrlPart) (path : List String) (s : String) : List String :=
  if s = "." ∨ s = ".." then path
  else
    let path := openEnd path
    match if file && path.isEmpty then leadingDrive? part s.toList else none with
    | some segments => segments
    | none => addLast path (segmentOf part s.toList)

theorem pushSegment_of_not_file (part : UrlPart) (path : List String) (s : String) :
    pushSegment false part path s =
      if s = "." ∨ s = ".." then path else addLast (openEnd path) (segmentOf part s.toList) := by
  simp [pushSegment]

def pushSegments (file : Bool) (part : UrlPart) (path : List String) (texts : List String) :
    List String :=
  texts.foldl (pushSegment file part) path

theorem pushSegments_nil (file : Bool) (part : UrlPart) (path : List String) :
    pushSegments file part path [] = path := rfl

theorem pushSegments_append (file : Bool) (part : UrlPart) (path a b : List String) :
    pushSegments file part path (a ++ b) =
      pushSegments file part (pushSegments file part path a) b := by
  simp [pushSegments]

/-- The path without the empty segment that a slash at its end makes. -/
def withoutEmptyEnd (path : List String) : List String :=
  if path.getLast? = some "" ∧ 1 < path.length then path.dropLast else path

namespace Url

/-- The URL with texts added to its path as segments; `none` for a plain path. -/
def extendPath? (u : Url) (texts : List String) : Option Url :=
  match u.path with
  | .plain _ => none
  | .segments ss =>
    some { u with
      path := .segments
        (pushSegments (u.scheme == "file") u.segmentPart (withoutEmptyEnd ss) texts) }

end Url

end PlatformLink.Web
