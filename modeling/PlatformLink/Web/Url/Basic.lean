import PlatformLink.Web.Form
import PlatformLink.Web.UrlFault

/-!
# URLs

A URL taken apart: scheme, user, host, port, path, query and fragment, each in its encoded form. A
path is a list of segments, or a plain text where the scheme does not use segments. Without a host a
path that begins with an empty segment is guarded by `/.`, since two slashes would begin a host; the
guard stays when segments are added or taken away later. The text of a URL is put together from the
parts.
-/

namespace PlatformLink.Web

inductive UrlPath where
  | plain (text : String)
  | segments (list : List String)
  deriving Repr, DecidableEq

structure Url where
  scheme : String
  userinfo : String
  host : Option String
  port : Option Nat
  guarded : Bool
  path : UrlPath
  query : Option String
  fragment : Option String
  deriving Repr, DecidableEq

/-- The schemes with hosts and hierarchies, with their ports. -/
def specialPort? : String → Option (Option Nat)
  | "http" | "ws" => some (some 80)
  | "https" | "wss" => some (some 443)
  | "ftp" => some (some 21)
  | "file" => some none
  | _ => none

def isSpecial (scheme : String) : Bool :=
  (specialPort? scheme).isSome

/-- Segments as a path, each after a slash. -/
def segmentsText (segments : List String) : String :=
  String.join (segments.map ("/" ++ ·))

theorem segmentsText_nil : segmentsText [] = "" := by
  simp [segmentsText]

theorem segmentsText_append (a b : List String) :
    segmentsText (a ++ b) = segmentsText a ++ segmentsText b := by
  simp [segmentsText]

/-- Whether a path needs a guard beside a host. -/
def needsGuard (host : Option String) : UrlPath → Bool
  | .plain _ => false
  | .segments ss => host.isNone && ss.head? == some "" && 1 < ss.length

theorem needsGuard_host (host : String) (path : UrlPath) : needsGuard (some host) path = false := by
  cases path <;> simp [needsGuard]

namespace Url

/-- User, host and port, after the two slashes. -/
def authorityText (u : Url) : String :=
  match u.host with
  | none => ""
  | some h =>
    "//" ++ (if u.userinfo.isEmpty then "" else u.userinfo ++ "@") ++ h ++
      (match u.port with
        | some p => ":" ++ toString p
        | none => "")

/-- The path after its guard. -/
def pathText (u : Url) : String :=
  (if u.guarded then "/." else "") ++
    match u.path with
    | .plain text => text
    | .segments ss => segmentsText ss

def text (u : Url) : String :=
  u.scheme ++ ":" ++ u.authorityText ++ u.pathText ++
    (match u.query with
      | some q => "?" ++ q
      | none => "") ++
    (match u.fragment with
      | some f => "#" ++ f
      | none => "")

/-- The part of a URL in which a segment is encoded. -/
def segmentPart (u : Url) : UrlPart :=
  if isSpecial u.scheme then .specialSegment else .segment

/-- Adds a pair to the query. -/
def appendQuery (u : Url) (name value : String) : Url :=
  { u with query := some (appendPair u.query name value) }

end Url

end PlatformLink.Web
