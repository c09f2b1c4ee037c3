import PlatformLink.Web.Host
import PlatformLink.Web.Url.Path

/-!
# Reading URLs

A URL is read from left to right: scheme, authority, path, query, fragment. Controls and spaces at
the ends do not count, nor do tabs and line ends anywhere. Under a special scheme a backslash is a
slash, and any number of them leads to the authority. A reference without a scheme is read against a
base.
-/

namespace PlatformLink.Web

def isControlOrSpace (c : Char) : Bool :=
  c.toNat ≤ 0x20

/-- The characters of a text without controls and spaces at its ends. -/
def urlChars (s : String) : List Char :=
  ((s.toList.dropWhile isControlOrSpace).reverse.dropWhile isControlOrSpace).reverse

def isSchemeChar (c : Char) : Bool :=
  c.isAlphanum || c == '+' || c == '-' || c == '.'

/-- The scheme at the front, in small letters, and what follows its colon. -/
def scheme? (cs : List Char) : Option (String × List Char) :=
  let inScheme := fun c => isSchemeChar c || isDropped c
  match counted (cs.takeWhile inScheme), cs.dropWhile inScheme with
  | c :: name, ':' :: rest =>
    if c.isAlpha then some (String.ofList ((c :: name).map Char.toLower), rest) else none
  | _, _ => none

def isSlash (special : Bool) (c : Char) : Bool :=
  c == '/' || (special && c == '\\')

def endsAuthority (special : Bool) (c : Char) : Bool :=
  isSlash special c || c == '?' || c == '#'

/-- What stands before and after the last `@`. -/
def splitAtLast (cs : List Char) : Option (List Char × List Char) :=
  match Text.splitOn '@' cs with
  | [] | [_] => none
  | parts => some (Text.joinWith '@' parts.dropLast, parts.getLast?.getD [])

/-- The user and the password, encoded. A colon before an empty password is left out. -/
def userinfoText (cs : List Char) : String :=
  let user := UrlPart.userinfo.encode (cs.takeWhile (· != ':'))
  let password := UrlPart.userinfo.encode ((cs.dropWhile (· != ':')).drop 1)
  String.ofList (if password.isEmpty then user else user ++ ':' :: password)

/-- The host at the front, and what follows it; a colon inside brackets does not end it. -/
def hostRun : (inBrackets : Bool) → List Char → List Char × List Char
  | _, [] => ([], [])
  | inBrackets, c :: cs =>
    if c = ':' ∧ !inBrackets then ([], c :: cs)
    else
      let run := hostRun (if c = '[' then true else if c = ']' then false else inBrackets) cs
      (c :: run.1, run.2)

/-- The port that digits write; the port of the scheme is left out. -/
def portOf (default : Option Nat) (digits : List Char) : Except UrlFault (Option Nat) :=
  match numberOfBase 10 0 digits with
  | none => .error .invalidPort
  | some n =>
    if 65535 < n then .error .invalidPort
    else if digits.isEmpty ∨ some n = default then .ok none
    else .ok (some n)

/-- The port after the host, and what follows it; `rest` begins with its colon. A backslash ends the
port of any scheme. -/
def readPort (default : Option Nat) (rest : List Char) :
    Except UrlFault (Option Nat × List Char) :=
  let digits := (rest.drop 1).takeWhile (· != '\\')
  (portOf default digits).map fun port => (port, rest.drop (digits.length + 1))

structure Authority where
  userinfo : String
  host : String
  port : Option Nat
  deriving Repr, DecidableEq

/-- Reads an authority; `text` is all of it, and `atEnd` says that nothing follows. Outside the
special schemes the host may be empty if nothing else is given. What a backslash after the port
begins belongs to the path. -/
def readAuthority (scheme : String) (text : List Char) (atEnd : Bool) :
    Except UrlFault (Authority × List Char) := do
  let special := isSpecial scheme
  let (userinfo, rest) ← match splitAtLast text with
    | none => pure ("", text)
    | some ([], []) => if atEnd then pure ("", []) else .error .emptyHost
    | some (user, rest) => pure (userinfoText user, rest)
  let (hostChars, afterHost) := hostRun false rest
  if special ∧ hostChars.isEmpty then .error .emptyHost
  let host ← if special then domainHost hostChars else plainHost hostChars
  if host.isEmpty ∧ (!afterHost.isEmpty ∨ !userinfo.isEmpty) then .error .emptyHost
  let (port, rest) ← readPort ((specialPort? scheme).getD none) afterHost
  return (⟨userinfo, host, port⟩, rest)

/-- A path, a query and a fragment as they stand in a text. -/
structure Tail where
  path : List Char
  query : Option (List Char)
  fragment : Option (List Char)

def Tail.of (cs : List Char) : Tail :=
  let fragment := (cs.dropWhile (· != '#'))
  let front := cs.takeWhile (· != '#')
  let query := front.dropWhile (· != '?')
  ⟨front.takeWhile (· != '?'), if query.isEmpty then none else some (query.drop 1),
    if fragment.isEmpty then none else some (fragment.drop 1)⟩

def queryText (special : Bool) (cs : List Char) : String :=
  String.ofList ((if special then UrlPart.specialQuery else .query).encode cs)

def fragmentText (cs : List Char) : String :=
  String.ofList (UrlPart.fragment.encode cs)

/-- The segments of a path after its first slash, added to others. -/
def readSegments (special : Bool) (before : List String) (cs : List Char) : List String :=
  let cs := if special then cs.map fun c => if c = '\\' then '/' else c else cs
  addAll before ((Text.splitOn '/' cs).map fun w => String.ofList (UrlPart.path.encode w))

/-- The path after an authority. A special URL always has one. -/
def readPath (special : Bool) (cs : List Char) : List String :=
  match cs with
  | [] => if special then [""] else []
  | c :: rest => if isSlash special c then readSegments special [] rest
    else readSegments special [] (c :: rest)

/-- The path of a file that is being read. Beside a drive at its front there is no host. -/
structure FilePath where
  segments : List String
  hostless : Bool

namespace FilePath

/-- Adds a segment by `add`, or a drive where the path begins. -/
def addBy (add : List String → String → List String) (p : FilePath) (cs : List Char) : FilePath :=
  match if p.segments.isEmpty then leadingDrive? .path cs else none with
  | some [drive] => ⟨[drive], true⟩
  | some segments => { p with segments := segments }
  | none => { p with segments := add p.segments (segmentOf .path cs) }

def addAll (p : FilePath) : List (List Char) → FilePath
  | [] => p
  | [cs] => p.addBy addLast cs
  | cs :: rest => addAll (p.addBy addInner cs) rest

/-- The path that begins here. No empty segments are left at its front. -/
def read (cs : List Char) : FilePath :=
  let cs := cs.map fun c => if c = '\\' then '/' else c
  let p := FilePath.addAll ⟨[], false⟩ (Text.splitOn '/' cs)
  let segments := p.segments.dropWhile (· == "")
  { p with segments := if segments.isEmpty then [""] else segments }

end FilePath

namespace Url

def ofParts (scheme : String) (authority : Option Authority) (path : UrlPath) (t : Tail) : Url where
  scheme := scheme
  userinfo := (authority.map (·.userinfo)).getD ""
  host := authority.map (·.host)
  port := authority.bind (·.port)
  guarded := needsGuard (authority.map (·.host)) path
  path := path
  query := t.query.map fun q => queryText (isSpecial scheme) (counted q)
  fragment := t.fragment.map fun f => fragmentText (counted f)

/-- Reads what follows the slashes of an authority. -/
def readWithAuthority (scheme : String) (cs : List Char) : Except UrlFault Url := do
  let special := isSpecial scheme
  let text := cs.takeWhile fun c => !endsAuthority special c
  let after := cs.dropWhile fun c => !endsAuthority special c
  let (authority, rest) ← readAuthority scheme text after.isEmpty
  let t := Tail.of (rest ++ after)
  return ofParts scheme (some authority) (.segments (readPath special t.path)) t

/-- The URL of a file on a host. -/
def ofFile (host : String) (path : FilePath) (t : Tail) : Url :=
  ofParts "file" (some ⟨"", if path.hostless then "" else host, none⟩) (.segments path.segments) t

/-- Reads the path of a file that has no host. -/
def readLocalFile (cs : List Char) : Url :=
  ofFile "" (FilePath.read (Tail.of cs).path) (Tail.of cs)

/-- Reads a file URL after its two slashes. A host that is a drive belongs to the path, and
`localhost` is no host; where there is none, a slash after its place is part of the path. -/
def readFileHost (cs : List Char) : Except UrlFault Url := do
  let text := counted (cs.takeWhile fun c => !endsAuthority true c)
  let after := cs.dropWhile fun c => !endsAuthority true c
  if isDrive (String.ofList text) then return readLocalFile cs
  let host ← if text.isEmpty then pure "" else domainHost text
  if host.isEmpty ∨ host = "localhost" then return readLocalFile after
  let t := Tail.of after
  return ofFile host (FilePath.read (t.path.drop 1)) t

/-- Reads a file URL after its scheme. -/
def readFile (cs : List Char) : Except UrlFault Url :=
  match cs.dropWhile isDropped with
  | [] => .ok (readLocalFile [])
  | a :: rest =>
    if isSlash true a then
      match rest.dropWhile isDropped with
      | [] => .ok (readLocalFile rest)
      | b :: more => if isSlash true b then readFileHost more else .ok (readLocalFile rest)
    else .ok (readLocalFile cs)

/-- Reads what follows a scheme. -/
def readWithScheme (scheme : String) (cs : List Char) : Except UrlFault Url :=
  if scheme = "file" then readFile cs
  else if isSpecial scheme then readWithAuthority scheme ((counted cs).dropWhile (isSlash true))
  else
    match counted cs with
    | '/' :: '/' :: rest => readWithAuthority scheme rest
    | '/' :: rest =>
      let t := Tail.of rest
      .ok (ofParts scheme none (.segments (readSegments false [] t.path)) t)
    | _ =>
      let t := Tail.of (counted cs)
      .ok (ofParts scheme none (.plain (String.ofList (UrlPart.control.encode t.path))) t)

/-- The URL that a text spells. -/
def parse (s : String) : Except UrlFault Url :=
  match scheme? (urlChars s) with
  | some (scheme, rest) => readWithScheme scheme rest
  | none => .error .relativeWithoutBase

/-- Reads a reference that has no scheme of its own beside a URL that names no file. -/
def readRelative (base : Url) (cs : List Char) : Except UrlFault Url :=
  let special := isSpecial base.scheme
  match base.path, cs with
  | .plain _, '#' :: f => .ok { base with fragment := some (fragmentText f) }
  | .plain _, _ => .error .relativeToOpaqueBase
  | .segments _, [] => .ok { base with fragment := none }
  | .segments ss, a :: rest =>
    let within (path : List String) (t : Tail) : Url :=
      { base with
        guarded := needsGuard base.host (.segments path)
        path := .segments path
        query := t.query.map (queryText special)
        fragment := t.fragment.map fragmentText }
    if a = '#' then .ok { base with fragment := some (fragmentText rest) }
    else if a = '?' then
      let t := Tail.of (a :: rest)
      .ok (within ss t)
    else if isSlash special a then
      match rest with
      | b :: more =>
        if isSlash special b then readWithAuthority base.scheme more
        else let t := Tail.of rest; .ok (within (readSegments special [] t.path) t)
      | [] => .ok (within [""] (Tail.of []))
    else
      let t := Tail.of (a :: rest)
      .ok (within (readSegments special ss.dropLast t.path) t)

/-- The URL that a reference means beside a base that names no file. -/
def join (base : Url) (reference : String) : Except UrlFault Url :=
  let cs := urlChars reference
  match scheme? cs with
  | some (scheme, rest) =>
    if scheme = base.scheme ∧ isSpecial scheme ∧ scheme ≠ "file" ∧
        ((counted rest).takeWhile (isSlash true)).length < 2 then
      readRelative base (counted rest)
    else readWithScheme scheme rest
  | none => readRelative base (counted cs)

end Url

end PlatformLink.Web
