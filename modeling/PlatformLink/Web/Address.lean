import PlatformLink.Text.Split
import PlatformLink.Web.Percent
import PlatformLink.Web.UrlFault

/-!
# Numeric addresses

Hosts that are numbers. An IPv4 address has one to four parts, each decimal, octal or hexadecimal,
of which the last fills the octets that are left; it is written as four decimal numbers. An IPv6
address is eight pieces of 16 bits; it is written in brackets, the longest run of zero pieces left
out.
-/

namespace PlatformLink.Web

def digitOfBase (base : Nat) (c : Char) : Option Nat :=
  match hexDigitValue c with
  | some d => if d < base then some d else none
  | none => none

/-- The number that the digits write, if all are digits of the base. -/
def numberOfBase (base : Nat) : Nat → List Char → Option Nat
  | n, [] => some n
  | n, c :: cs => (digitOfBase base c).bind fun d => numberOfBase base (n * base + d) cs

/-- The base that the beginning of a number tells, and its digits. -/
def ipv4Digits : List Char → Nat × List Char
  | '0' :: 'x' :: cs => (16, cs)
  | '0' :: 'X' :: cs => (16, cs)
  | '0' :: c :: cs => (8, c :: cs)
  | cs => (10, cs)

/-- One part of an IPv4 address. Only a part of no characters and one with a wrong digit is none. -/
def ipv4Part (cs : List Char) : Option Nat :=
  if cs.isEmpty then none else numberOfBase (ipv4Digits cs).1 0 (ipv4Digits cs).2

/-- The parts of a host; a point at its end adds none. -/
def hostParts (host : List Char) : List (List Char) :=
  let parts := Text.splitOn '.' host
  if parts.getLast? = some [] then parts.dropLast else parts

/-- Whether a host ends in a number, and so has to be an IPv4 address. -/
def endsInNumber (host : List Char) : Bool :=
  match (hostParts host).getLast? with
  | some last => (!last.isEmpty && last.all Char.isDigit) || (ipv4Part last).isSome
  | none => false

/-- The address of parts that were read. -/
def ipv4OfParts (parts : List Nat) : Option Nat :=
  match parts.getLast? with
  | none => none
  | some last =>
    let leading := parts.dropLast
    if 4 < parts.length ∨ leading.any (255 < ·) ∨ Nat.pow 256 (4 - leading.length) ≤ last then none
    else some (last +
      (leading.zipIdx.map fun p => p.1 * Nat.pow 256 (3 - p.2)).foldr (· + ·) 0)

def ipv4? (host : List Char) : Except UrlFault Nat :=
  match (hostParts host).mapM ipv4Part with
  | some parts =>
    match ipv4OfParts parts with
    | some n => .ok n
    | none => .error .invalidIpv4
  | none => .error .invalidIpv4

def ipv4Text (n : Nat) : String :=
  ".".intercalate ([3, 2, 1, 0].map fun i => toString (n / Nat.pow 256 i % 256))

/-- The digits of one piece at the front, at most four, with what follows. -/
def ipv6Piece (cs : List Char) : List Char × List Char :=
  let digits := (cs.take 4).takeWhile fun c => (hexDigitValue c).isSome
  (digits, cs.drop digits.length)

/-- The last two pieces written as four decimal numbers without leading zeros. -/
def ipv6Dotted (cs : List Char) : Option (List Nat) :=
  let number (w : List Char) : Option Nat :=
    if w.isEmpty || !w.all Char.isDigit || (w.length > 1 && w.head? == some '0') then none
    else (numberOfBase 10 0 w).bind fun n => if n < 256 then some n else none
  match (Text.splitOn '.' cs).mapM number with
  | some [a, b, c, d] => some [a * 256 + b, c * 256 + d]
  | _ => none

/-- Reads pieces: those `before` a `::` if there was one, and those `found` since. -/
def ipv6Pieces : (fuel : Nat) → (before : Option (List Nat)) → (found : List Nat) → List Char →
    Option (Option (List Nat) × List Nat)
  | 0, _, _, _ => none
  | _ + 1, before, found, [] => some (before, found)
  | fuel + 1, before, found, c :: cs =>
    let count := (before.getD []).length + found.length
    let (digits, rest) := ipv6Piece (c :: cs)
    if 8 ≤ count ∨ digits.isEmpty then none
    else if rest.head? = some '.' then
      if 6 < count then none
      else (ipv6Dotted (c :: cs)).map fun last => (before, found ++ last)
    else
      match numberOfBase 16 0 digits, rest with
      | some n, [] => some (before, found ++ [n])
      | some _, ':' :: [] => none
      | some n, ':' :: ':' :: after =>
        if before.isNone then ipv6Pieces fuel (some (found ++ [n])) [] after else none
      | some n, ':' :: more => ipv6Pieces fuel before (found ++ [n]) more
      | _, _ => none

/-- The eight pieces of an address. -/
def ipv6? (cs : List Char) : Except UrlFault (List Nat) :=
  let read := match cs with
    | [] => none
    | ':' :: ':' :: rest => ipv6Pieces (cs.length + 1) (some []) [] rest
    | _ => ipv6Pieces (cs.length + 1) none [] cs
  match read with
  | some (none, found) => if found.length = 8 then .ok found else .error .invalidIpv6
  | some (some before, found) =>
    if before.length + found.length < 8 then
      .ok (before ++ List.replicate (8 - before.length - found.length) 0 ++ found)
    else .error .invalidIpv6
  | none => .error .invalidIpv6

/-- The runs of zeros: where each begins and how long it is. -/
def zeroRuns (pieces : List Nat) : List (Nat × Nat) :=
  (List.range pieces.length).map fun i => (i, ((pieces.drop i).takeWhile (· == 0)).length)

/-- The first of the longest runs of at least two zeros. -/
def longestZeroRun (pieces : List Nat) : Option (Nat × Nat) :=
  (zeroRuns pieces).foldl (fun best r =>
    if 2 ≤ r.2 ∧ (best.map (·.2)).getD 0 < r.2 then some r else best) none

def ipv6Text (pieces : List Nat) : String :=
  let hex (ps : List Nat) := ":".intercalate (ps.map fun p => String.ofList (Nat.toDigits 16 p))
  match longestZeroRun pieces with
  | some (i, n) => "[" ++ hex (pieces.take i) ++ "::" ++ hex (pieces.drop (i + n)) ++ "]"
  | none => "[" ++ hex pieces ++ "]"

end PlatformLink.Web
