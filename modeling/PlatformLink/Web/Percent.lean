import PlatformLink.Text.Utf8

/-!
# Percent-encoding

A character that may not stand in some part of a URL is written as the octets of its UTF-8 form,
each as a percent sign and two hexadecimal digits. Which characters those are depends on the part;
those outside ASCII are always among them.
-/

namespace PlatformLink.Web

open Text (Octets)

def upperHexDigit (n : Nat) : Char :=
  (Nat.digitChar (n % 16)).toUpper

def percentOctet (b : UInt8) : List Char :=
  ['%', upperHexDigit (b.toNat / 16), upperHexDigit b.toNat]

/-- Encodes a character if it is escaped or not ASCII. -/
def percentChar (escaped : Char → Bool) (c : Char) : List Char :=
  if 0x80 ≤ c.toNat || escaped c then (String.utf8EncodeChar c).flatMap percentOctet else [c]

def percentEncode (escaped : Char → Bool) (cs : List Char) : List Char :=
  cs.flatMap (percentChar escaped)

def hexDigitValue (c : Char) : Option Nat :=
  if '0' ≤ c ∧ c ≤ '9' then some (c.toNat - 0x30)
  else if 'A' ≤ c ∧ c ≤ 'F' then some (c.toNat - 0x37)
  else if 'a' ≤ c ∧ c ≤ 'f' then some (c.toNat - 0x57)
  else none

/-- The octets that a text stands for; a percent sign without two digits stands for itself. -/
def percentDecode : List Char → Octets
  | [] => []
  | '%' :: a :: b :: rest =>
    match hexDigitValue a, hexDigitValue b with
    | some x, some y => UInt8.ofNat (x * 16 + y) :: percentDecode rest
    | _, _ => 0x25 :: percentDecode (a :: b :: rest)
  | c :: rest => String.utf8EncodeChar c ++ percentDecode rest

theorem percentDecode_nil : percentDecode [] = [] := by
  simp [percentDecode]

/-- What is escaped in each part of a URL. -/
inductive UrlPart where
  | control
  | fragment
  | query
  | specialQuery
  | path
  | userinfo
  | segment
  | specialSegment
  deriving Repr, DecidableEq

def isControl (c : Char) : Bool :=
  c.toNat < 0x20 || c.toNat == 0x7F

namespace UrlPart

/-- The characters beside the controls. -/
def escapes : UrlPart → List Char
  | control => []
  | fragment => " \"<>`".toList
  | query => " \"#<>".toList
  | specialQuery => " \"#<>'".toList
  | path => " \"<>`#?\x7b\x7d".toList
  | userinfo => " \"<>`#?\x7b\x7d/:;=@[\\]^|".toList
  | segment => " \"<>`#?\x7b\x7d/%".toList
  | specialSegment => " \"<>`#?\x7b\x7d/%\\".toList

def isEscaped (p : UrlPart) (c : Char) : Bool :=
  isControl c || p.escapes.contains c

def encode (p : UrlPart) (cs : List Char) : List Char :=
  percentEncode p.isEscaped cs

end UrlPart

end PlatformLink.Web
