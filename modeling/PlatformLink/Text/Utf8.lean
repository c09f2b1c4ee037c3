/-!
# UTF-8

A text as octets, and octets back to characters. Reading goes octet by octet with what is known of
a character begun but not finished, so it is total on every list of octets: a maximal piece that
begins no character, or breaks off inside one, gives one `none`.
-/

namespace PlatformLink.Text

abbrev Octets := List UInt8

/-- The octets of a text. -/
def octets (s : String) : Octets :=
  s.toList.flatMap String.utf8EncodeChar

theorem octets_append (a b : String) : octets (a ++ b) = octets a ++ octets b := by
  simp [octets, String.toList_append]

/-- How many octets a text takes. -/
def octetLength (s : String) : Nat :=
  (s.toList.map Char.utf8Size).foldr (· + ·) 0

/-- What has been read of a character: nothing, or a beginning that still lacks `left` octets, the
next of them between `low` and `high`. The bounds keep out overlong forms, surrogates and codes past
the last character. -/
inductive Begun where
  | nothing
  | part (left low high code : Nat)
  deriving Repr, DecidableEq

/-- Reads an octet where a character may begin. -/
def beginAt (b : UInt8) : List (Option Char) × Begun :=
  let n := b.toNat
  if n < 0x80 then ([some (Char.ofNat n)], .nothing)
  else if 0xC2 ≤ n ∧ n ≤ 0xDF then ([], .part 1 0x80 0xBF (n - 0xC0))
  else if n = 0xE0 then ([], .part 2 0xA0 0xBF 0)
  else if n = 0xED then ([], .part 2 0x80 0x9F 0xD)
  else if 0xE1 ≤ n ∧ n ≤ 0xEF then ([], .part 2 0x80 0xBF (n - 0xE0))
  else if n = 0xF0 then ([], .part 3 0x90 0xBF 0)
  else if 0xF1 ≤ n ∧ n ≤ 0xF3 then ([], .part 3 0x80 0xBF (n - 0xF0))
  else if n = 0xF4 then ([], .part 3 0x80 0x8F 4)
  else ([none], .nothing)

/-- One octet more: the characters it finishes or spoils, and what is begun after it. An octet that
does not fit is looked at again as a beginning. -/
def Begun.next : Begun → UInt8 → List (Option Char) × Begun
  | .nothing, b => beginAt b
  | .part left low high code, b =>
    let n := b.toNat
    if low ≤ n ∧ n ≤ high then
      let code := code * 64 + (n - 0x80)
      if left ≤ 1 then ([some (Char.ofNat code)], .nothing)
      else ([], .part (left - 1) 0x80 0xBF code)
    else (none :: (beginAt b).1, (beginAt b).2)

/-- At the end a character that was begun is spoiled. -/
def Begun.finish : Begun → List (Option Char)
  | .nothing => []
  | .part .. => [none]

/-- Reads on, with the characters found so far in reverse. -/
def decodeOnto : List (Option Char) → Begun → Octets → List (Option Char)
  | found, p, [] => (p.finish.reverse ++ found).reverse
  | found, p, b :: rest => decodeOnto ((p.next b).1.reverse ++ found) (p.next b).2 rest

/-- The characters of a list of octets, and `none` for each piece that is not UTF-8. -/
def decode (bs : Octets) : List (Option Char) :=
  decodeOnto [] .nothing bs

/-- A text from characters of which every one was readable. -/
def strictOnto : List Char → List (Option Char) → Option (List Char)
  | found, [] => some found.reverse
  | _, none :: _ => none
  | found, some c :: rest => strictOnto (c :: found) rest

/-- The text the octets spell, or `none` if some piece is not UTF-8. -/
def decode? (bs : Octets) : Option String :=
  (strictOnto [] (decode bs)).map String.ofList

/-- The text the octets spell, with U+FFFD for each piece that is not UTF-8. -/
def decodeLossy (bs : Octets) : String :=
  String.ofList ((decode bs).map (·.getD '\uFFFD'))

end PlatformLink.Text
