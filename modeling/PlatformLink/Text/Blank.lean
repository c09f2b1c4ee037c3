/-!
# Blank characters

The characters with the Unicode property `White_Space`, and trimming by them. A text is blank when
nothing of it is left after trimming, the empty text included.
-/

namespace PlatformLink.Text

def isBlankChar (c : Char) : Bool :=
  let n := c.toNat
  (9 ≤ n && n ≤ 13) || n == 32 || n == 0x85 || n == 0xA0 || n == 0x1680 ||
    (0x2000 ≤ n && n ≤ 0x200A) || n == 0x2028 || n == 0x2029 || n == 0x202F || n == 0x205F ||
    n == 0x3000

/-- Drops the characters at both ends that `drop` accepts. -/
def trimBoth (drop : Char → Bool) (cs : List Char) : List Char :=
  ((cs.dropWhile drop).reverse.dropWhile drop).reverse

/-- The text without the blank characters at its two ends. -/
def trim (s : String) : String :=
  String.ofList (trimBoth isBlankChar s.toList)

def isBlank (s : String) : Bool :=
  s.toList.all isBlankChar

/-- Letters `A` to `Z` become small; every other character stays. -/
def lowerAscii (s : String) : String :=
  String.ofList (s.toList.map Char.toLower)

/-- Equality up to the case of the letters `A` to `Z`. -/
def eqIgnoringCase (a b : String) : Bool :=
  lowerAscii a == lowerAscii b

theorem eqIgnoringCase_refl (a : String) : eqIgnoringCase a a = true := by
  simp [eqIgnoringCase]

theorem eqIgnoringCase_comm (a b : String) : eqIgnoringCase a b = eqIgnoringCase b a := by
  simp only [eqIgnoringCase, BEq.comm]

end PlatformLink.Text
