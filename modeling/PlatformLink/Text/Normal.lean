import PlatformLink.Text.Normal.Data

/-!
# The normal form of a text

A character with a mark can be spelled as one character or as several, and marks that do not meet
can follow in any order. In the normal form (NFC) characters are first taken apart, marks are put in
the order of their classes, and what can be put together is put together from left to right. A mark
is not moved past another of its class, and joins a letter only if no mark of its class or a higher
one, and no letter, stands between.

The syllables of Hangul are the combinations of 19 leading consonants, 21 vowels and 28 trailing
consonants, the first of which is none.
-/

namespace PlatformLink.Text

def isAscii (c : Char) : Bool :=
  c.toNat < 0x80

/-- The class of a mark; zero for any other character. -/
def combiningClass (c : Char) : Nat :=
  if isAscii c then 0
  else ((classes.find? fun p => p.2.contains c.toNat).map (·.1)).getD 0

/-- Whether a mark takes its vowel from the consonant before it. -/
def isVirama (c : Char) : Bool :=
  combiningClass c == 9

/-! ## Hangul -/

def firstSyllable : Nat := 0xAC00
def firstLeading : Nat := 0x1100
def firstVowel : Nat := 0x1161

/-- The code that stands for no trailing consonant; those of the others follow it. -/
def noTrailing : Nat := 0x11A7

/-- The parts of a syllable. -/
def syllableParts? (n : Nat) : Option (List Nat) :=
  if firstSyllable ≤ n ∧ n < firstSyllable + 19 * 21 * 28 then
    let i := n - firstSyllable
    let opening := [firstLeading + i / (21 * 28), firstVowel + i / 28 % 21]
    some (if i % 28 = 0 then opening else opening ++ [noTrailing + i % 28])
  else none

/-- The syllable of a leading consonant and a vowel, or of a syllable and a trailing consonant. -/
def syllable? (a b : Nat) : Option Nat :=
  if firstLeading ≤ a ∧ a < firstLeading + 19 ∧ firstVowel ≤ b ∧ b < firstVowel + 21 then
    some (firstSyllable + ((a - firstLeading) * 21 + (b - firstVowel)) * 28)
  else if firstSyllable ≤ a ∧ a < firstSyllable + 19 * 21 * 28 ∧ (a - firstSyllable) % 28 = 0 ∧
      noTrailing < b ∧ b < noTrailing + 28 then
    some (a + (b - noTrailing))
  else none

/-! ## Taking apart and putting together -/

/-- The characters for which a character stands. -/
def decomposed (c : Char) : List Char :=
  if isAscii c then [c]
  else match syllableParts? c.toNat, decompositions.find? c.toNat with
    | some parts, _ => parts.map Char.ofNat
    | none, some parts => parts.map Char.ofNat
    | none, none => [c]

/-- The characters that are put together, each with the codes of its parts. -/
def compositions : List (List Nat × Nat) :=
  decompositions.filterMap fun e =>
    if 1 < e.targets.length && !excluded.contains e.codes.first then
      some (e.targets, e.codes.first)
    else none

/-- The character that stands for two, of which the first may stand for several itself. -/
def composed? (a b : Char) : Option Char :=
  match syllable? a.toNat b.toNat with
  | some n => some (Char.ofNat n)
  | none =>
    let parts := (decomposed a ++ [b]).map Char.toNat
    (compositions.find? (·.1 == parts)).map fun p => Char.ofNat p.2

/-- Puts a character before others that are in order. -/
def orderMark (c : Char) : List Char → List Char
  | [] => [c]
  | d :: ds =>
    if combiningClass d ≠ 0 ∧ combiningClass d < combiningClass c then d :: orderMark c ds
    else c :: d :: ds

/-- A text that is put together: what is done, in reverse, the last letter with the marks that do
not join it, in reverse, and the class of the last of these. -/
structure Composing where
  done : List Char
  letter : Option Char
  marks : List Char
  lastClass : Nat

namespace Composing

def start : Composing := ⟨[], none, [], 0⟩

/-- What has been read, in reverse. -/
def all (s : Composing) : List Char :=
  s.marks ++ s.letter.toList ++ s.done

/-- Leaves a character beside the letter: a mark follows it, a letter takes its place. -/
def keep (s : Composing) (c : Char) : Composing :=
  if combiningClass c = 0 then ⟨s.all, some c, [], 0⟩
  else { s with marks := c :: s.marks, lastClass := combiningClass c }

def add (s : Composing) (c : Char) : Composing :=
  match s.letter with
  | none => s.keep c
  | some a =>
    if s.marks.isEmpty ∨ s.lastClass < combiningClass c then
      match composed? a c with
      | some p => { s with letter := some p }
      | none => s.keep c
    else s.keep c

end Composing

/-- The normal form. What is in ASCII is in its normal form. -/
def normalForm (cs : List Char) : List Char :=
  if cs.all isAscii then cs
  else ((((cs.flatMap decomposed).foldr orderMark []).foldl Composing.add .start).all).reverse

end PlatformLink.Text
