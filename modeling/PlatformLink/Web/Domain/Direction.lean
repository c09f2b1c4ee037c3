import PlatformLink.Text.Mark

/-!
# Directions of labels

The name of a domain in which a character runs from right to left has labels that each run one way:
a label begins with a letter, which gives its direction, ends in a letter of that direction or a
digit, and holds no letter of the other direction.

The tables list characters that may occur in the name of a domain (Unicode 18); what lies between
the ends of a range and may not occur there does not count.
-/

namespace PlatformLink.Web

/-- How a character takes part in the direction of its label. -/
inductive Direction where
  | rightward
  | leftward
  | digit
  | arabicDigit
  | neutral
  | mark
  deriving Repr, DecidableEq

/-- Letters that run from right to left. -/
def leftwardLetterText : String :=
  "5BE 5C0 5C3 5C6 5D0-5F4 608 60B 60D 61B-64A 66D-66F 671-6D5 6E5-6E6 6EE-6EF 6FA-710 712-72F
  74D-7A5 7B1-7EA 7F4-7F5 7FA 7FE-815 81A 824 828 830-858 85E-88F 8A0-8C9 FBB2-FBC2 FE73
  10800-1091B 10920-10A00 10A10-10A35 10A40-10AE4 10AEB-10B35 10B40-10D23 10D40-10D4F 10D6F-10D8F
  10E80-10EA9 10EAD-10EC7 10F00-10F45 10F51-10F81 10F86-10FF6 1E800-1E8CF 1E922-1E943 1E94B-1ED3D"

/-- Digits of Arabic numbers. -/
def arabicDigitText : String :=
  "660-669 66B-66C 10D30-10D39 10E60-10E7E"

/-- Digits of other numbers that keep their direction anywhere. -/
def digitText : String :=
  "6F0-6F9 102E1-102FB"

/-- Characters that take the direction of what is beside them. -/
def neutralText : String :=
  "A1-D7 F7 2B9-2BA 2C2-2CF 2D2-2ED 2EF-2FF 375 3F6 58A-58F 606-607 609-60A 60C 60E-60F 66A 6DE 6E9
  7F6-7F9 9F2-9F3 9FB AF1 BF3-BFA C78-C7E E3F F3A-F3D 1390-1399 1400 169B-169C 17DB 17F0-180A
  1940-1945 19DE-19FF 200C-20C3 2104-214D 218A-2335 237B-2394 2396-26AB 26AD-27FF 2900-2BFF
  2CE5-2CEA 2CF9-2CFF 2E00-3004 3008-3020 3030 3037 303D-303F 30A0 30FB 31C0-31E5 4DC0-4DFF
  A490-A4C6 A60D-A60F A673 A67E-A67F A700-A721 A788 A828-A82B A838-A839 A874-A877 AB6A-AB6B
  FBC3-FDFF FE45-FE46 10101 10140-1018C 10190-101A0 1091F 10B39-10B3F 10D6E 10ED0-10ED8
  11052-11065 11660-1166C 11FD5-11FF1 16FE2 1CC00-1CEFD 1D1E9-1D241 1D245 1D300-1D356 1DB00-1DB1C
  1E2FF 1EEF0-1F12F 1F16D-1F16F 1F1AD 1F260-1FBFA"

/-- Marks that run from left to right as their letters do. -/
def rightwardMarkText : String :=
  "CBF CC6 11A07 11A08 11C3F"

def leftwardLetters : Text.CodeSet :=
  Text.CodeSet.ofText leftwardLetterText

def arabicDigits : Text.CodeSet :=
  Text.CodeSet.ofText arabicDigitText

def digits : Text.CodeSet :=
  Text.CodeSet.ofText digitText

def neutrals : Text.CodeSet :=
  Text.CodeSet.ofText neutralText

def rightwardMarks : Text.CodeSet :=
  Text.CodeSet.ofText rightwardMarkText

def Direction.of (c : Char) : Direction :=
  let n := c.toNat
  if n < 0x80 then
    if c.isAlpha then .rightward else if c.isDigit then .digit else .neutral
  else if leftwardLetters.contains n then .leftward
  else if arabicDigits.contains n then .arabicDigit
  else if digits.contains n then .digit
  else if neutrals.contains n then .neutral
  else if Text.isNonspacing c && !rightwardMarks.contains n then .mark
  else .rightward

/-- Whether the direction of labels has to be looked at because of a character. -/
def Direction.matters : Direction → Bool
  | .leftward | .arabicDigit => true
  | _ => false

/-- Whether what follows the first letter of a label, without marks at its end, fits a label that
runs from left to right. -/
def fitsRightward (rest : List Direction) : Bool :=
  rest.all (fun d => d != .leftward && d != .arabicDigit) &&
    match rest.getLast? with
    | none | some .rightward | some .digit => true
    | some _ => false

/-- The same for a label that runs from right to left, whose numbers are all of one kind. -/
def fitsLeftward (rest : List Direction) : Bool :=
  rest.all (· != .rightward) && !(rest.contains .digit && rest.contains .arabicDigit) &&
    match rest.getLast? with
    | none | some .leftward | some .digit | some .arabicDigit => true
    | some _ => false

/-- Whether a label runs one way. -/
def runsOneWay (label : List Char) : Bool :=
  match label.map Direction.of with
  | [] => true
  | first :: rest =>
    let rest := (rest.reverse.dropWhile (· == .mark)).reverse
    match first with
    | .rightward => fitsRightward rest
    | .leftward => fitsLeftward rest
    | _ => false

end PlatformLink.Web
