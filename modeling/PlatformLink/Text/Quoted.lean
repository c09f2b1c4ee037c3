import PlatformLink.Text.Unshown

/-!
# Quoted text

A text between quotes on one line: `"` and the backslash are escaped, as are tab, line feed,
carriage return and the character of code zero, each by one letter; every other character that does
not show by itself is written by its code in braces.
-/

namespace PlatformLink.Text

/-- The digits of `n` to base sixteen, small letters. -/
def hexDigits (n : Nat) : String :=
  String.ofList (Nat.toDigits 16 n)

def quotedChar (c : Char) : String :=
  if c = '"' then "\\\""
  else if c = '\\' then "\\\\"
  else if c = '\t' then "\\t"
  else if c = '\r' then "\\r"
  else if c = '\n' then "\\n"
  else if c = '\x00' then "\\0"
  else if isUnshown c then "\\u\x7b" ++ hexDigits c.toNat ++ "\x7d"
  else String.singleton c

/-- The text between quotes. -/
def quoted (s : String) : String :=
  "\"" ++ String.join (s.toList.map quotedChar) ++ "\""

end PlatformLink.Text
