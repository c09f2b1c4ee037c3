import PlatformLink.Text.Blank
import PlatformLink.Text.Utf8

/-!
# Validation of texts

Each rule gives the text back unchanged or says how the named parameter breaks it. The rule for
entity names asks the shared rules first, so of several faults the earliest in the order blank, too
long, only dots, forbidden character is reported.
-/

namespace PlatformLink

/-- How a text breaks a rule; `subject` is the name of what was checked. -/
inductive TextFault where
  | blank (subject : String)
  | tooLong (subject : String) (most : Nat)
  | onlyDots (subject : String)
  | forbiddenCharacter (subject : String)
  | slash (subject : String)
  deriving Repr, DecidableEq

def TextFault.message : TextFault → String
  | .blank p => p ++ " cannot be blank"
  | .tooLong p n => p ++ " must be at most " ++ toString n ++ " characters"
  | .onlyDots p => p ++ " cannot consist only of dots"
  | .forbiddenCharacter p =>
    p ++ " may only contain letters, digits, '-', '_' and '.'"
  | .slash p => p ++ " cannot contain '/'"

namespace Validation

/-- Keeps a text of which a condition holds. -/
def ensure {ε : Type} (ok : String → Bool) (fault : ε) (s : String) : Except ε String :=
  if ok s then .ok s else .error fault

theorem ensure_eq_ok_iff {ε : Type} (ok : String → Bool) (fault : ε) (s t : String) :
    ensure ok fault s = .ok t ↔ ok s ∧ s = t := by
  unfold ensure
  by_cases h : ok s <;> simp [h]

def notBlank (subject s : String) : Except TextFault String :=
  ensure (fun s => !Text.isBlank s) (.blank subject) s

/-- The bound is on the octets of the text. -/
def atMost (most : Nat) (subject s : String) : Except TextFault String :=
  ensure (fun s => Text.octetLength s ≤ most) (.tooLong subject most) s

def noSlash (subject s : String) : Except TextFault String :=
  ensure (fun s => !s.toList.contains '/') (.slash subject) s

def isEntityNameChar (c : Char) : Bool :=
  c.isAlphanum || c == '-' || c == '_' || c == '.'

def entityNameLength : Nat := 63

/-- Names of queues, directories and files. -/
def entityName (subject s : String) : Except TextFault String := do
  let s ← notBlank subject s
  let s ← atMost entityNameLength subject s
  let s ← ensure (fun s => !s.toList.all (· == '.')) (.onlyDots subject) s
  ensure (fun s => s.toList.all isEntityNameChar) (.forbiddenCharacter subject) s

end Validation

end PlatformLink
