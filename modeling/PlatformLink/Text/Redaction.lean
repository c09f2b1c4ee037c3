/-!
# Redaction of long tokens

A run of letters, digits, `_`, `.` and `-` of at least `tokenLength` characters may be a secret. It
is replaced as a whole by a marker; everything else stays in place.
-/

namespace PlatformLink.Text

def isTokenChar (c : Char) : Bool :=
  c.isAlphanum || c == '_' || c == '.' || c == '-'

def tokenLength : Nat := 32

def redactionMarker : List Char := "[REDACTED]".toList

/-- What is written for a maximal run; both the run and its replacement are in reverse. -/
def redactedRun (run : List Char) : List Char :=
  if tokenLength ≤ run.length then redactionMarker.reverse else run

/-- Redacts the rest of a text, with what is `done` and the open `run` in reverse. -/
def redactOnto : List Char → List Char → List Char → List Char
  | done, run, [] => (redactedRun run ++ done).reverse
  | done, run, c :: rest =>
    if isTokenChar c then redactOnto done (c :: run) rest
    else redactOnto (c :: (redactedRun run ++ done)) [] rest

theorem redactOnto_eq (done run cs : List Char) :
    redactOnto done run cs = done.reverse ++ redactOnto [] run cs := by
  induction cs generalizing done run with
  | nil => simp [redactOnto]
  | cons c rest ih =>
    by_cases h : isTokenChar c
    · simp only [redactOnto, h, if_true]
      exact ih done (c :: run)
    · simp only [redactOnto, h, if_false, Bool.false_eq_true]
      rw [ih, ih (c :: (redactedRun run ++ []))]
      simp

/-- The text with every long run of token characters replaced. -/
def redact (s : String) : String :=
  String.ofList (redactOnto [] [] s.toList)

end PlatformLink.Text
