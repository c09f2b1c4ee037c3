import PlatformLink.Json.Record

/-!
# Diagnostics

Records that users of the library route to a sink of their own. The forwarding sink drops what is
below its least severity and passes everything else to the process log.
-/

namespace PlatformLink

/-- The levels of the process log. -/
inductive LogLevel where
  | debug
  | info
  | warn
  | error
  deriving Repr, DecidableEq

def LogLevel.text : LogLevel → String
  | .debug => "DEBUG"
  | .info => "INFO"
  | .warn => "WARN"
  | .error => "ERROR"

/-- A line of the process log; `target` names the part of the program that wrote it, if known. -/
structure LogLine where
  level : LogLevel
  target : Option String
  text : String
  deriving Repr, DecidableEq

inductive LogSeverity where
  | verbose
  | information
  | warning
  | error
  | critical
  deriving Repr, DecidableEq

namespace LogSeverity

def rank : LogSeverity → Nat
  | verbose => 0
  | information => 1
  | warning => 2
  | error => 3
  | critical => 4

instance : LE LogSeverity := ⟨fun a b => a.rank ≤ b.rank⟩

instance (a b : LogSeverity) : Decidable (a ≤ b) := inferInstanceAs (Decidable (a.rank ≤ b.rank))

def name : LogSeverity → String
  | verbose => "Verbose"
  | information => "Information"
  | warning => "Warning"
  | error => "Error"
  | critical => "Critical"

def all : List LogSeverity := [verbose, information, warning, error, critical]

/-- The process log knows no level above error. -/
def level : LogSeverity → LogLevel
  | verbose => .debug
  | information => .info
  | warning => .warn
  | error | critical => .error

def codec : Json.Codec LogSeverity :=
  .choice (all.map fun s => (s.name, s)) name

end LogSeverity

structure LogRecord where
  severity : LogSeverity
  message : String
  location : Option String
  deriving Repr, DecidableEq

namespace LogRecord

def codec : Json.Codec LogRecord :=
  .record "LogRecord"
    (.cons (.required "severity" LogSeverity.codec) <|
      .cons (.required "message" .text) <|
      .cons (.nullable "location" .text) .nil)
    (fun r => (r.severity, r.message, r.location, ()))
    (fun (severity, message, location, ()) => ⟨severity, message, location⟩)

/-- The message, after its location in brackets if it has one. -/
def text (r : LogRecord) : String :=
  match r.location with
  | some l => "[" ++ l ++ "] " ++ r.message
  | none => r.message

end LogRecord

/-- Where records go. -/
inductive LogSink where
  | noop
  | forwarding (least : LogSeverity)
  deriving Repr, DecidableEq

namespace LogSink

def standard : LogSink := .forwarding .information

def target : String := "nexus_link"

/-- What a record adds to the process log. -/
def log : LogSink → LogRecord → List LogLine
  | .noop, _ => []
  | .forwarding least, r =>
    if least ≤ r.severity then [⟨r.severity.level, some target, r.text⟩] else []

end LogSink

end PlatformLink
