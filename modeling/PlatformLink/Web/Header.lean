/-!
# Headers

A header name is a token in small letters, so names are compared up to case; a value holds no
control character other than the tab. A request or a response has a list of headers, in which a name
may occur more than once only if values were appended.
-/

namespace PlatformLink.Web

structure HeaderName where
  text : String
  deriving Repr, DecidableEq

structure HeaderValue where
  text : String
  deriving Repr, DecidableEq

/-- Which part of a header is malformed. -/
inductive HeaderFault where
  | name (text : String)
  | value
  deriving Repr, DecidableEq

def HeaderFault.message : HeaderFault → String
  | .name text => "invalid header name '" ++ text ++ "': invalid HTTP header name"
  | .value => "invalid header value: failed to parse header value"

def isHeaderNameChar (c : Char) : Bool :=
  c.isAlphanum || "!\"#$%&'*+-.^_`|~".toList.contains c

def longestHeaderName : Nat := 65535

/-- The name that a text spells, in any case. -/
def HeaderName.parse (s : String) : Except HeaderFault HeaderName :=
  if s.toList ≠ [] ∧ s.length ≤ longestHeaderName ∧ s.toList.all isHeaderNameChar then
    .ok ⟨String.ofList (s.toList.map Char.toLower)⟩
  else .error (.name s)

def isHeaderValueChar (c : Char) : Bool :=
  (0x20 ≤ c.toNat && c.toNat ≠ 0x7F) || c == '\t'

def HeaderValue.parse (s : String) : Except HeaderFault HeaderValue :=
  if s.toList.all isHeaderValueChar then .ok ⟨s⟩ else .error .value

theorem HeaderValue.parse_eq_ok_iff (s : String) (v : HeaderValue) :
    HeaderValue.parse s = .ok v ↔ s.toList.all isHeaderValueChar ∧ v = ⟨s⟩ := by
  unfold HeaderValue.parse
  by_cases h : s.toList.all isHeaderValueChar
  · simp [h, eq_comm]
  · simp [h]

/-- Whether every character is visible ASCII, a space or a tab. -/
def HeaderValue.isVisible (v : HeaderValue) : Bool :=
  v.text.toList.all fun c => (0x20 ≤ c.toNat && c.toNat < 0x7F) || c == '\t'

namespace HeaderName

def accept : HeaderName := ⟨"accept"⟩

def authorization : HeaderName := ⟨"authorization"⟩

def retryAfter : HeaderName := ⟨"retry-after"⟩

def correlationId : HeaderName := ⟨"x-correlation-id"⟩

end HeaderName

abbrev Headers := List (HeaderName × HeaderValue)

namespace Headers

/-- The first value of a name. -/
def get? (hs : Headers) (name : HeaderName) : Option HeaderValue :=
  (hs.find? (·.1 = name)).map (·.2)

def contains (hs : Headers) (name : HeaderName) : Bool :=
  (get? hs name).isSome

def erase (hs : Headers) (name : HeaderName) : Headers :=
  hs.filter (·.1 ≠ name)

/-- Sets a name to one value, instead of all it had. -/
def insert (hs : Headers) (name : HeaderName) (value : HeaderValue) : Headers :=
  erase hs name ++ [(name, value)]

/-- Adds a value to those that a name has. -/
def append (hs : Headers) (name : HeaderName) (value : HeaderValue) : Headers :=
  hs ++ [(name, value)]

/-- Sets a name that has no value. -/
def insertIfAbsent (hs : Headers) (name : HeaderName) (value : HeaderValue) : Headers :=
  if contains hs name then hs else append hs name value

/-- Names and values in the order of the names, and of the values of one name. -/
def sorted (hs : Headers) : List (String × String) :=
  (hs.map fun h => (h.1.text, h.2.text)).mergeSort fun a b =>
    decide (a.1 < b.1 ∨ a.1 = b.1 ∧ a.2 ≤ b.2)

theorem find?_erase_of_ne (hs : Headers) {name other : HeaderName} (h : other ≠ name) :
    (erase hs name).find? (fun x => decide (x.1 = other)) =
      hs.find? (fun x => decide (x.1 = other)) := by
  rw [erase, List.find?_filter]
  congr 1
  funext x
  by_cases e : x.1 = other
  · simp [e, h]
  · simp [e]

end Headers

end PlatformLink.Web
