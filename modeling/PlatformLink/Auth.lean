import PlatformLink.Diagnostics
import PlatformLink.Error
import PlatformLink.Text.Split

/-!
# Role guards

A guard declares the roles that an endpoint accepts; the super administrator is always accepted as
well. Role names compare up to the case of ASCII letters, and blanks around them do not count.
-/

namespace PlatformLink

def superAdminRole : String := "SuperAdmin"

/-- Whether a list has a role, up to case. -/
def hasRole (roles : List String) (role : String) : Bool :=
  roles.any (Text.eqIgnoringCase · role)

/-- What a hosting service knows about a caller. -/
structure CallerClaims where
  subject : Option String
  roles : List String
  deriving Repr, DecidableEq

namespace CallerClaims

def anonymous : CallerClaims := ⟨none, []⟩

/-- A known caller; roles are trimmed and blank ones dropped. -/
def authenticated (subject : String) (roles : List String) : CallerClaims :=
  ⟨some subject, (roles.map Text.trim).filter fun r => !r.isEmpty⟩

/-- A known caller with roles from a header value, separated by commas. -/
def ofRoleHeader (subject header : String) : CallerClaims :=
  authenticated subject (Text.split ',' header)

def isAuthenticated (c : CallerClaims) : Bool :=
  c.subject.isSome

def hasRole (c : CallerClaims) (role : String) : Bool :=
  PlatformLink.hasRole c.roles role

end CallerClaims

/-- The roles accepted, in order of declaration and with the super administrator last. -/
structure RoleGuard where
  roles : List String
  deriving Repr, DecidableEq

namespace RoleGuard

/-- A declared role, trimmed. -/
def readRole (role : String) : Outcome String := do
  let role ← (Validation.notBlank "role" role).mapError LinkError.invalid
  let role := Text.trim role
  if role.toList.contains ',' then .error (.validation (.commaInRole role)) else .ok role

/-- Adds declared roles to those accepted, leaving out the super administrator and repetitions. -/
def declare : List String → List String → Outcome (List String)
  | accepted, [] => .ok accepted
  | accepted, role :: rest => do
    let role ← readRole role
    if Text.eqIgnoringCase role superAdminRole || PlatformLink.hasRole accepted role then
      declare accepted rest
    else declare (accepted ++ [role]) rest

def new (roles : List String) : Outcome RoleGuard := do
  return ⟨(← declare [] roles) ++ [superAdminRole]⟩

def superAdminOnly : RoleGuard := ⟨[superAdminRole]⟩

theorem new_nil : new [] = .ok superAdminOnly := rfl

def roleList (g : RoleGuard) : String :=
  ",".intercalate g.roles

def allows (g : RoleGuard) (c : CallerClaims) : Bool :=
  c.isAuthenticated && g.roles.any c.hasRole

def authorize (g : RoleGuard) (c : CallerClaims) : Outcome Unit :=
  if !c.isAuthenticated then .error .unauthenticated
  else if g.allows c then .ok ()
  else .error (.forbidden g.roleList)

/-- What a decision adds to the process log: a known caller who is denied. -/
def authorizeLog (g : RoleGuard) (c : CallerClaims) : List LogLine :=
  match c.subject with
  | some subject =>
    if g.allows c then []
    else [⟨.warn, none,
      "caller " ++ subject ++ " denied; requires one of [" ++ g.roleList ++ "]"⟩]
  | none => []

/-- Runs a handler for a caller who is authorized; otherwise the handler does not run. -/
def run {σ α : Type} (g : RoleGuard) (c : CallerClaims) (handler : σ → Outcome α × σ) (s : σ) :
    Outcome α × σ :=
  match g.authorize c with
  | .ok () => handler s
  | .error e => (.error e, s)

end RoleGuard

end PlatformLink
