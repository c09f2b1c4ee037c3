import PlatformLink.Error
import PlatformLink.Json.Record

/-!
# Tenants and credentials

A tenant is an organization in one of its environments; both name one segment of a path. Credentials
hold a bearer token, and no text about them shows it.
-/

namespace PlatformLink

structure Tenant where
  organization : String
  environment : String
  deriving Repr, DecidableEq

namespace Tenant

def readSegment (subject s : String) : Outcome String :=
  (do Validation.noSlash subject (← Validation.notBlank subject s)).mapError LinkError.invalid

def new (organization environment : String) : Outcome Tenant := do
  return ⟨← readSegment "organization" organization, ← readSegment "environment" environment⟩

def text (t : Tenant) : String :=
  t.organization ++ "/" ++ t.environment

/-- The text for programmers. -/
def debugText (t : Tenant) : String :=
  "Tenant \x7b organization: " ++ Text.quoted t.organization ++ ", environment: " ++
    Text.quoted t.environment ++ " \x7d"

def codec : Json.Codec Tenant :=
  .record "Tenant"
    (.cons (.required "organization" .text) <| .cons (.required "environment" .text) .nil)
    (fun t => (t.organization, t.environment, ()))
    (fun (organization, environment, ()) => ⟨organization, environment⟩)

end Tenant

structure Credentials where
  token : String
  deriving DecidableEq

namespace Credentials

/-- The value of the header that authorizes a request. -/
def authorizationHeader (c : Credentials) : String :=
  "Bearer " ++ c.token

def text (_ : Credentials) : String :=
  "[REDACTED CREDENTIALS]"

def debugText (_ : Credentials) : String :=
  "SecureCredentials([REDACTED])"

end Credentials

end PlatformLink
