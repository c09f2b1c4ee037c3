import PlatformLink.Tenant
import PlatformLink.Web.Url.Parse

/-!
# Endpoint roots

All resources lie under the API version of a base URL, and under organization and environment where
a tenant is given. A slash at the end of the base URL, its query and its fragment do not count.
-/

namespace PlatformLink.Endpoint

open Web (Url)

def apiVersionPath : List String := ["api", "v1"]

/-- The texts that are added to the path of a base URL. -/
def rootTexts (tenant : Option Tenant) : List String :=
  match tenant with
  | none => apiVersionPath
  | some t => apiVersionPath ++ [t.organization, t.environment]

/-- The URL under which the resources of a tenant lie. -/
def root (baseUrl : String) (tenant : Option Tenant) : Outcome Url := do
  let base ← (Url.parse (Text.trim baseUrl)).mapError fun fault =>
    LinkError.configuration (.baseUrl baseUrl fault)
  match { base with query := none, fragment := none : Url }.extendPath? (rootTexts tenant) with
  | some u => .ok u
  | none => .error (.configuration (.baseUrlWithoutPath baseUrl))

end PlatformLink.Endpoint
