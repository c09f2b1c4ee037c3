import PlatformLink.Duration
import PlatformLink.Json.Error
import PlatformLink.Json.View
import PlatformLink.Validation
import PlatformLink.Web.Header
import PlatformLink.Web.UrlFault

/-!
# Errors

An error of this library is a cause; its wording is a function of the cause. Kinds that callers tell
apart are constructors, and what is checked by the library itself has a cause of its own inside a
kind. Every kind that can also come from outside holds a plain text as well.
-/

namespace PlatformLink

inductive RequestFault where
  | channelClosed
  | reported (text : String)
  deriving Repr, DecidableEq

def RequestFault.message : RequestFault → String
  | .channelClosed => "event channel is closed"
  | .reported text => text

inductive ParseFault where
  | value (e : Json.DecodeError)
  | body (e : Json.DecodeError)
  | item (queue : String) (e : Json.DecodeError)
  | reported (text : String)
  deriving Repr, DecidableEq

def ParseFault.message : ParseFault → String
  | .value e => e.message
  | .body e => "Failed to parse response body: " ++ e.message
  | .item queue e =>
    "queue '" ++ queue ++ "' holds a message that is not a valid item: " ++ e.message
  | .reported text => text

/-- What is not there. -/
inductive Missing where
  | queue (name : String)
  | directory (name : String)
  | file (uri : String)
  | summary (key : String)
  | reported (text : String)
  deriving Repr, DecidableEq

def Missing.message : Missing → String
  | .queue name => "queue '" ++ name ++ "' has not been created"
  | .directory name => "directory '" ++ name ++ "' was deleted"
  | .file uri => "file '" ++ uri ++ "' no longer exists"
  | .summary key => "summary " ++ key ++ " does not exist"
  | .reported text => text

/-- What is there already. -/
inductive Taken where
  | summary (key : String)
  | reported (text : String)
  deriving Repr, DecidableEq

def Taken.message : Taken → String
  | .summary key => "summary " ++ key ++ " already exists"
  | .reported text => text

inductive ValidationFault where
  | rule (fault : TextFault)
  | commaInRole (role : String)
  | header (fault : Web.HeaderFault)
  | emptyId (service subject : String)
  | limitZero (service : String)
  | eventNotObject
  | messageTooLong (length most : Nat)
  | delayOutOfRange (delay : Duration)
  | directoryNotAddressable (name : String) (fault : Web.UrlFault)
  | reported (text : String)
  deriving Repr, DecidableEq

def ValidationFault.message : ValidationFault → String
  | .rule fault => fault.message
  | .commaInRole role => "role '" ++ role ++ "' cannot contain ','"
  | .header fault => fault.message
  | .emptyId service subject => service ++ ": " ++ subject ++ " cannot be empty"
  | .limitZero service => service ++ ": limit must be greater than 0"
  | .eventNotObject => "events must serialize to a JSON object"
  | .messageTooLong length most =>
    "message of " ++ toString length ++ " bytes exceeds the " ++ toString most ++ " byte limit"
  | .delayOutOfRange delay => "visibility delay of " ++ delay.text ++ " is out of range"
  | .directoryNotAddressable name fault =>
    "directory name '" ++ name ++ "' is not addressable: " ++ fault.message
  | .reported text => text

inductive ConfigurationFault where
  | baseUrl (text : String) (fault : Web.UrlFault)
  | baseUrlWithoutPath (text : String)
  | transport
  | credentials
  | serviceMissing (service : String)
  | unset (setting : String)
  | setTogether (first second : String)
  | notSeconds (setting : String)
  | reported (text : String)
  deriving Repr, DecidableEq

def ConfigurationFault.message : ConfigurationFault → String
  | .baseUrl text fault => "invalid base URL '" ++ text ++ "': " ++ fault.message
  | .baseUrlWithoutPath text => "base URL '" ++ text ++ "' cannot have a path"
  | .transport =>
    "failed to create HTTP client: builder error: failed to parse header value"
  | .credentials => "credentials contain invalid header characters"
  | .serviceMissing service => "workflow capability is missing the " ++ service ++ " service"
  | .unset setting => setting ++ " is not set"
  | .setTogether first second => first ++ " and " ++ second ++ " must be set together"
  | .notSeconds setting => setting ++ " must be a whole number of seconds"
  | .reported text => text

inductive StorageFault where
  | fileNotAddressable (name : String) (fault : Web.UrlFault)
  | reported (text : String)
  deriving Repr, DecidableEq

def StorageFault.message : StorageFault → String
  | .fileNotAddressable name fault => "cannot address file '" ++ name ++ "': " ++ fault.message
  | .reported text => text

/-- Where an error arose, and the text of the error under it. -/
structure Origin where
  location : Option String
  source : Option String
  deriving Repr, DecidableEq, Inhabited

def Origin.unknown : Origin := ⟨none, none⟩

inductive LinkError where
  | request (fault : RequestFault) (details : Option String) (origin : Origin)
  | parse (fault : ParseFault) (sourceText : Option String) (origin : Origin)
  | api (status : UInt16) (text : String) (location : Option String)
  | notFound (what : Missing)
  | conflict (what : Taken)
  | rateLimited (retryAfter : Option Duration)
  | unauthenticated
  | forbidden (allowed : String)
  | cancelled
  | validation (fault : ValidationFault)
  | configuration (fault : ConfigurationFault)
  | storage (entity : String) (fault : StorageFault) (location : Option String)
  deriving Repr, DecidableEq

namespace LinkError

/-- A duration that may be absent. -/
def delayText : Option Duration → String
  | none => "None"
  | some d => "Some(" ++ d.text ++ ")"

def message : LinkError → String
  | .request fault _ _ => "Request failed: " ++ fault.message
  | .parse fault _ _ => "Failed to parse response: " ++ fault.message
  | .api status text _ => "Service returned error: " ++ toString status.toNat ++ " - " ++ text
  | .notFound what => "Not found: " ++ what.message
  | .conflict what => "Conflict: " ++ what.message
  | .rateLimited retryAfter => "Rate limited: retry after " ++ delayText retryAfter
  | .unauthenticated => "Caller is not authenticated"
  | .forbidden allowed => "Caller lacks a required role; allowed roles: " ++ allowed
  | .cancelled => "Operation was cancelled"
  | .validation fault => "Validation error: " ++ fault.message
  | .configuration fault => "Configuration error: " ++ fault.message
  | .storage entity fault _ => "Storage error: " ++ entity ++ ": " ++ fault.message

/-- The name of its kind. -/
def kind : LinkError → String
  | .request .. => "Request"
  | .parse .. => "Parse"
  | .api .. => "Api"
  | .notFound _ => "NotFound"
  | .conflict _ => "Conflict"
  | .rateLimited _ => "RateLimited"
  | .unauthenticated => "Unauthenticated"
  | .forbidden _ => "Forbidden"
  | .cancelled => "Cancelled"
  | .validation _ => "Validation"
  | .configuration _ => "Configuration"
  | .storage .. => "Storage"

def location : LinkError → Option String
  | .request _ _ origin => origin.location
  | .parse _ _ origin => origin.location
  | .api _ _ location => location
  | .storage _ _ location => location
  | _ => none

def source : LinkError → Option String
  | .request _ _ origin => origin.source
  | .parse _ _ origin => origin.source
  | _ => none

/-- The one kind that a caller may recover from by updating instead of creating. -/
def isConflict : LinkError → Bool
  | .conflict _ => true
  | _ => false

/-- What is logged of an error when it is raised. -/
def logText (e : LinkError) : String :=
  match e.location with
  | some l => e.message ++ " at " ++ l
  | none => e.message

/-- What is told of an error beside its kind and message. -/
def details : LinkError → List (String × Json)
  | .request _ details _ => [("details", .ofOption .str details)]
  | .parse _ sourceText _ => [("source_text", .ofOption .str sourceText)]
  | .api status _ _ => [("status", .ofNat status.toNat)]
  | .rateLimited retryAfter => [("retry_after", .ofOption (.ofNat ·.seconds) retryAfter)]
  | .forbidden allowed => [("allowed", .str allowed)]
  | .storage entity _ _ => [("entity", .str entity)]
  | _ => []

/-- The error as a value, for reports. -/
def toJson (e : LinkError) : Json :=
  .object ([("error", .str e.kind), ("message", .str e.message)] ++ e.details)

/-- A value that could not be read. -/
def undecoded (e : Json.DecodeError) : LinkError :=
  .parse (.value e) none ⟨none, some e.message⟩

/-- A text that breaks a rule. -/
def invalid (fault : TextFault) : LinkError :=
  .validation (.rule fault)

end LinkError

/-- The result of what this library does. -/
abbrev Outcome := Except LinkError

end PlatformLink
