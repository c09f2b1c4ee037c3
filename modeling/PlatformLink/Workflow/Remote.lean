import PlatformLink.Endpoint.Client
import PlatformLink.Workflow.Service

/-!
# Workflow services over a client

Each operation checks its identifiers and then sends one request to the resource that they name.
-/

namespace PlatformLink.Workflow

open Endpoint (Call Client)

namespace Remote

variable {σ : Type} (c : Client σ)

def checked {α : Type} (service : ServiceName) (subject id : String) (call : Call σ α) :
    Call σ α := do
  Call.ofOutcome (checkId service subject id)
  call

def activity : ActivityService (Call σ) where
  read id := checked .activity "activity id" id <|
    c.getJson Activity.codec ["Activities", id]
  success id result := checked .activity "activity id" id <|
    c.post ["Activities", id, "Success"] result
  failed id failure := checked .activity "activity id" id <|
    c.post ["Activities", id, "Failed"] (ActivityFailure.codec.toJson failure)

def workflow : WorkflowService (Call σ) where
  read id := checked .workflow "instance id" id <|
    c.getJson Workflow.codec ["Workflows", id]

def instances : InstanceService (Call σ) where
  create i := checked .instances "version id" i.versionId <|
    c.postJson Instance.codec ["Instances"] (InstanceCreate.codec.toJson i)
  read id := checked .instances "instance id" id <|
    c.getJson Instance.codec ["Instances", id]
  update i := checked .instances "instance id" i.id <|
    c.putJson Instance.codec ["Instances", i.id] (Instance.codec.toJson i)

def form : FormService (Call σ) where
  create f := checked .form "capability name" f.capabilityName <|
    c.postJson .text ["Forms"] (FormCreate.codec.toJson f)
  read id := checked .form "form id" id <|
    c.getJson Form.codec ["Forms", id]
  update f := checked .form "form id" f.id <|
    c.putJson Form.codec ["Forms", f.id] (Form.codec.toJson f)

def version : VersionService (Call σ) where
  create formId v := checked .version "form id" formId <|
    c.postJson Version.codec ["Forms", formId, "Versions"] (VersionCreate.codec.toJson v)
  read formId majorVersion := checked .version "form id" formId <|
    c.getJson Version.codec ["Forms", formId, "Versions", toString majorVersion.toNat]

def log : LogService (Call σ) where
  create l := checked .log "parent id" l.parentId <|
    c.postJson .text ["Logs"] (LogCreate.codec.toJson l)
  readByParent id := checked .log "parent id" id <|
    c.sendJson (.list LogEntry.codec) ((c.request .get ["Logs"]).query "parentId" id)

/-- The body of a request for more time. -/
def extension (expirationSeconds : UInt64) : Json :=
  .obj [("expirationSeconds", .ofUInt64 expirationSeconds)]

def semaphore : SemaphoreService (Call σ) where
  raise s := checked .semaphore "resource identifier" s.resourceIdentifier <| do
    if s.limit = 0 then
      Call.ofOutcome (.error (.validation (.limitZero ServiceName.semaphore.text)))
    c.postJson SemaphoreHolder.codec ["Semaphores"] (SemaphoreCreate.codec.toJson s)
  extend id seconds := checked .semaphore "holder id" id <|
    c.postJson SemaphoreHolder.codec ["Semaphores", id, "Extend"] (extension seconds)
  lower id := checked .semaphore "holder id" id <|
    c.sendEmpty (c.request .post ["Semaphores", id, "Lower"])

def checkKey (key : SummaryKey) : Outcome Unit := do
  checkId .summary "form id" key.formId
  checkId .summary "instance id" key.instanceId

/-- Where a summary lies. -/
def summaryPath (key : SummaryKey) : List String :=
  ["Summaries", key.formId, toString key.majorVersion.toNat, key.instanceId]

def summary : SummaryService (Call σ) where
  read key := do
    Call.ofOutcome (checkKey key)
    c.getJson WorkflowSummary.codec (summaryPath key)

def capability : Capability (Call σ) :=
  ⟨activity c, workflow c, instances c, form c, version c, log c, semaphore c, summary c⟩

end Remote

end PlatformLink.Workflow
