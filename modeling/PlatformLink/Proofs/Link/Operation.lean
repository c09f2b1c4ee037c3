import PlatformLink.Event.Remote
import PlatformLink.Workflow.SummaryStore

/-!
# The operations over a client

Everything that a link does over its client: the operations of the workflow services, those of the
summary store and publishing. As data, an operation with its arguments can be quantified over and
run over any client.
-/

namespace PlatformLink

open Endpoint (Call Client)
open Event (Cancellation)
open Workflow

inductive Operation : Type → Type where
  | readActivity (activityId : String) : Operation Activity
  | succeedActivity (activityId : String) (result : Json) : Operation Unit
  | failActivity (activityId : String) (failure : ActivityFailure) : Operation Unit
  | readWorkflow (instanceId : String) : Operation Workflow
  | createInstance (i : InstanceCreate) : Operation Instance
  | readInstance (instanceId : String) : Operation Instance
  | updateInstance (i : Instance) : Operation Instance
  | createForm (f : FormCreate) : Operation String
  | readForm (formId : String) : Operation Form
  | updateForm (f : Form) : Operation Form
  | createVersion (formId : String) (v : VersionCreate) : Operation Version
  | readVersion (formId : String) (majorVersion : UInt32) : Operation Version
  | createLog (l : LogCreate) : Operation String
  | readLogs (parentId : String) : Operation (List LogEntry)
  | raiseSemaphore (s : SemaphoreCreate) : Operation SemaphoreHolder
  | extendSemaphore (holderId : String) (seconds : UInt64) : Operation SemaphoreHolder
  | lowerSemaphore (holderId : String) : Operation Unit
  | readSummary (key : SummaryKey) : Operation WorkflowSummary
  | createStored (key : SummaryKey) (s : WorkflowSummary) : Operation Unit
  | updateStored (key : SummaryKey) (s : WorkflowSummary) : Operation Unit
  | readStored (key : SummaryKey) : Operation (Option WorkflowSummary)
  | createOrUpdateStored (key : SummaryKey) (s : WorkflowSummary) : Operation Unit
  | publish (token : Cancellation) (event : Json) : Operation Unit
  | publishEvent (token : Cancellation) (e : Event) : Operation Unit

namespace Operation

variable {σ α : Type}

/-- An operation over a client. -/
def call (c : Client σ) : Operation α → Call σ α
  | readActivity id => (Remote.activity c).read id
  | succeedActivity id result => (Remote.activity c).success id result
  | failActivity id failure => (Remote.activity c).failed id failure
  | readWorkflow id => (Remote.workflow c).read id
  | createInstance i => (Remote.instances c).create i
  | readInstance id => (Remote.instances c).read id
  | updateInstance i => (Remote.instances c).update i
  | createForm f => (Remote.form c).create f
  | readForm id => (Remote.form c).read id
  | updateForm f => (Remote.form c).update f
  | createVersion formId v => (Remote.version c).create formId v
  | readVersion formId majorVersion => (Remote.version c).read formId majorVersion
  | createLog l => (Remote.log c).create l
  | readLogs id => (Remote.log c).readByParent id
  | raiseSemaphore s => (Remote.semaphore c).raise s
  | extendSemaphore id seconds => (Remote.semaphore c).extend id seconds
  | lowerSemaphore id => (Remote.semaphore c).lower id
  | readSummary key => (Remote.summary c).read key
  | createStored key s => (Remote.summaryStore c).create key s
  | updateStored key s => (Remote.summaryStore c).update key s
  | readStored key => (Remote.summaryStore c).read key
  | createOrUpdateStored key s => (Remote.summaryStore c).createOrUpdate key s
  | publish token event => Event.publishRemote c token event
  | publishEvent token e => e.publishBy (Event.publishRemote c token)

end Operation

end PlatformLink
