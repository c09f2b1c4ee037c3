import PlatformLink.Error
import PlatformLink.Workflow.Semaphore
import PlatformLink.Workflow.Summary

/-!
# The workflow capability

The workflow engine as an aggregate of services. Each service is a structure of operations in a
monad, so that a service over a client and one of another kind stand side by side. A capability is
assembled from single services; what is missing is named, the first in the order of the services.
-/

namespace PlatformLink.Workflow

inductive ServiceName where
  | activity
  | workflow
  | instances
  | form
  | version
  | log
  | semaphore
  | summary
  deriving Repr, DecidableEq

namespace ServiceName

def text : ServiceName → String
  | activity => "activity"
  | workflow => "workflow"
  | instances => "instance"
  | form => "form"
  | version => "version"
  | log => "log"
  | semaphore => "semaphore"
  | summary => "summary"

def all : List ServiceName :=
  [activity, workflow, instances, form, version, log, semaphore, summary]

end ServiceName

/-- An identifier that becomes part of a path may not be blank. -/
def checkId (service : ServiceName) (subject id : String) : Outcome Unit :=
  if Text.isBlank id then .error (.validation (.emptyId service.text subject)) else .ok ()

structure ActivityService (m : Type → Type) where
  read : (activityId : String) → m Activity
  success : (activityId : String) → Json → m Unit
  failed : (activityId : String) → ActivityFailure → m Unit

structure WorkflowService (m : Type → Type) where
  read : (instanceId : String) → m Workflow

structure InstanceService (m : Type → Type) where
  create : InstanceCreate → m Instance
  read : (instanceId : String) → m Instance
  update : Instance → m Instance

/-- Creating a form gives its id. -/
structure FormService (m : Type → Type) where
  create : FormCreate → m String
  read : (formId : String) → m Form
  update : Form → m Form

structure VersionService (m : Type → Type) where
  create : (formId : String) → VersionCreate → m Version
  read : (formId : String) → (majorVersion : UInt32) → m Version

/-- Creating an entry gives its id. -/
structure LogService (m : Type → Type) where
  create : LogCreate → m String
  readByParent : (parentId : String) → m (List LogEntry)

structure SemaphoreService (m : Type → Type) where
  raise : SemaphoreCreate → m SemaphoreHolder
  extend : (holderId : String) → (expirationSeconds : UInt64) → m SemaphoreHolder
  lower : (holderId : String) → m Unit

structure SummaryService (m : Type → Type) where
  read : SummaryKey → m WorkflowSummary

structure Capability (m : Type → Type) where
  activity : ActivityService m
  workflow : WorkflowService m
  instances : InstanceService m
  form : FormService m
  version : VersionService m
  log : LogService m
  semaphore : SemaphoreService m
  summary : SummaryService m

/-- A capability of which some services may still be missing. -/
structure CapabilityParts (m : Type → Type) where
  activity : Option (ActivityService m)
  workflow : Option (WorkflowService m)
  instances : Option (InstanceService m)
  form : Option (FormService m)
  version : Option (VersionService m)
  log : Option (LogService m)
  semaphore : Option (SemaphoreService m)
  summary : Option (SummaryService m)

def require {α : Type} (service : ServiceName) : Option α → Outcome α
  | some x => .ok x
  | none => .error (.configuration (.serviceMissing service.text))

namespace CapabilityParts

variable {m : Type → Type}

def none : CapabilityParts m :=
  ⟨.none, .none, .none, .none, .none, .none, .none, .none⟩

def ofCapability (c : Capability m) : CapabilityParts m :=
  ⟨some c.activity, some c.workflow, some c.instances, some c.form, some c.version, some c.log,
    some c.semaphore, some c.summary⟩

/-- Takes one service from another capability. -/
def override (p : CapabilityParts m) (service : ServiceName) (c : Capability m) :
    CapabilityParts m :=
  match service with
  | .activity => { p with activity := some c.activity }
  | .workflow => { p with workflow := some c.workflow }
  | .instances => { p with instances := some c.instances }
  | .form => { p with form := some c.form }
  | .version => { p with version := some c.version }
  | .log => { p with log := some c.log }
  | .semaphore => { p with semaphore := some c.semaphore }
  | .summary => { p with summary := some c.summary }

def build (p : CapabilityParts m) : Outcome (Capability m) := do
  return {
    activity := ← require .activity p.activity
    workflow := ← require .workflow p.workflow
    instances := ← require .instances p.instances
    form := ← require .form p.form
    version := ← require .version p.version
    log := ← require .log p.log
    semaphore := ← require .semaphore p.semaphore
    summary := ← require .summary p.summary }

theorem build_ofCapability (c : Capability m) : (ofCapability c).build = .ok c := rfl

end CapabilityParts

end PlatformLink.Workflow
