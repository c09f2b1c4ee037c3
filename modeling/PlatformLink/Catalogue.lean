import PlatformLink.Event.Metadata
import PlatformLink.Health
import PlatformLink.Tenant
import PlatformLink.Workflow.Semaphore
import PlatformLink.Workflow.Summary

/-!
# Types by name

The types whose values are exchanged as JSON, under the names by which tools refer to them, each
with what is told of a value beside its JSON.
-/

namespace PlatformLink

structure ExchangedType where
  Value : Type
  codec : Json.Codec Value
  details : Value → List (String × Json)

namespace ExchangedType

open Workflow

/-- A type of which nothing more is told. -/
def plain {α : Type} (codec : Json.Codec α) : ExchangedType :=
  ⟨α, codec, fun _ => []⟩

def summaryKey : ExchangedType :=
  ⟨SummaryKey, SummaryKey.codec, fun k => [("display", .str k.text)]⟩

def workflowSummary : ExchangedType :=
  ⟨WorkflowSummary, WorkflowSummary.codec, fun s =>
    [("key", SummaryKey.codec.toJson s.key), ("display", .str s.key.text)]⟩

def healthStatus : ExchangedType :=
  ⟨HealthStatus, HealthStatus.codec, fun h =>
    [("display", .str h.text), ("healthy", .bool h.isHealthy)]⟩

def logSeverity : ExchangedType :=
  ⟨LogSeverity, LogSeverity.codec, fun s =>
    [("level", .str s.level.text), ("at_least_warning", .bool (decide (LogSeverity.warning ≤ s)))]⟩

def tenant : ExchangedType :=
  ⟨Tenant, Tenant.codec, fun t => [("display", .str t.text)]⟩

def all : List (String × ExchangedType) :=
  [("value", plain .json),
    ("string", plain .text),
    ("form", plain Form.codec),
    ("form_create", plain FormCreate.codec),
    ("version", plain Version.codec),
    ("version_create", plain VersionCreate.codec),
    ("instance", plain Instance.codec),
    ("instance_create", plain InstanceCreate.codec),
    ("instance_state", plain InstanceState.codec),
    ("workflow", plain Workflow.codec),
    ("activity", plain Activity.codec),
    ("activity_state", plain ActivityState.codec),
    ("activity_failure", plain ActivityFailure.codec),
    ("log_create", plain LogCreate.codec),
    ("log_entry", plain LogEntry.codec),
    ("log_entries", plain (.list LogEntry.codec)),
    ("log_record", plain LogRecord.codec),
    ("log_severity", logSeverity),
    ("semaphore_create", plain SemaphoreCreate.codec),
    ("semaphore_holder", plain SemaphoreHolder.codec),
    ("summary_key", summaryKey),
    ("workflow_summary", workflowSummary),
    ("event_metadata", plain EventMetadata.codec),
    ("health_status", healthStatus),
    ("tenant", tenant)]

/-- The type of a name. -/
def named? (name : String) : Option ExchangedType :=
  (all.find? (·.1 == name)).map (·.2)

end ExchangedType

end PlatformLink
