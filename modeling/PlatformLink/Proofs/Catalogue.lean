import PlatformLink.Catalogue
import PlatformLink.Proofs.Json.Candor

/-!
# Every type is read candidly

The names of the types that are exchanged, of their members and of their variants are far too short
to be tokens. So an error in reading any of them holds a token only in what it repeats.
-/

namespace PlatformLink

open Json Json.Codec Json.Members

theorem LogSeverity.candid_codec : LogSeverity.codec.Candid :=
  candid_choice (by decide) _

theorem LogRecord.candid_codec : LogRecord.codec.Candid :=
  candid_record (by decide) (by decide) <| candid_cons LogSeverity.candid_codec <|
    candid_cons candid_text <| candid_cons (candid_option candid_text) candid_nil

theorem HealthStatus.candid_codec : HealthStatus.codec.Candid :=
  Tagging.candid_codec ⟨by decide, by decide, by decide, by decide⟩

theorem Tenant.candid_codec : Tenant.codec.Candid :=
  candid_record (by decide) (by decide) <| candid_cons candid_text <|
    candid_cons candid_text candid_nil

theorem EventMetadata.candid_codec : EventMetadata.codec.Candid :=
  candid_record (by decide) (by decide) <| candid_cons candid_text <| candid_cons candid_text <|
    candid_cons candid_uint32 <| candid_cons candid_uint32 candid_nil

namespace Workflow

theorem FormCreate.candid_codec : FormCreate.codec.Candid :=
  candid_record (by decide) (by decide) <| candid_cons candid_text <|
    candid_cons candid_text candid_nil

theorem Form.candid_codec : Form.codec.Candid :=
  candid_record (by decide) (by decide) <| candid_cons candid_text <| candid_cons candid_text <|
    candid_cons candid_text <| candid_cons (candid_option candid_text) candid_nil

theorem VersionCreate.candid_codec : VersionCreate.codec.Candid :=
  candid_record (by decide) (by decide) <| candid_cons candid_uint32 <|
    candid_cons candid_uint32 candid_nil

theorem Version.candid_codec : Version.codec.Candid :=
  candid_record (by decide) (by decide) <| candid_cons candid_text <| candid_cons candid_text <|
    candid_cons candid_uint32 <| candid_cons candid_uint32 candid_nil

theorem InstanceState.candid_codec : InstanceState.codec.Candid :=
  candid_choice (by decide) _

theorem InstanceCreate.candid_codec : InstanceCreate.codec.Candid :=
  candid_record (by decide) (by decide) <| candid_cons candid_text <|
    candid_cons candid_text candid_nil

theorem Instance.candid_codec : Instance.codec.Candid :=
  candid_record (by decide) (by decide) <| candid_cons candid_text <| candid_cons candid_text <|
    candid_cons candid_text <| candid_cons InstanceState.candid_codec <|
    candid_cons (candid_option candid_json) candid_nil

theorem ActivityState.candid_codec : ActivityState.codec.Candid :=
  candid_choice (by decide) _

theorem ActivityFailure.candid_codec : ActivityFailure.codec.Candid :=
  candid_record (by decide) (by decide) <| candid_cons candid_text <|
    candid_cons (candid_option candid_text) candid_nil

theorem Activity.candid_codec : Activity.codec.Candid :=
  candid_record (by decide) (by decide) <| candid_cons candid_text <| candid_cons candid_text <|
    candid_cons candid_text <| candid_cons ActivityState.candid_codec <|
    candid_cons (candid_option candid_json) <|
    candid_cons (candid_option ActivityFailure.candid_codec) candid_nil

theorem LogCreate.candid_codec : LogCreate.codec.Candid :=
  candid_record (by decide) (by decide) <| candid_cons candid_text <|
    candid_cons LogSeverity.candid_codec <| candid_cons candid_text <|
    candid_cons (candid_option candid_json) candid_nil

theorem LogEntry.candid_codec : LogEntry.codec.Candid :=
  candid_record (by decide) (by decide) <| candid_cons candid_text <| candid_cons candid_text <|
    candid_cons LogSeverity.candid_codec <| candid_cons candid_text <|
    candid_cons (candid_option candid_json) candid_nil

theorem candid_codec : Workflow.codec.Candid :=
  candid_record (by decide) (by decide) <| candid_cons Form.candid_codec <|
    candid_cons Version.candid_codec <| candid_cons Instance.candid_codec candid_nil

theorem SemaphoreCreate.candid_codec : SemaphoreCreate.codec.Candid :=
  candid_record (by decide) (by decide) <| candid_cons candid_text <| candid_cons candid_uint32 <|
    candid_cons candid_uint64 candid_nil

theorem SemaphoreHolder.candid_codec : SemaphoreHolder.codec.Candid :=
  candid_record (by decide) (by decide) <| candid_cons candid_text <| candid_cons candid_text <|
    candid_cons candid_uint64 candid_nil

theorem SummaryKey.candid_codec : SummaryKey.codec.Candid :=
  candid_record (by decide) (by decide) <| candid_cons candid_text <| candid_cons candid_uint32 <|
    candid_cons candid_text candid_nil

theorem WorkflowSummary.candid_codec : WorkflowSummary.codec.Candid :=
  candid_record (by decide) (by decide) <| candid_cons Form.candid_codec <|
    candid_cons Version.candid_codec <| candid_cons Instance.candid_codec <|
    candid_cons (candid_list Activity.candid_codec) candid_nil

end Workflow

namespace ExchangedType

open Workflow

/-- Every exchanged type has a candid codec. -/
theorem candid_of_mem_all : ∀ T ∈ all, T.2.codec.Candid := by
  simp only [all, List.forall_mem_cons]
  exact ⟨candid_json, candid_text, Form.candid_codec, FormCreate.candid_codec,
    Version.candid_codec, VersionCreate.candid_codec, Instance.candid_codec,
    InstanceCreate.candid_codec, InstanceState.candid_codec, Workflow.candid_codec,
    Activity.candid_codec, ActivityState.candid_codec, ActivityFailure.candid_codec,
    LogCreate.candid_codec, LogEntry.candid_codec, candid_list LogEntry.candid_codec,
    LogRecord.candid_codec, LogSeverity.candid_codec, SemaphoreCreate.candid_codec,
    SemaphoreHolder.candid_codec, SummaryKey.candid_codec, WorkflowSummary.candid_codec,
    EventMetadata.candid_codec, HealthStatus.candid_codec, Tenant.candid_codec,
    List.forall_mem_nil _⟩

end ExchangedType

end PlatformLink
