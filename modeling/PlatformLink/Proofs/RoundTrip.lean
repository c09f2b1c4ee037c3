import PlatformLink.Catalogue
import PlatformLink.Proofs.Json.Assembled

/-!
# Every type is read as it was written

Each exchanged type has a faithful codec. The one thing that is asked of a value is that no member
of any JSON that may be missing holds `null`: it would be written as `null` and read as missing. A
value that was read meets this, so its text is canonical: it stands for the value, in whatever form
the value was first written.
-/

namespace PlatformLink

open Json Json.Codec Json.Field

theorem LogSeverity.faithful_codec : LogSeverity.codec.Faithful 0 fun _ => True :=
  faithful_choice (by rintro (_ | _ | _ | _ | _) <;> decide)

theorem LogRecord.faithful_codec : LogRecord.codec.Faithful 0 fun _ => True :=
  (faithful_record
    (.cons (faithful_required _ LogSeverity.faithful_codec) (by decide) <|
      .cons (faithful_required _ faithful_text) (by decide) <|
      .cons (faithful_nullable _ faithful_text solid_text) (by decide) .nil)
    (fun _ => rfl) (fun _ => rfl)).congr fun r => by simp [Codec.text]

theorem HealthStatus.faithful_codec : HealthStatus.codec.Faithful 0 fun _ => True :=
  Tagging.Lawful.faithful_codec
    { keys := by decide
      tags := by
        rintro (_ | s | s)
        · exact ⟨_, rfl, .bare _⟩
        · exact ⟨_, rfl, .carrying _ s⟩
        · exact ⟨_, rfl, .carrying _ s⟩ }

theorem Tenant.faithful_codec : Tenant.codec.Faithful 0 fun _ => True :=
  (faithful_record
    (.cons (faithful_required _ faithful_text) (by decide) <|
      .cons (faithful_required _ faithful_text) (by decide) .nil)
    (fun _ => rfl) (fun _ => rfl)).congr fun t => by simp

theorem EventMetadata.faithful_codec : EventMetadata.codec.Faithful 0 fun _ => True :=
  (faithful_record
    (.cons (faithful_required _ faithful_text) (by decide) <|
      .cons (faithful_required _ faithful_text) (by decide) <|
      .cons (faithful_required _ faithful_uint32) (by decide) <|
      .cons (faithful_required _ faithful_uint32) (by decide) .nil)
    (fun _ => rfl) (fun _ => rfl)).congr fun m => by simp

namespace Workflow

theorem FormCreate.faithful_codec : FormCreate.codec.Faithful 0 fun _ => True :=
  (faithful_record
    (.cons (faithful_required _ faithful_text) (by decide) <|
      .cons (faithful_required _ faithful_text) (by decide) .nil)
    (fun _ => rfl) (fun _ => rfl)).congr fun f => by simp

theorem Form.faithful_codec : Form.codec.Faithful 0 fun _ => True :=
  (faithful_record
    (.cons (faithful_required _ faithful_text) (by decide) <|
      .cons (faithful_required _ faithful_text) (by decide) <|
      .cons (faithful_required _ faithful_text) (by decide) <|
      .cons (faithful_optional_text _) (by decide) .nil)
    (fun _ => rfl) (fun _ => rfl)).congr fun f => by simp

theorem VersionCreate.faithful_codec : VersionCreate.codec.Faithful 0 fun _ => True :=
  (faithful_record
    (.cons (faithful_required _ faithful_uint32) (by decide) <|
      .cons (faithful_required _ faithful_uint32) (by decide) .nil)
    (fun _ => rfl) (fun _ => rfl)).congr fun v => by simp

theorem Version.faithful_codec : Version.codec.Faithful 0 fun _ => True :=
  (faithful_record
    (.cons (faithful_required _ faithful_text) (by decide) <|
      .cons (faithful_required _ faithful_text) (by decide) <|
      .cons (faithful_required _ faithful_uint32) (by decide) <|
      .cons (faithful_required _ faithful_uint32) (by decide) .nil)
    (fun _ => rfl) (fun _ => rfl)).congr fun v => by simp

theorem InstanceState.faithful_codec : InstanceState.codec.Faithful 0 fun _ => True :=
  faithful_choice (by rintro (_ | _ | _ | _ | _) <;> decide)

theorem InstanceCreate.faithful_codec : InstanceCreate.codec.Faithful 0 fun _ => True :=
  (faithful_record
    (.cons (faithful_required _ faithful_text) (by decide) <|
      .cons (faithful_required _ faithful_text) (by decide) .nil)
    (fun _ => rfl) (fun _ => rfl)).congr fun i => by simp

/-- The members of any JSON that may be missing. -/
def Instance.optionals (i : Instance) : List (Option Json) := [i.result]

theorem Instance.faithful_codec : Instance.codec.Faithful 0 fun i => some .null ∉ i.optionals :=
  (faithful_record
    (.cons (faithful_required _ faithful_text) (by decide) <|
      .cons (faithful_required _ faithful_text) (by decide) <|
      .cons (faithful_required _ faithful_text) (by decide) <|
      .cons (faithful_required _ InstanceState.faithful_codec) (by decide) <|
      .cons (faithful_optional_json _) (by decide) .nil)
    (fun _ => rfl) (fun _ => rfl)).congr fun i => by simp [optionals, eq_comm]

/-- What was read of an instance without a result, given by all that can be compared of it. -/
theorem Instance.decode_eq_ok_of_none {text id versionId title : String} {state : InstanceState}
    (h : (Instance.codec.decode text).toOption.map
        (fun i => (i.id, i.versionId, i.title, i.state, i.result.isNone)) =
      some (id, versionId, title, state, true)) :
    Instance.codec.decode text = .ok ⟨id, versionId, title, state, none⟩ := by
  cases hread : Instance.codec.decode text with
  | error e =>
    rw [hread] at h
    cases h
  | ok i =>
    rw [hread] at h
    obtain ⟨_, _, _, _, _ | v⟩ := i <;> cases h
    rfl

theorem ActivityState.faithful_codec : ActivityState.codec.Faithful 0 fun _ => True :=
  faithful_choice (by rintro (_ | _ | _ | _) <;> decide)

theorem ActivityFailure.faithful_codec : ActivityFailure.codec.Faithful 0 fun _ => True :=
  (faithful_record
    (.cons (faithful_required _ faithful_text) (by decide) <|
      .cons (faithful_optional_text _) (by decide) .nil)
    (fun _ => rfl) (fun _ => rfl)).congr fun f => by simp

def Activity.optionals (a : Activity) : List (Option Json) := [a.result]

theorem Activity.faithful_codec : Activity.codec.Faithful 0 fun a => some .null ∉ a.optionals :=
  (faithful_record
    (.cons (faithful_required _ faithful_text) (by decide) <|
      .cons (faithful_required _ faithful_text) (by decide) <|
      .cons (faithful_required _ faithful_text) (by decide) <|
      .cons (faithful_required _ ActivityState.faithful_codec) (by decide) <|
      .cons (faithful_optional_json _) (by decide) <|
      .cons (faithful_optional_of_ne _ ActivityFailure.faithful_codec solid_record fun _ => nofun)
        (by decide) .nil)
    (fun _ => rfl) (fun _ => rfl)).congr fun a => by simp [optionals, eq_comm]

def LogCreate.optionals (l : LogCreate) : List (Option Json) := [l.data]

theorem LogCreate.faithful_codec : LogCreate.codec.Faithful 0 fun l => some .null ∉ l.optionals :=
  (faithful_record
    (.cons (faithful_required _ faithful_text) (by decide) <|
      .cons (faithful_required _ LogSeverity.faithful_codec) (by decide) <|
      .cons (faithful_required _ faithful_text) (by decide) <|
      .cons (faithful_optional_json _) (by decide) .nil)
    (fun _ => rfl) (fun _ => rfl)).congr fun l => by simp [optionals, eq_comm]

def LogEntry.optionals (l : LogEntry) : List (Option Json) := [l.data]

theorem LogEntry.faithful_codec : LogEntry.codec.Faithful 0 fun l => some .null ∉ l.optionals :=
  (faithful_record
    (.cons (faithful_required _ faithful_text) (by decide) <|
      .cons (faithful_required _ faithful_text) (by decide) <|
      .cons (faithful_required _ LogSeverity.faithful_codec) (by decide) <|
      .cons (faithful_required _ faithful_text) (by decide) <|
      .cons (faithful_optional_json _) (by decide) .nil)
    (fun _ => rfl) (fun _ => rfl)).congr fun l => by simp [optionals, eq_comm]

def optionals (w : Workflow) : List (Option Json) := w.current.optionals

theorem faithful_codec : Workflow.codec.Faithful 0 fun w => some .null ∉ w.optionals :=
  (faithful_record
    (.cons (faithful_required _ Form.faithful_codec) (by decide) <|
      .cons (faithful_required _ Version.faithful_codec) (by decide) <|
      .cons (faithful_required _ Instance.faithful_codec) (by decide) .nil)
    (fun _ => rfl) (fun _ => rfl)).congr fun w => by simp [optionals]

theorem SemaphoreCreate.faithful_codec : SemaphoreCreate.codec.Faithful 0 fun _ => True :=
  (faithful_record
    (.cons (faithful_required _ faithful_text) (by decide) <|
      .cons (faithful_required _ faithful_uint32) (by decide) <|
      .cons (faithful_required _ faithful_uint64) (by decide) .nil)
    (fun _ => rfl) (fun _ => rfl)).congr fun c => by simp

theorem SemaphoreHolder.faithful_codec : SemaphoreHolder.codec.Faithful 0 fun _ => True :=
  (faithful_record
    (.cons (faithful_required _ faithful_text) (by decide) <|
      .cons (faithful_required _ faithful_text) (by decide) <|
      .cons (faithful_required _ faithful_uint64) (by decide) .nil)
    (fun _ => rfl) (fun _ => rfl)).congr fun h => by simp

theorem SummaryKey.faithful_codec : SummaryKey.codec.Faithful 0 fun _ => True :=
  (faithful_record
    (.cons (faithful_required _ faithful_text) (by decide) <|
      .cons (faithful_required _ faithful_uint32) (by decide) <|
      .cons (faithful_required _ faithful_text) (by decide) .nil)
    (fun _ => rfl) (fun _ => rfl)).congr fun k => by simp

def WorkflowSummary.optionals (s : WorkflowSummary) : List (Option Json) :=
  s.current.optionals ++ s.activities.flatMap (·.optionals)

/-- Missing activities are written as an empty list, for which two levels are needed. -/
theorem WorkflowSummary.faithful_codec :
    WorkflowSummary.codec.Faithful 2 fun s => some .null ∉ s.optionals := by
  have hempty : ∀ depth, 1 ≤ depth → ((list Activity.codec).toJson []).Fits depth := by
    intro depth hdepth
    obtain ⟨depth, rfl⟩ := Nat.exists_eq_add_one.mpr hdepth
    exact fits_arr (List.forall_mem_nil _)
  have hactivities := faithful_defaulting "activities"
    (faithful_list (Activity.faithful_codec.mono (Nat.zero_le 0))) (List.forall_mem_nil _) hempty
  refine (faithful_record
    (.cons (faithful_required _ (Form.faithful_codec.mono (Nat.zero_le 1))) (by decide) <|
      .cons (faithful_required _ (Version.faithful_codec.mono (Nat.zero_le 1))) (by decide) <|
      .cons (faithful_required _ (Instance.faithful_codec.mono (Nat.zero_le 1))) (by decide) <|
      .cons hactivities (by decide) .nil)
    (fun _ => rfl) (fun _ => rfl)).congr fun s => ?_
  simp [optionals]

end Workflow

/-- A type of items, with the members of any JSON that may be missing in a value. -/
structure ItemType extends ExchangedType where
  optionals : Value → List (Option Json)

namespace ItemType

open Workflow

/-- A type in whose values no member of any JSON may be missing. -/
def closed (T : ExchangedType) : ItemType := ⟨T, fun _ => []⟩

def all : List ItemType :=
  [closed (.plain .json),
    closed (.plain .text),
    closed (.plain Form.codec),
    closed (.plain FormCreate.codec),
    closed (.plain Version.codec),
    closed (.plain VersionCreate.codec),
    ⟨.plain Instance.codec, Instance.optionals⟩,
    closed (.plain InstanceCreate.codec),
    closed (.plain InstanceState.codec),
    ⟨.plain Workflow.codec, Workflow.optionals⟩,
    ⟨.plain Activity.codec, Activity.optionals⟩,
    closed (.plain ActivityState.codec),
    closed (.plain ActivityFailure.codec),
    ⟨.plain LogCreate.codec, LogCreate.optionals⟩,
    ⟨.plain LogEntry.codec, LogEntry.optionals⟩,
    ⟨.plain (.list LogEntry.codec), fun ls => ls.flatMap (·.optionals)⟩,
    closed (.plain LogRecord.codec),
    closed .logSeverity,
    closed (.plain SemaphoreCreate.codec),
    closed (.plain SemaphoreHolder.codec),
    closed .summaryKey,
    ⟨.workflowSummary, WorkflowSummary.optionals⟩,
    closed (.plain EventMetadata.codec),
    closed .healthStatus,
    closed .tenant]

/-- These are the exchanged types. -/
theorem toExchangedType_all : all.map (·.toExchangedType) = ExchangedType.all.map (·.2) := rfl

theorem faithful_closed {T : ExchangedType} (h : T.codec.Faithful 0 fun _ => True) :
    (closed T).codec.Faithful 2 fun x => some .null ∉ (closed T).optionals x :=
  (h.mono (Nat.zero_le 2)).congr fun x => by simp [closed]

theorem faithful_of_mem_all :
    ∀ T ∈ all, T.codec.Faithful 2 fun x => some .null ∉ T.optionals x := by
  simp only [all, List.forall_mem_cons]
  exact ⟨faithful_closed faithful_json, faithful_closed faithful_text,
    faithful_closed Form.faithful_codec, faithful_closed FormCreate.faithful_codec,
    faithful_closed Version.faithful_codec, faithful_closed VersionCreate.faithful_codec,
    Instance.faithful_codec.mono (Nat.zero_le 2), faithful_closed InstanceCreate.faithful_codec,
    faithful_closed InstanceState.faithful_codec, Workflow.faithful_codec.mono (Nat.zero_le 2),
    Activity.faithful_codec.mono (Nat.zero_le 2), faithful_closed ActivityState.faithful_codec,
    faithful_closed ActivityFailure.faithful_codec,
    LogCreate.faithful_codec.mono (Nat.zero_le 2), LogEntry.faithful_codec.mono (Nat.zero_le 2),
    (faithful_list (LogEntry.faithful_codec.mono (Nat.zero_le 1))).congr fun ls => by simp,
    faithful_closed LogRecord.faithful_codec, faithful_closed LogSeverity.faithful_codec,
    faithful_closed SemaphoreCreate.faithful_codec, faithful_closed SemaphoreHolder.faithful_codec,
    faithful_closed SummaryKey.faithful_codec, WorkflowSummary.faithful_codec,
    faithful_closed EventMetadata.faithful_codec, faithful_closed HealthStatus.faithful_codec,
    faithful_closed Tenant.faithful_codec, List.forall_mem_nil _⟩

end ItemType

namespace ExchangedType

open Workflow (Instance)

theorem exists_faithful {T : String × ExchangedType} (h : T ∈ all) :
    ∃ P, T.2.codec.Faithful 2 P := by
  have hmem : T.2 ∈ ItemType.all.map (·.toExchangedType) := by
    rw [ItemType.toExchangedType_all]
    exact List.mem_map_of_mem h
  obtain ⟨I, hI, heq⟩ := List.mem_map.mp hmem
  exact heq ▸ ⟨_, ItemType.faithful_of_mem_all I hI⟩

/-- What a decoded value is written as is its canonical text: it stands for the value and is written
again when it is read. The value holds whole numbers only if its members of any JSON do, since all
its other members are texts and whole numbers. -/
theorem text_canonical : ∀ T ∈ all, ∀ (t : String) (x : T.2.Value),
    T.2.codec.decode t = .ok x → (T.2.codec.toJson x).Whole →
    ∃ y, T.2.codec.decode (T.2.codec.write x) = .ok y ∧ y = x ∧
      T.2.codec.write y = T.2.codec.write x := by
  intro T hT t x ht hwhole
  obtain ⟨P, hfaithful⟩ := exists_faithful hT
  exact ⟨x, hfaithful.decode_write (by decide) ht hwhole, rfl, rfl⟩

/-- An instance as an array, with a blank, an escape, its state as an object and `null` for no
result. -/
theorem text_canonical_positions :
    ("instance", plain Instance.codec) ∈ all ∧ ∃ x,
      Instance.codec.decode "[\"i\", \"v\",\"\\u0041\",\x7b\"Success\":null\x7d,null]" = .ok x ∧
      (Instance.codec.toJson x).Whole ∧
      ∃ y, Instance.codec.decode (Instance.codec.write x) = .ok y ∧ y = x ∧
        Instance.codec.write y = Instance.codec.write x := by
  have hmem : ("instance", plain Instance.codec) ∈ all := by simp [all]
  have hdecode : Instance.codec.decode
      "[\"i\", \"v\",\"\\u0041\",\x7b\"Success\":null\x7d,null]" =
      .ok ⟨"i", "v", "A", .success, none⟩ :=
    Instance.decode_eq_ok_of_none (by decide +kernel)
  refine ⟨hmem, _, hdecode, ?_⟩
  have hwhole : Whole (object [("id", .str "i"), ("versionId", .str "v"), ("title", .str "A"),
      ("state", .str "Success")]) := by
    rw [whole_object_iff (by decide)]
    simp only [List.forall_mem_cons]
    exact ⟨.str _, .str _, .str _, .str _, nofun⟩
  exact ⟨hwhole, text_canonical _ hmem _ _ hdecode hwhole⟩

end ExchangedType

end PlatformLink
