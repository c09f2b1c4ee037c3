import PlatformLink.Workflow.Instance

/-!
# Workflow summaries

A summary shows a workflow with its activities. It is addressed by the form, the major version and
the instance.
-/

namespace PlatformLink.Workflow

open Json (Codec)

structure SummaryKey where
  formId : String
  majorVersion : UInt32
  instanceId : String
  deriving Repr, DecidableEq

def SummaryKey.codec : Codec SummaryKey :=
  .record "SummaryKey"
    (.cons (.required "formId" .text) <| .cons (.required "majorVersion" .uint32) <|
      .cons (.required "instanceId" .text) .nil)
    (fun k => (k.formId, k.majorVersion, k.instanceId, ()))
    (fun (formId, majorVersion, instanceId, ()) => ⟨formId, majorVersion, instanceId⟩)

def SummaryKey.text (k : SummaryKey) : String :=
  k.formId ++ "/" ++ toString k.majorVersion.toNat ++ "/" ++ k.instanceId

structure WorkflowSummary where
  form : Form
  version : Version
  current : Instance
  activities : List Activity

def WorkflowSummary.codec : Codec WorkflowSummary :=
  .record "WorkflowSummary"
    (.cons (.required "form" Form.codec) <| .cons (.required "version" Version.codec) <|
      .cons (.required "instance" Instance.codec) <|
      .cons (.defaulting "activities" (.list Activity.codec) []) .nil)
    (fun s => (s.form, s.version, s.current, s.activities, ()))
    (fun (form, version, current, activities, ()) => ⟨form, version, current, activities⟩)

def WorkflowSummary.key (s : WorkflowSummary) : SummaryKey :=
  ⟨s.form.id, s.version.majorVersion, s.current.id⟩

end PlatformLink.Workflow
