import PlatformLink.Diagnostics
import PlatformLink.Workflow.Definition

/-!
# Instances and activities

An instance executes a version of a form, step by step in activities. Instances and activities have
log entries.
-/

namespace PlatformLink.Workflow

open Json (Codec)

inductive InstanceState where
  | executing
  | waiting
  | halted
  | success
  | failed
  deriving Repr, DecidableEq

namespace InstanceState

def name : InstanceState → String
  | executing => "Executing"
  | waiting => "Waiting"
  | halted => "Halted"
  | success => "Success"
  | failed => "Failed"

def all : List InstanceState := [executing, waiting, halted, success, failed]

def codec : Codec InstanceState :=
  .choice (all.map fun s => (s.name, s)) name

end InstanceState

structure InstanceCreate where
  versionId : String
  title : String
  deriving Repr, DecidableEq

def InstanceCreate.codec : Codec InstanceCreate :=
  .record "InstanceCreate"
    (.cons (.required "versionId" .text) <| .cons (.required "title" .text) .nil)
    (fun i => (i.versionId, i.title, ()))
    (fun (versionId, title, ()) => ⟨versionId, title⟩)

structure Instance where
  id : String
  versionId : String
  title : String
  state : InstanceState
  result : Option Json

def Instance.codec : Codec Instance :=
  .record "Instance"
    (.cons (.required "id" .text) <| .cons (.required "versionId" .text) <|
      .cons (.required "title" .text) <| .cons (.required "state" InstanceState.codec) <|
      .cons (.optional "result" .json) .nil)
    (fun i => (i.id, i.versionId, i.title, i.state, i.result, ()))
    (fun (id, versionId, title, state, result, ()) => ⟨id, versionId, title, state, result⟩)

inductive ActivityState where
  | executing
  | waiting
  | success
  | failed
  deriving Repr, DecidableEq

namespace ActivityState

def name : ActivityState → String
  | executing => "Executing"
  | waiting => "Waiting"
  | success => "Success"
  | failed => "Failed"

def all : List ActivityState := [executing, waiting, success, failed]

def codec : Codec ActivityState :=
  .choice (all.map fun s => (s.name, s)) name

end ActivityState

structure ActivityFailure where
  reason : String
  technicalDetails : Option String
  deriving Repr, DecidableEq

def ActivityFailure.codec : Codec ActivityFailure :=
  .record "ActivityFailure"
    (.cons (.required "reason" .text) <| .cons (.optional "technicalDetails" .text) .nil)
    (fun f => (f.reason, f.technicalDetails, ()))
    (fun (reason, technicalDetails, ()) => ⟨reason, technicalDetails⟩)

structure Activity where
  id : String
  instanceId : String
  title : String
  state : ActivityState
  result : Option Json
  failure : Option ActivityFailure

def Activity.codec : Codec Activity :=
  .record "Activity"
    (.cons (.required "id" .text) <| .cons (.required "instanceId" .text) <|
      .cons (.required "title" .text) <| .cons (.required "state" ActivityState.codec) <|
      .cons (.optional "result" .json) <| .cons (.optional "failure" ActivityFailure.codec) .nil)
    (fun a => (a.id, a.instanceId, a.title, a.state, a.result, a.failure, ()))
    (fun (id, instanceId, title, state, result, failure, ()) =>
      ⟨id, instanceId, title, state, result, failure⟩)

/-- A log entry to be made, for the instance or the activity with the id `parentId`. -/
structure LogCreate where
  parentId : String
  severity : LogSeverity
  message : String
  data : Option Json

def LogCreate.codec : Codec LogCreate :=
  .record "LogCreate"
    (.cons (.required "parentId" .text) <| .cons (.required "severity" LogSeverity.codec) <|
      .cons (.required "message" .text) <| .cons (.optional "data" .json) .nil)
    (fun l => (l.parentId, l.severity, l.message, l.data, ()))
    (fun (parentId, severity, message, data, ()) => ⟨parentId, severity, message, data⟩)

structure LogEntry where
  id : String
  parentId : String
  severity : LogSeverity
  message : String
  data : Option Json

def LogEntry.codec : Codec LogEntry :=
  .record "LogEntry"
    (.cons (.required "id" .text) <| .cons (.required "parentId" .text) <|
      .cons (.required "severity" LogSeverity.codec) <| .cons (.required "message" .text) <|
      .cons (.optional "data" .json) .nil)
    (fun l => (l.id, l.parentId, l.severity, l.message, l.data, ()))
    (fun (id, parentId, severity, message, data, ()) => ⟨id, parentId, severity, message, data⟩)

end PlatformLink.Workflow

namespace PlatformLink

/-- A form, the version that is executed and the instance that executes it. -/
structure Workflow where
  form : Workflow.Form
  version : Workflow.Version
  current : Workflow.Instance

def Workflow.codec : Json.Codec Workflow :=
  .record "Workflow"
    (.cons (.required "form" Form.codec) <| .cons (.required "version" Version.codec) <|
      .cons (.required "instance" Instance.codec) .nil)
    (fun w => (w.form, w.version, w.current, ()))
    (fun (form, version, current, ()) => ⟨form, version, current⟩)

end PlatformLink
