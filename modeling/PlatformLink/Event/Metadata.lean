import PlatformLink.Error
import PlatformLink.Json.Record

/-!
# Event metadata

A published event is a JSON object with a member that names the entity, the event and its version.
The member takes the place of any the event had of that name.
-/

namespace PlatformLink

structure EventMetadata where
  entityName : String
  eventName : String
  majorVersion : UInt32
  minorVersion : UInt32
  deriving Repr, DecidableEq

/-- An event: its serialized form, or why there is none, and its metadata. -/
structure Event where
  body : Except Json.DecodeError Json
  metadata : EventMetadata

namespace EventMetadata

/-- The key of the member that holds the metadata. -/
def memberKey : String := "metadata"

def codec : Json.Codec EventMetadata :=
  .record "EventMetadata"
    (.cons (.required "entityName" .text) <| .cons (.required "eventName" .text) <|
      .cons (.required "majorVersion" .uint32) <| .cons (.required "minorVersion" .uint32) .nil)
    (fun m => (m.entityName, m.eventName, m.majorVersion, m.minorVersion, ()))
    (fun (entityName, eventName, majorVersion, minorVersion, ()) =>
      ⟨entityName, eventName, majorVersion, minorVersion⟩)

/-- Only an object can carry metadata. -/
def attach (m : EventMetadata) : Json → Outcome Json
  | .obj members => .ok (.obj (Json.insertMember memberKey (codec.toJson m) members))
  | _ => .error (.validation .eventNotObject)

/-- The metadata that a published event carries, if it can be read. -/
def ofEvent? : Json → Option EventMetadata
  | .obj members => (Json.member? memberKey members).bind fun v => (codec.ofJson v).toOption
  | _ => none

end EventMetadata

/-- What is handed to a publisher. -/
def Event.published (e : Event) : Outcome Json := do
  e.metadata.attach (← e.body.mapError LinkError.undecoded)

end PlatformLink
