import PlatformLink.Json.Record

/-!
# Forms and versions

A form describes a capability; its versions are what runs.
-/

namespace PlatformLink.Workflow

open Json (Codec)

structure FormCreate where
  capabilityName : String
  title : String
  deriving Repr, DecidableEq

def FormCreate.codec : Codec FormCreate :=
  .record "FormCreate"
    (.cons (.required "capabilityName" .text) <| .cons (.required "title" .text) .nil)
    (fun f => (f.capabilityName, f.title, ()))
    (fun (capabilityName, title, ()) => ⟨capabilityName, title⟩)

structure Form where
  id : String
  capabilityName : String
  title : String
  etag : Option String
  deriving Repr, DecidableEq

def Form.codec : Codec Form :=
  .record "Form"
    (.cons (.required "id" .text) <| .cons (.required "capabilityName" .text) <|
      .cons (.required "title" .text) <| .cons (.optional "etag" .text) .nil)
    (fun f => (f.id, f.capabilityName, f.title, f.etag, ()))
    (fun (id, capabilityName, title, etag, ()) => ⟨id, capabilityName, title, etag⟩)

structure VersionCreate where
  majorVersion : UInt32
  minorVersion : UInt32
  deriving Repr, DecidableEq

def VersionCreate.codec : Codec VersionCreate :=
  .record "VersionCreate"
    (.cons (.required "majorVersion" .uint32) <| .cons (.required "minorVersion" .uint32) .nil)
    (fun v => (v.majorVersion, v.minorVersion, ()))
    (fun (majorVersion, minorVersion, ()) => ⟨majorVersion, minorVersion⟩)

structure Version where
  id : String
  formId : String
  majorVersion : UInt32
  minorVersion : UInt32
  deriving Repr, DecidableEq

def Version.codec : Codec Version :=
  .record "Version"
    (.cons (.required "id" .text) <| .cons (.required "formId" .text) <|
      .cons (.required "majorVersion" .uint32) <| .cons (.required "minorVersion" .uint32) .nil)
    (fun v => (v.id, v.formId, v.majorVersion, v.minorVersion, ()))
    (fun (id, formId, majorVersion, minorVersion, ()) =>
      ⟨id, formId, majorVersion, minorVersion⟩)

end PlatformLink.Workflow
