import PlatformLink.Json.Record

/-!
# Semaphores

A semaphore limits how many holders may use a resource at once, each for a time.
-/

namespace PlatformLink.Workflow

open Json (Codec)

structure SemaphoreCreate where
  resourceIdentifier : String
  limit : UInt32
  expirationSeconds : UInt64
  deriving Repr, DecidableEq

def SemaphoreCreate.codec : Codec SemaphoreCreate :=
  .record "SemaphoreCreate"
    (.cons (.required "resourceIdentifier" .text) <| .cons (.required "limit" .uint32) <|
      .cons (.required "expirationSeconds" .uint64) .nil)
    (fun s => (s.resourceIdentifier, s.limit, s.expirationSeconds, ()))
    (fun (resourceIdentifier, limit, expirationSeconds, ()) =>
      ⟨resourceIdentifier, limit, expirationSeconds⟩)

structure SemaphoreHolder where
  holderId : String
  resourceIdentifier : String
  expirationSeconds : UInt64
  deriving Repr, DecidableEq

def SemaphoreHolder.codec : Codec SemaphoreHolder :=
  .record "SemaphoreHolder"
    (.cons (.required "holderId" .text) <| .cons (.required "resourceIdentifier" .text) <|
      .cons (.required "expirationSeconds" .uint64) .nil)
    (fun s => (s.holderId, s.resourceIdentifier, s.expirationSeconds, ()))
    (fun (holderId, resourceIdentifier, expirationSeconds, ()) =>
      ⟨holderId, resourceIdentifier, expirationSeconds⟩)

end PlatformLink.Workflow
