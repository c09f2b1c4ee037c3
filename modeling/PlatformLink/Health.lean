import PlatformLink.Json.Tagged

/-!
# Health

What a resource says about itself, and the worst of several statements. Of two statements of one
severity the first stays.
-/

namespace PlatformLink

inductive HealthStatus where
  | healthy
  | warning (text : String)
  | error (text : String)
  deriving Repr, DecidableEq

namespace HealthStatus

def isHealthy : HealthStatus → Bool
  | healthy => true
  | _ => false

def severity : HealthStatus → Nat
  | healthy => 0
  | warning _ => 1
  | error _ => 2

def worst (a b : HealthStatus) : HealthStatus :=
  if a.severity < b.severity then b else a

theorem healthy_worst (a : HealthStatus) : worst healthy a = a := by
  cases a <;> rfl

theorem worst_healthy (a : HealthStatus) : worst a healthy = a := by
  cases a <;> rfl

def text : HealthStatus → String
  | healthy => "healthy"
  | warning t => "warning: " ++ t
  | error t => "error: " ++ t

def tagging : Json.Tagging HealthStatus where
  name := "HealthStatus"
  tagKey := "status"
  contentKey := "message"
  tags := [("Healthy", .bare healthy), ("Warning", .carrying warning), ("Error", .carrying error)]
  tagOf
    | healthy => "Healthy"
    | warning _ => "Warning"
    | error _ => "Error"
  contentOf
    | healthy => none
    | warning t | error t => some t

def codec : Json.Codec HealthStatus :=
  tagging.codec

/-- The worst of a list; nothing is wrong with an empty one. -/
def worstOf (statuses : List HealthStatus) : HealthStatus :=
  statuses.foldl worst healthy

theorem worstOf_nil : worstOf [] = healthy := rfl

end HealthStatus

/-- A resource that reports its health under a name. -/
class HealthCheck (α : Type) where
  resourceName : α → String
  health : α → HealthStatus

/-- The reports of several resources, in their order. -/
def checkAll {α : Type} [HealthCheck α] (resources : List α) : List (String × HealthStatus) :=
  resources.map fun r => (HealthCheck.resourceName r, HealthCheck.health r)

end PlatformLink
