/-!
# Cancellation

A publisher is given a token that may be cancelled before its call or while the call waits.
-/

namespace PlatformLink.Event

/-- When the token of a call is cancelled, if ever. -/
inductive Cancellation where
  | never
  | before
  | during
  deriving Repr, DecidableEq

end PlatformLink.Event
