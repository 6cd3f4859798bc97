import Lirvena.Account.AccountStore
import Lirvena.OneBot.Projection

/-!
# Account events

What one account generation reports to the adapters, over the shared event hub, and
the OneBot form of it.  The resolved notices and requests are a parameter, with the
projection of their twelve kinds.
-/

namespace Lirvena
namespace Runtime

open Lib Account OneBot

/-- Adapter-facing event emitted by one account generation. -/
inductive AccountEvent (Notice : Type*) where
  | identityReady (localId : AccountLocalId) (identity : AccountIdentity)
  | lifecycle (localId : AccountLocalId) (phase : AccountPhase)
      (protectiveReason : Option ProtectiveReason) (occurredAtMs : Nat)
  | message (message : InboundMessage)
  | notice (notice : Notice)
  | outboundMessageAccepted (localId : AccountLocalId) (occurredAtMs : Nat)
  | groupCountObserved (localId : AccountLocalId) (count : Nat) (occurredAtMs : Nat)

/-- Why `receive` gave no event. -/
inductive ReceiveError where
  | closed
  | lagged
  deriving DecidableEq

def lifecycleSubtype : AccountPhase → String
  | .active => "enable"
  | .stopped | .protectiveOffline => "disable"
  | .starting => "connect"

/-- `project_account_event`; the events that only count are not projected. -/
def projectAccountEvent {Notice : Type*}
    (projectNotice : Notice → Except EventProjectionError Json) (idFormat : IdFormat) :
    AccountEvent Notice → Except EventProjectionError (Option Json)
  | .identityReady _ identity => .ok (some (.ofFields
      [("time", .integer 0), ("self_id", idFormat.value identity.qqId.toNat),
        ("post_type", .string "meta_event"), ("meta_event_type", .string "lifecycle"),
        ("sub_type", .string "connect")]))
  | .lifecycle _ phase _ occurredAtMs => .ok (some (.ofFields
      [("time", .integer (occurredAtMs / 1000 : Nat)), ("post_type", .string "meta_event"),
        ("meta_event_type", .string "lifecycle"), ("sub_type", .string (lifecycleSubtype phase))]))
  | .message message => some <$> projectMessage message idFormat
  | .notice notice => some <$> projectNotice notice
  | .outboundMessageAccepted _ _ | .groupCountObserved _ _ _ => .ok none

end Runtime
end Lirvena
