import LimitMonitor.Dispatch.Index
import LimitMonitor.Event.Trace

/-!
# Following a new table

When the watchpoint table changes, the index is built anew and the transport is
told: first every message of the old index is withdrawn, then every message of
the new one is registered. A refusal of the transport is reported and stops
nothing.
-/

namespace LimitMonitor

/-- How the transport answers: the status of a refusal, for each message. -/
structure Transport where
  subscribe : MessageId → Option Status
  unsubscribe : MessageId → Option Status

namespace Transport

/-- The transport that refuses nothing. -/
def willing : Transport := ⟨fun _ => none, fun _ => none⟩

/-- Withdraw one message. -/
def withdraw (t : Transport) (id : MessageId) : Trace :=
  .unsubscribe id ::
    match t.unsubscribe id with
    | none => []
    | some status =>
      [.log (.unsubscribeFailed id status), .notify (.unsubscribeFailed id status)]

/-- Register one message. -/
def register (t : Transport) (id : MessageId) : Trace :=
  .subscribe id ::
    match t.subscribe id with
    | none => []
    | some status => [.log (.subscribeFailed id status), .notify (.subscribeFailed id status)]

end Transport

namespace DispatchIndex

/-- What the change from one index to another does to the world. -/
def handover (before after : DispatchIndex) (t : Transport) : Trace :=
  let failures := after.messageIds.countP fun id => (t.subscribe id).isSome
  before.messageIds.flatMap t.withdraw ++ after.messageIds.flatMap t.register ++
    [.log (.indexRebuilt after.messageCount after.watchCount failures)]

/-- The index of a new table, given the message that each slot reads, and what
the change to it does to the world. -/
def rebuild (x : DispatchIndex) (ids : List (Option MessageId)) (t : Transport) :
    DispatchIndex × Trace :=
  let after := ofTable ids
  (after, x.handover after t)

end DispatchIndex

end LimitMonitor
