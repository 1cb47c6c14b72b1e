import LimitMonitor.Event.Log
import LimitMonitor.Watchpoint.Predicate

/-!
# Traces

Everything that the monitor does to the world around it, as a list of events in
the order in which they happen. An operation of the engine is a function from a
state to a state and a trace; nothing else leaves it.
-/

namespace LimitMonitor

/-- One thing that the monitor does to the world around it. -/
inductive Event where
  /-- Report to the operators. -/
  | notify (notification : Notification)
  /-- Ask the transport for a message. -/
  | subscribe (id : MessageId)
  /-- Tell the transport that a message is no longer wanted. -/
  | unsubscribe (id : MessageId)
  /-- Ask the transport for a response. -/
  | respond (responseId : UInt16)
  /-- Ask the mission's predicate. -/
  | consult (question : Consultation)
  /-- Write to the log. -/
  | log (entry : LogEntry)
deriving DecidableEq

/-- Events in the order in which they happen. -/
abbrev Trace := List Event

namespace Event

/-- The event concerns the sink of notifications or the transport. -/
def isDelivered : Event → Bool
  | notify _ | subscribe _ | unsubscribe _ | respond _ => true
  | consult _ | log _ => false

end Event

namespace Trace

/-- What is left of a trace where no sink and no transport listens. -/
def undelivered (trace : Trace) : Trace := trace.filter fun event => !event.isDelivered

end Trace

namespace Predicate

/-- What asking the predicate does to the world. -/
def trace (p : Predicate) (question : Consultation) : Trace :=
  match p with
  | unregistered => [.log (.noPredicate question.slot)]
  | registered _ => [.consult question]

end Predicate

end LimitMonitor
