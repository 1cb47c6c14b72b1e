import LimitMonitor.Actionpoint.State
import LimitMonitor.Capacity
import LimitMonitor.Event.Notification
import LimitMonitor.Refusal

/-!
# Log entries

What the monitor writes to its log beside the notifications: an entry carries
the facts, and its level and text are functions of them.
-/

namespace LimitMonitor

/-- How much a log entry matters. -/
inductive LogLevel where
  | error
  | warn
  | info
  | debug
deriving DecidableEq

namespace LogLevel

/-- The name of a level in the log. -/
def name : LogLevel → String
  | error => "ERROR"
  | warn => "WARN"
  | info => "INFO"
  | debug => "DEBUG"

end LogLevel

/-- An entry of the log. -/
inductive LogEntry where
  /-- An uploaded table was refused. -/
  | tableRejected (table : Table) (refusal : Refusal)
  /-- Both tables were loaded, with so many entries in use. -/
  | tablesLoaded (watchpoints actionpoints : UInt16)
  /-- The transport did not register a message. -/
  | subscribeFailed (id : MessageId) (status : Status)
  /-- The transport did not withdraw a message. -/
  | unsubscribeFailed (id : MessageId) (status : Status)
  /-- The dispatch index follows the new table. -/
  | indexRebuilt (messages watchpoints failures : Nat)
  /-- A message came that no watchpoint reads. -/
  | unreferencedMessage (id : MessageId)
  /-- A custom watchpoint had no predicate to ask. -/
  | noPredicate (slot : WatchSlot)
  /-- A watchpoint has a format that cannot be read. -/
  | undefinedFormat (slot : WatchSlot) (code : UInt8)
  /-- A watchpoint has a relation that cannot be tested. -/
  | undefinedRelation (slot : WatchSlot) (code : UInt8)
  /-- The field of a watchpoint runs past the end of the message. -/
  | fieldPastEnd (slot : WatchSlot) (id : MessageId) (offset : UInt16) (width : UInt8)
      (length : Nat)
  /-- The field of a watchpoint is not a number. -/
  | notANumber (slot : WatchSlot) (bits : UInt32)
  /-- The equation of an actionpoint is malformed. -/
  | illegalEquation (slot : ActionSlot) (malformed : Malformed)
  /-- An actionpoint asks for its response. -/
  | responseRequested (slot : ActionSlot) (responseId : UInt16)
  /-- The engine changed its mode. -/
  | modeChanged (before after : Mode)
deriving DecidableEq

namespace LogEntry

/-- The level of an entry. -/
def level : LogEntry → LogLevel
  | tableRejected _ _ | subscribeFailed _ _ | unsubscribeFailed _ _ | undefinedFormat _ _
  | undefinedRelation _ _ | fieldPastEnd _ _ _ _ _ | notANumber _ _ | illegalEquation _ _ => .error
  | noPredicate _ => .warn
  | tablesLoaded _ _ | indexRebuilt _ _ _ | responseRequested _ _ | modeChanged _ _ => .info
  | unreferencedMessage _ => .debug

/-- The text of an entry. -/
def text : LogEntry → String
  | tableRejected table refusal => s!"{table.entryName} table rejected: {refusal.text}"
  | tablesLoaded watchpoints actionpoints =>
    s!"Tables loaded: {watchpoints} watchpoints, {actionpoints} actionpoints"
  | subscribeFailed id status => s!"Subscribe to {id.text} failed: {status}"
  | unsubscribeFailed id status => s!"Unsubscribe from {id.text} failed: {status}"
  | indexRebuilt messages watchpoints failures =>
    s!"Dispatch index rebuilt: {messages} messages, {watchpoints} watchpoints, " ++
      s!"{failures} registration failures"
  | unreferencedMessage id => s!"No watchpoints reference message {id.text}"
  | noPredicate slot =>
    s!"Custom operator on watchpoint {slot.val} with no predicate registered"
  | undefinedFormat slot code => s!"WP {slot.val} undefined data type {code}"
  | undefinedRelation slot code => s!"WP {slot.val} undefined operator {code}"
  | fieldPastEnd slot id offset width length =>
    s!"WP {slot.val} offset {offset} + {width} past end of message {id.text} ({length} bytes)"
  | notANumber slot bits => s!"WP {slot.val} extracted NaN {Text.hexadecimal 8 bits.toNat}"
  | illegalEquation slot m =>
    s!"AP {slot.val} illegal RPN at token {m.token}, stack depth {m.depth}"
  | responseRequested slot responseId => s!"AP {slot.val} requesting response {responseId}"
  | modeChanged before after => s!"Mode change {before.name} -> {after.name}"

end LogEntry

end LimitMonitor
