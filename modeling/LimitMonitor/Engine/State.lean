import LimitMonitor.Actionpoint.Sample
import LimitMonitor.Dispatch.Rebuild
import LimitMonitor.Watchpoint.Evaluation
import LimitMonitor.Watchpoint.Record

/-!
# The state of the engine

Two definition tables, a record for each of their slots, the index of the
watchpoint table, the mode, and four counters. A call of the engine is a
function from a state to a `Step`: the state after it, its answer, and its
trace.
-/

namespace LimitMonitor

/-- What the engine counts for itself. -/
structure Counters where
  /-- Sample requests that were carried out. -/
  samples : Counter
  /-- Messages that some watchpoint reads. -/
  messages : Counter
  /-- Responses that were sent. -/
  responses : Counter
  /-- Responses that were suppressed. -/
  suppressed : Counter
deriving DecidableEq

namespace Counters

/-- Nothing counted. -/
def zero : Counters := ⟨.zero, .zero, .zero, .zero⟩

/-- Count what an actionpoint triggered. -/
def note (c : Counters) : Option Actionpoint.Trigger → Counters
  | none => c
  | some .issued => { c with responses := c.responses.next }
  | some .suppressed => { c with suppressed := c.suppressed.next }

end Counters

/-- The limit monitor. -/
structure Engine where
  mode : Mode
  counters : Counters
  watchpoints : Vector (Option Watchpoint) watchCapacity
  actionpoints : Vector (Option Actionpoint) actionCapacity
  watchRecords : Vector Watchpoint.Record watchCapacity
  actionRecords : Vector Actionpoint.Record actionCapacity
  index : DispatchIndex
deriving DecidableEq

/-- What one call of the engine leaves behind. -/
structure Step (α : Type) where
  engine : Engine
  answer : α
  trace : Trace

namespace Engine

/-- The engine with empty tables. -/
def initial : Engine where
  mode := .active
  counters := .zero
  watchpoints := Vector.replicate watchCapacity none
  actionpoints := Vector.replicate actionCapacity none
  watchRecords := Vector.replicate watchCapacity .initial
  actionRecords := Vector.replicate actionCapacity .initial
  index := .empty

/-- The last verdict of each watchpoint. -/
def verdicts (e : Engine) (slot : WatchSlot) : Verdict := (e.watchRecords.get slot).verdict

/-- The message that each watchpoint reads. -/
def messageIds (e : Engine) : List (Option MessageId) :=
  e.watchpoints.toList.map fun w => w.map (·.messageId)

/-- How many watchpoints are in use. -/
def watchpointsInUse (e : Engine) : UInt16 :=
  UInt16.ofNat (e.watchpoints.toList.countP Option.isSome)

/-- How many actionpoints are active. -/
def activeActionpoints (e : Engine) : UInt16 :=
  UInt16.ofNat (e.actionRecords.toList.countP fun r => r.state == .active)

end Engine

end LimitMonitor
