import LimitMonitor.Capacity
import LimitMonitor.Message
import LimitMonitor.Verdict

/-!
# The mission's own predicate

A watchpoint whose relation is `custom` is judged by a predicate that the
mission supplies with the message. The predicate may keep a memory while one
message is processed, so its answer is a function of the questions that it was
asked before and of the present one. Where no predicate is registered, the
verdict is `error`.
-/

namespace LimitMonitor

/-- What a predicate is asked. -/
structure Consultation where
  /-- The watchpoint that asks. -/
  slot : WatchSlot
  /-- The bits of the field under the mask. -/
  masked : UInt32
  /-- The message that carries the field. -/
  message : Message
  /-- The argument from the definition. -/
  argument : UInt32
deriving DecidableEq

/-- The predicate that answers custom watchpoints, if one is registered. -/
inductive Predicate where
  /-- No predicate is registered. -/
  | unregistered
  /-- The answer to a question, given the questions asked before it, the oldest first. -/
  | registered (answer : List Consultation → Consultation → Verdict)

namespace Predicate

/-- The answer to a question, given the questions asked before it. -/
def answer (p : Predicate) (asked : List Consultation) (question : Consultation) : Verdict :=
  match p with
  | unregistered => .error
  | registered answer => answer asked question

/-- A predicate without memory. -/
def ofFunction (answer : Consultation → Verdict) : Predicate := registered fun _ => answer

end Predicate

end LimitMonitor
