import LimitMonitor.Equation.Evaluation

/-!
# Defects and refusals

Why an entry of a definition table is refused, with one cause for each check
that a definition has to pass, and why a call of the engine is. A refusal is
the answer of the call; the engine is left as it was. The check of either table
counts its entries in the same three classes.
-/

namespace LimitMonitor

/-! ## Definition tables -/

/-- The two definition tables. -/
inductive Table where
  | watchpoints
  | actionpoints
deriving DecidableEq

namespace Table

/-- What an entry of the table is called. -/
def entryName : Table → String
  | watchpoints => "Watchpoint"
  | actionpoints => "Actionpoint"

end Table

/-- How many entries of a table are good, bad and empty. -/
structure Tally where
  good : UInt16
  bad : UInt16
  unused : UInt16
deriving DecidableEq

namespace Tally

/-- The tally of no entries. -/
def zero : Tally := ⟨0, 0, 0⟩

/-- The tally as notifications show it. -/
def text (t : Tally) : String := s!"good = {t.good}, bad = {t.bad}, unused = {t.unused}"

end Tally

/-- Why a definition is refused. -/
inductive Defect where
  | format
  | relation
  | messageId
  | referenceNaN
  | referenceInfinite
  | defaultState
  | responseId
  | zeroThreshold
  | severity
  | equation (malformed : Malformed)
deriving DecidableEq

namespace Defect

/-- The wording of a defect. -/
def text : Defect → String
  | format => "bad data type"
  | relation => "bad operator"
  | messageId => "bad message id"
  | referenceNaN => "comparison value is NaN"
  | referenceInfinite => "comparison value is infinite"
  | defaultState => "bad default state"
  | responseId => "bad response id"
  | zeroThreshold => "fail threshold is zero"
  | severity => "bad event severity"
  | equation m => s!"RPN invalid at token {m.token}, stack depth {m.depth}"

end Defect

/-! ## Calls -/

/-- Why a call is refused. States and slots are named by their numbers. -/
inductive Refusal where
  /-- An entry of an uploaded table fails its checks. -/
  | tableRejected (table : Table) (entry : UInt16) (defect : Defect)
  /-- The watchpoint table has no such slot. -/
  | noSuchWatchpoint (number : UInt16)
  /-- The actionpoint table has no such slot. -/
  | noSuchActionpoint (number : UInt16)
  /-- The state that the actionpoint is in does not admit the command. -/
  | stateHolds (actionpoint : UInt16) (state : UInt8)
  /-- No command leads to this state. -/
  | stateNotCommandable (state : UInt8)
deriving DecidableEq

namespace Refusal

/-- The wording of a refusal. -/
def text : Refusal → String
  | tableRejected table entry defect =>
    s!"{table.entryName} table entry {entry} failed validation: {defect.text}"
  | noSuchWatchpoint number => s!"Invalid watchpoint number {number}"
  | noSuchActionpoint number => s!"Invalid actionpoint number {number}"
  | stateHolds actionpoint state =>
    s!"Actionpoint {actionpoint} in state {state} rejects the request"
  | stateNotCommandable state => s!"State {state} cannot be commanded"

end Refusal

end LimitMonitor
