/-!
# Modes and operating states

The mode decides what the engine makes of a sample request and of a failing
actionpoint, and the operating state what becomes of a single one. An
actionpoint is sampled while it is active or passive. Commands move it between
active, passive and disabled; from disabled it can be switched off for good.
-/

namespace LimitMonitor

/-- The operating mode of the engine. -/
inductive Mode where
  /-- Sample, and send responses. -/
  | active
  /-- Sample, and suppress responses. -/
  | passive
  /-- Ignore sample requests. -/
  | disabled
deriving DecidableEq

namespace Mode

/-- The name of a mode in the log. -/
def name : Mode → String
  | active => "Active"
  | passive => "Passive"
  | disabled => "Disabled"

end Mode

namespace Actionpoint

/-- The operating state of an actionpoint. -/
inductive State where
  /-- Sampled; responds when it fails. -/
  | active
  /-- Sampled; reports failures without responding. -/
  | passive
  /-- Not sampled. -/
  | disabled
  /-- Not sampled, for good. -/
  | permanentlyOff
  /-- The slot is empty. -/
  | unused
deriving DecidableEq

namespace State

/-- The code of a state in a definition. -/
def code : State → UInt8
  | active => 1
  | passive => 2
  | disabled => 3
  | permanentlyOff => 4
  | unused => 255

/-- The state with a code, if there is one. -/
def ofCode? (code : UInt8) : Option State :=
  match code with
  | 1 => some active
  | 2 => some passive
  | 3 => some disabled
  | 4 => some permanentlyOff
  | 255 => some unused
  | _ => none

/-- The two bits that stand for the state in a packed view. An empty slot and
one that is switched off share theirs. -/
def packedCode : State → UInt8
  | unused | permanentlyOff => 0
  | active => 1
  | passive => 2
  | disabled => 3

/-- Actionpoints in this state are sampled. -/
def isSampled : State → Bool
  | active | passive => true
  | disabled | permanentlyOff | unused => false

/-- A command may put an actionpoint into this state. -/
def isCommandable : State → Bool
  | active | passive | disabled => true
  | permanentlyOff | unused => false

/-- A command may take an actionpoint out of this state. -/
def admitsCommand : State → Bool
  | active | passive | disabled => true
  | permanentlyOff | unused => false

theorem ofCode?_code (s : State) : ofCode? s.code = some s := by
  cases s <;> rfl

end State

end Actionpoint

end LimitMonitor
