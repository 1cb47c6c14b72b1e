import LimitMonitor.Actionpoint.State
import LimitMonitor.Capacity
import LimitMonitor.Counter
import LimitMonitor.Equation.Evaluation
import LimitMonitor.Refusal

/-!
# Actionpoint records

Each slot of the actionpoint table keeps its last outcome, its operating state
and its statistics. Commands change the state only: the statistics are cleared
by a reset and grow by samples.
-/

namespace LimitMonitor

namespace Actionpoint

/-- What one slot of the actionpoint table remembers. -/
structure Record where
  /-- The last outcome. -/
  outcome : Outcome
  /-- The operating state. -/
  state : State
  /-- Failures at the threshold while passive. -/
  passiveFailures : Counter
  /-- Changes from fail to pass. -/
  recoveries : Counter
  /-- Changes from pass to fail. -/
  onsets : Counter
  /-- Failures since the last pass or stale outcome. -/
  streak : Counter
  /-- Failures. -/
  failures : Counter
  /-- Responses. -/
  responses : Counter
  /-- Response notifications. -/
  announcements : Counter
deriving DecidableEq

namespace Record

/-- The record of a slot that starts in a state. -/
def starting (state : State) : Record where
  outcome := .stale
  state
  passiveFailures := .zero
  recoveries := .zero
  onsets := .zero
  streak := .zero
  failures := .zero
  responses := .zero
  announcements := .zero

/-- The record of an empty slot. -/
def initial : Record := starting .unused

/-- The record without its history, in the same state. -/
def cleared (r : Record) : Record := starting r.state

/-! ## Commands -/

/-- Move the actionpoint with this number to a commanded state. -/
def command (r : Record) (number : UInt16) (state : State) : Except Refusal Record :=
  if !state.isCommandable then .error (.stateNotCommandable state.code)
  else if !r.state.admitsCommand then .error (.stateHolds number r.state.code)
  else .ok { r with state }

/-- Switch the actionpoint with this number off for good, which takes it to be
disabled. -/
def switchOff (r : Record) (number : UInt16) : Except Refusal Record :=
  if r.state = .disabled then .ok { r with state := .permanentlyOff }
  else .error (.stateHolds number r.state.code)

end Record

end Actionpoint

end LimitMonitor
