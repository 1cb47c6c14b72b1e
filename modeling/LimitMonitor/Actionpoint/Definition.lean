import LimitMonitor.Actionpoint.State
import LimitMonitor.Event.Text
import LimitMonitor.Refusal

/-!
# Actionpoint definitions

An actionpoint judges an equation over watchpoint verdicts and names the
response to its failure. `Actionpoint.decode` checks an uploaded definition in
the order state, response, threshold, severity, equation.
-/

namespace LimitMonitor

namespace Actionpoint

/-- An entry of the actionpoint table, as uploaded. -/
structure Definition where
  /-- Code of the state after a load. -/
  defaultState : UInt8
  /-- Cap on the reports of failures while passive. -/
  passiveCap : UInt16
  /-- Cap on the reports of changes from pass to fail. -/
  failCap : UInt16
  /-- Cap on the reports of changes from fail to pass. -/
  recoveryCap : UInt16
  /-- The response to a failure. -/
  responseId : UInt16
  /-- Consecutive failures before the response. -/
  threshold : UInt32
  /-- Codes of the equation. -/
  equation : Equation
  /-- Code of the severity of the response notification. -/
  severity : UInt8
  /-- Identifier of the response notification. -/
  eventId : UInt16
  /-- Text of the response notification. -/
  eventText : EventText
deriving DecidableEq

namespace Definition

/-- The entry of an empty slot. -/
def unused : Definition where
  defaultState := State.unused.code
  passiveCap := 0
  failCap := 0
  recoveryCap := 0
  responseId := 0
  threshold := 0
  equation := Equation.ofCodes []
  severity := 0
  eventId := 0
  eventText := .empty

/-- The entry with another equation. -/
def withEquation (d : Definition) (codes : List UInt16) : Definition :=
  { d with equation := Equation.ofCodes codes }

/-- The entry that responds after `threshold` consecutive failures. Every report
is capped at one, and the response notification is an `info` without text. -/
def responding (state : State) (responseId : UInt16) (threshold : UInt32)
    (codes : List UInt16) : Definition :=
  { unused with
    defaultState := state.code, passiveCap := 1, failCap := 1, recoveryCap := 1, responseId
    threshold, severity := Severity.info.code }.withEquation codes

/-- The entry with other caps. -/
def withCaps (d : Definition) (passiveCap failCap recoveryCap : UInt16) : Definition :=
  { d with passiveCap, failCap, recoveryCap }

/-- The entry with another response notification; the text is cut to what fits. -/
def withEvent (d : Definition) (severity : Severity) (eventId : UInt16) (text : String) :
    Definition :=
  { d with severity := severity.code, eventId, eventText := .truncate text }

/-- The slot is empty. -/
def isUnused (d : Definition) : Bool := d.defaultState == State.unused.code

end Definition

end Actionpoint

/-- An actionpoint, decoded from a definition that passed its checks. -/
structure Actionpoint where
  defaultState : Actionpoint.State
  passiveCap : UInt16
  failCap : UInt16
  recoveryCap : UInt16
  responseId : UInt16
  threshold : UInt32
  equation : Equation
  severity : Severity
  eventId : UInt16
  eventText : EventText
deriving DecidableEq

namespace Actionpoint

/-- The actionpoint of a definition, nothing for an empty slot, or the first
check that fails. -/
def decode (d : Definition) : Except Defect (Option Actionpoint) :=
  match State.ofCode? d.defaultState with
  | none => .error .defaultState
  | some .unused => .ok none
  | some state =>
    if greatestResponseId < d.responseId then .error .responseId
    else if d.threshold = 0 then .error .zeroThreshold
    else
      match Severity.ofCode? d.severity with
      | none => .error .severity
      | some severity =>
        match Equation.check d.equation.toList with
        | .error malformed => .error (.equation malformed)
        | .ok () =>
          .ok (some
            { defaultState := state, passiveCap := d.passiveCap, failCap := d.failCap
              recoveryCap := d.recoveryCap, responseId := d.responseId, threshold := d.threshold
              equation := d.equation, severity, eventId := d.eventId, eventText := d.eventText })

end Actionpoint

end LimitMonitor
