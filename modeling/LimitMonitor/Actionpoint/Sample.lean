import LimitMonitor.Actionpoint.Definition
import LimitMonitor.Actionpoint.Record
import LimitMonitor.Event.Trace

/-!
# Sampling an actionpoint

A sample evaluates the equation of an actionpoint and folds the outcome into
its record. A failure that brings the streak to the threshold triggers an active
actionpoint: it becomes passive, and its response is sent, or only reported if
the engine is not active. The reports of repeated changes are capped.
-/

namespace LimitMonitor

namespace Actionpoint

/-- What a triggered actionpoint leads to. -/
inductive Trigger where
  /-- The response is sent. -/
  | issued
  /-- The response is suppressed. -/
  | suppressed
deriving DecidableEq

/-- What one sample of one actionpoint gives. -/
structure Sample where
  record : Record
  trigger : Option Trigger
  trace : Trace
deriving DecidableEq

namespace Sample

/-- A sample that triggers nothing. -/
def quiet (record : Record) (trace : Trace) : Sample := ⟨record, none, trace⟩

end Sample

/-- A report, as long as its count has not passed the cap. -/
def capped (count : Counter) (cap : UInt16) (notification : Notification) : Trace :=
  if count.within cap then [.notify notification] else []

/-- The streak of failures has reached the threshold. -/
def reached (a : Actionpoint) (streak : Counter) : Bool := a.threshold ≤ streak.value

/-- The response of an active actionpoint at its threshold. -/
def trigger (a : Actionpoint) (slot : ActionSlot) (mode : Mode) (r : Record) : Sample :=
  let r := { r with state := .passive }
  match mode with
  | .active =>
    { record := { r with responses := r.responses.next, announcements := r.announcements.next }
      trigger := some .issued
      trace :=
        [.log (.responseRequested slot a.responseId), .respond a.responseId,
          .notify (.responseIssued (slotNumber slot) r.streak a.responseId a.eventId a.severity
            a.eventText)] }
  | .passive | .disabled =>
    { record := r
      trigger := some .suppressed
      trace := [.notify (.responseSuppressed (slotNumber slot) r.streak a.responseId)] }

/-- What a failure leads to once it is counted. -/
def respond (a : Actionpoint) (slot : ActionSlot) (mode : Mode) (r : Record) : Sample :=
  if !a.reached r.streak then .quiet r []
  else
    match r.state with
    | .active => a.trigger slot mode r
    | .passive =>
      let r := { r with passiveFailures := r.passiveFailures.next }
      .quiet r (capped r.passiveFailures a.passiveCap
        (.failedWhilePassive (slotNumber slot) r.streak a.responseId))
    | .disabled | .permanentlyOff | .unused => .quiet r []

/-- Fold a failure into a record. -/
def noteFail (a : Actionpoint) (slot : ActionSlot) (mode : Mode) (r : Record) : Sample :=
  let counted :=
    { r with outcome := .fail, streak := r.streak.next, failures := r.failures.next }
  if r.outcome = .pass then
    let counted := { counted with onsets := r.onsets.next }
    let report := capped counted.onsets a.failCap (.passToFail (slotNumber slot))
    let response := a.respond slot mode counted
    { response with trace := report ++ response.trace }
  else a.respond slot mode counted

/-- Fold a pass into a record. -/
def notePass (a : Actionpoint) (slot : ActionSlot) (r : Record) : Sample :=
  let passed := { r with outcome := .pass, streak := .zero }
  if r.outcome = .fail then
    let passed := { passed with recoveries := r.recoveries.next }
    .quiet passed (capped passed.recoveries a.recoveryCap (.failToPass (slotNumber slot)))
  else .quiet passed []

/-- Fold an outcome into a record. -/
def note (a : Actionpoint) (slot : ActionSlot) (mode : Mode) (r : Record) : Outcome → Sample
  | .fail => a.noteFail slot mode r
  | .pass => a.notePass slot r
  | .stale => .quiet { r with outcome := .stale, streak := .zero } []
  | .error => .quiet { r with outcome := .error } [.notify (.actionError (slotNumber slot))]

/-- Sample the actionpoint in `slot` over the given verdicts. An actionpoint that
is neither active nor passive is left as it is. A malformed equation is reported
and counts as an error. -/
def sample (a : Actionpoint) (slot : ActionSlot) (mode : Mode) (verdicts : WatchSlot → Verdict)
    (r : Record) : Sample :=
  if !r.state.isSampled then .quiet r []
  else
    match Equation.evaluate verdicts a.equation.toList with
    | .ok outcome => a.note slot mode r outcome
    | .error malformed =>
      let noted := a.note slot mode r .error
      { noted with
        trace :=
          [.log (.illegalEquation slot malformed),
            .notify (.illegalEquation (slotNumber slot) malformed)] ++ noted.trace }

end Actionpoint

end LimitMonitor
