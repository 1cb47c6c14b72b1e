import LimitMonitor.Engine.Sampling
import LimitMonitor.Interchange.Names

/-!
# Records in documents

The codecs of the values that are uploaded, downloaded and stored: definitions,
the records of both tables, counters and sample requests.
-/

namespace LimitMonitor

namespace Codec

def messageId : Codec MessageId := wrapped uint16 (·.value) (⟨·⟩)

def counter : Codec Counter := wrapped uint32 (·.value) (⟨·⟩)

/-- A text that is too long for an event is refused, not cut. -/
def eventText : Codec EventText where
  encode t := .text t.text
  decode
    | .text s => EventText.ofString? s
    | _ => none

def equation : Codec Equation := vector equationCapacity uint16

/-- A value at its declared width, as a record whose one member names the width.
A floating-point number is written by its bit pattern; what is not a number has
no pattern of its own. -/
def scalar : Codec Scalar where
  encode
    | .uint8 n => .record [("U8", uint8.encode n)]
    | .int8 n => .record [("I8", int8.encode n)]
    | .uint16 n => .record [("U16", uint16.encode n)]
    | .int16 n => .record [("I16", int16.encode n)]
    | .uint32 n => .record [("U32", uint32.encode n)]
    | .int32 n => .record [("I32", int32.encode n)]
    | .single x => .record [("F32", if x.isNaN then .text "nan" else uint32.encode x.bits)]
  decode
    | .record [("U8", d)] => (uint8.decode d).map .uint8
    | .record [("I8", d)] => (int8.decode d).map .int8
    | .record [("U16", d)] => (uint16.decode d).map .uint16
    | .record [("I16", d)] => (int16.decode d).map .int16
    | .record [("U32", d)] => (uint32.decode d).map .uint32
    | .record [("I32", d)] => (int32.decode d).map .int32
    | .record [("F32", d)] => (uint32.decode d).map fun bits => .single ⟨bits⟩
    | _ => none

/-! ## Watchpoints -/

def watchDefinition : Codec Watchpoint.Definition :=
  record
    ["data_type", "operator_id", "message_id", "offset", "bitmask", "comparison_value",
      "result_age_when_stale", "custom_arg"]
    (fun d =>
      [uint8.encode d.format, uint8.encode d.relation, uint16.encode d.messageId,
        uint16.encode d.offset, uint32.encode d.mask, uint32.encode d.reference,
        uint32.encode d.staleAfter, uint32.encode d.argument])
    fun
    | [a, b, c, d, e, f, g, h] => do
      let format ← uint8.decode a
      let relation ← uint8.decode b
      let messageId ← uint16.decode c
      let offset ← uint16.decode d
      let mask ← uint32.decode e
      let reference ← uint32.decode f
      let staleAfter ← uint32.decode g
      let argument ← uint32.decode h
      return { format, relation, messageId, offset, mask, reference, staleAfter, argument }
    | _ => none

def transition : Codec Transition :=
  record ["value", "timestamp"] (fun t => [uint32.encode t.value, uint64.encode t.timestamp]) fun
    | [a, b] => do
      let value ← uint32.decode a
      let timestamp ← uint64.decode b
      return { value, timestamp }
    | _ => none

def watchRecord : Codec Watchpoint.Record :=
  record
    ["result", "countdown_to_stale", "evaluation_count", "false_to_true_count",
      "consecutive_true_count", "cumulative_true_count", "last_false_to_true", "last_true_to_false"]
    (fun r =>
      [verdict.encode r.verdict, uint32.encode r.countdown, counter.encode r.evaluations,
        counter.encode r.onsets, counter.encode r.streak, counter.encode r.positives,
        transition.encode r.lastOnset, transition.encode r.lastRelease])
    fun
    | [a, b, c, d, e, f, g, h] => do
      let verdict ← verdict.decode a
      let countdown ← uint32.decode b
      let evaluations ← counter.decode c
      let onsets ← counter.decode d
      let streak ← counter.decode e
      let positives ← counter.decode f
      let lastOnset ← transition.decode g
      let lastRelease ← transition.decode h
      return { verdict, countdown, evaluations, onsets, streak, positives, lastOnset, lastRelease }
    | _ => none

/-! ## Actionpoints -/

def actionDefinition : Codec Actionpoint.Definition :=
  record
    ["default_state", "max_passive_events", "max_pass_fail_events", "max_fail_pass_events",
      "response_id", "max_fails_before_response", "equation", "event_severity", "event_id",
      "event_text"]
    (fun d =>
      [uint8.encode d.defaultState, uint16.encode d.passiveCap, uint16.encode d.failCap,
        uint16.encode d.recoveryCap, uint16.encode d.responseId, uint32.encode d.threshold,
        equation.encode d.equation, uint8.encode d.severity, uint16.encode d.eventId,
        eventText.encode d.eventText])
    fun
    | [a, b, c, d, e, f, g, h, i, j] => do
      let defaultState ← uint8.decode a
      let passiveCap ← uint16.decode b
      let failCap ← uint16.decode c
      let recoveryCap ← uint16.decode d
      let responseId ← uint16.decode e
      let threshold ← uint32.decode f
      let equation ← equation.decode g
      let severity ← uint8.decode h
      let eventId ← uint16.decode i
      let eventText ← eventText.decode j
      return { defaultState, passiveCap, failCap, recoveryCap, responseId, threshold, equation,
               severity, eventId, eventText }
    | _ => none

def actionRecord : Codec Actionpoint.Record :=
  record
    ["result", "state", "passive_ap_count", "fail_to_pass_count", "pass_to_fail_count",
      "consecutive_fail_count", "cumulative_fail_count", "cumulative_response_count",
      "cumulative_event_msgs_sent"]
    (fun r =>
      [outcome.encode r.outcome, state.encode r.state, counter.encode r.passiveFailures,
        counter.encode r.recoveries, counter.encode r.onsets, counter.encode r.streak,
        counter.encode r.failures, counter.encode r.responses, counter.encode r.announcements])
    fun
    | [a, b, c, d, e, f, g, h, i] => do
      let outcome ← outcome.decode a
      let state ← state.decode b
      let passiveFailures ← counter.decode c
      let recoveries ← counter.decode d
      let onsets ← counter.decode e
      let streak ← counter.decode f
      let failures ← counter.decode g
      let responses ← counter.decode h
      let announcements ← counter.decode i
      return { outcome, state, passiveFailures, recoveries, onsets, streak, failures, responses,
               announcements }
    | _ => none

/-! ## The engine -/

def counters : Codec Counters :=
  record
    ["ap_sample_count", "monitored_msg_count", "response_exec_count", "passive_response_count"]
    (fun c =>
      [counter.encode c.samples, counter.encode c.messages, counter.encode c.responses,
        counter.encode c.suppressed])
    fun
    | [a, b, c, d] => do
      let samples ← counter.decode a
      let messages ← counter.decode b
      let responses ← counter.decode c
      let suppressed ← counter.decode d
      return { samples, messages, responses, suppressed }
    | _ => none

def request : Codec Request :=
  record ["start", "end", "update_age"]
    (fun q => [uint16.encode q.first, uint16.encode q.last, bool.encode q.aging])
    fun
    | [a, b, c] => do
      let first ← uint16.decode a
      let last ← uint16.decode b
      let aging ← bool.decode c
      return { first, last, aging }
    | _ => none

end Codec

end LimitMonitor
