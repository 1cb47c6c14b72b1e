import LimitMonitor.Engine.State

/-!
# Receiving a message

A message is evaluated by every watchpoint that reads it, in table order. A
watchpoint that cannot judge its field is reported and does not keep the others
from theirs.
-/

namespace LimitMonitor

namespace Watchpoint

/-- What is reported of a watchpoint that cannot judge its field. -/
def faultTrace (slot : WatchSlot) (m : Message) : Field.Fault → Trace
  | .undefinedFormat code =>
    [.log (.undefinedFormat slot code), .notify (.undefinedFormat (slotNumber slot) code)]
  | .undefinedRelation code =>
    [.log (.undefinedRelation slot code), .notify (.undefinedRelation (slotNumber slot) code)]
  | .pastEnd offset width length =>
    [.log (.fieldPastEnd slot m.id offset width length),
      .notify (.fieldPastEnd (slotNumber slot) m.id offset width length)]
  | .notANumber bits =>
    [.log (.notANumber slot bits), .notify (.notANumber (slotNumber slot) bits)]

namespace Record

/-- Fold the result of an evaluation into a record. A field past the end of its
message was never evaluated; any other fault counts as an evaluation. -/
def fold (r : Record) (result : Except Field.Fault Reading) (timestamp : Timestamp)
    (staleAfter : UInt32) : Record :=
  match result with
  | .ok reading => r.note reading.verdict reading.raw timestamp staleAfter
  | .error (.pastEnd _ _ _) => r.fault
  | .error _ => r.note .error 0 timestamp 0

end Record

namespace Evaluation

/-- What one evaluation does to the world. -/
def trace (v : Evaluation) (slot : WatchSlot) (m : Message) (p : Predicate) : Trace :=
  v.question.toList.flatMap p.trace ++
    match v.result with
    | .ok _ => []
    | .error fault => faultTrace slot m fault

end Evaluation

end Watchpoint

/-- A message on its way through the watchpoints that read it. -/
structure Reception where
  records : Vector Watchpoint.Record watchCapacity
  /-- The questions put to the predicate so far. -/
  asked : List Consultation
  trace : Trace

namespace Reception

/-- Evaluate the watchpoint in one slot; an empty slot is passed over. -/
def visit (watchpoints : Vector (Option Watchpoint) watchCapacity) (m : Message) (p : Predicate)
    (s : Reception) (slot : WatchSlot) : Reception :=
  match watchpoints.get slot with
  | none => s
  | some w =>
    let v := w.evaluate slot m p s.asked
    let record := (s.records.get slot).fold v.result m.timestamp w.staleAfter
    { records := s.records.set slot record slot.isLt
      asked := s.asked ++ v.question.toList
      trace := s.trace ++ v.trace slot m p }

end Reception

namespace Engine

/-- Evaluate every watchpoint that reads a message. -/
def receive (e : Engine) (m : Message) (p : Predicate) : Step Unit :=
  match e.index.lookup m.id with
  | [] =>
    ⟨e, (), [.log (.unreferencedMessage m.id), .notify (.unreferencedMessage m.id)]⟩
  | watchers =>
    let s := watchers.foldl (Reception.visit e.watchpoints m p) ⟨e.watchRecords, [], []⟩
    { engine :=
        { e with
          counters := { e.counters with messages := e.counters.messages.next }
          watchRecords := s.records }
      answer := ()
      trace := s.trace }

end Engine

end LimitMonitor
