import LimitMonitor.Field.Word
import LimitMonitor.Watchpoint.Definition
import LimitMonitor.Watchpoint.Predicate

/-!
# Evaluating a watchpoint

A watchpoint reads its field out of a message, keeps the bits under its mask,
and relates them to its reference, or asks the mission's predicate about them.
-/

namespace LimitMonitor

namespace Watchpoint

/-- The verdict on a message, and the field that it was given on before masking. -/
structure Reading where
  verdict : Verdict
  raw : UInt32
deriving DecidableEq

/-- What the evaluation of one watchpoint gives: a reading or the cause that
stopped it, and the question put to the predicate, if one was. -/
structure Evaluation where
  result : Except Field.Fault Reading
  question : Option Consultation

/-- The field of a watchpoint in a message, before masking. -/
def field (w : Watchpoint) (m : Message) : Except Field.Fault UInt32 :=
  w.format.read m.payload w.offset

/-- The verdict of a relation that is not `custom` on the masked field. -/
def judge (w : Watchpoint) (masked : UInt32) : Except Field.Fault Verdict :=
  match Scalar.narrow w.format masked with
  | .error fault => .error fault
  | .ok value => w.relation.judge value w.reference

/-- Evaluate the watchpoint in `slot` on a message, with a predicate that has
already been asked the questions `asked` about this message. -/
def evaluate (w : Watchpoint) (slot : WatchSlot) (m : Message) (p : Predicate)
    (asked : List Consultation) : Evaluation :=
  match w.field m with
  | .error fault => ⟨.error fault, none⟩
  | .ok raw =>
    let masked := raw &&& w.mask
    match w.relation with
    | .custom =>
      let question : Consultation := ⟨slot, masked, m, w.argument⟩
      ⟨.ok ⟨p.answer asked question, raw⟩, some question⟩
    | _ => ⟨(w.judge masked).map fun verdict => ⟨verdict, raw⟩, none⟩

end Watchpoint

end LimitMonitor
