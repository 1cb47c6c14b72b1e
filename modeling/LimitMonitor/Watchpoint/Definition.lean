import LimitMonitor.Field.Relation
import LimitMonitor.Message
import LimitMonitor.Refusal

/-!
# Watchpoint definitions

A definition is what an operator uploads: plain numbers, none of them checked.
`Watchpoint.decode` checks one and turns it into a watchpoint, or finds that
its slot is empty, or names the first check that it fails. The checks come in
the order format, relation, message identifier, reference.
-/

namespace LimitMonitor

namespace Watchpoint

/-- An entry of the watchpoint table, as uploaded. -/
structure Definition where
  /-- Code of the field format. -/
  format : UInt8
  /-- Code of the relation. -/
  relation : UInt8
  /-- Identifier of the message that carries the field. -/
  messageId : UInt16
  /-- Position of the field in the message. -/
  offset : UInt16
  /-- Bits of the field that take part in the comparison. -/
  mask : UInt32
  /-- Reference value, still without a format. -/
  reference : UInt32
  /-- Cycles after which a verdict that is not renewed goes stale; zero for never. -/
  staleAfter : UInt32
  /-- Passed through to the mission's own predicate. -/
  argument : UInt32
deriving DecidableEq

namespace Definition

/-- The entry of an empty slot. -/
def unused : Definition where
  format := Format.unused.code
  relation := Relation.absentCode
  messageId := 0
  offset := 0
  mask := 0xFFFFFFFF
  reference := 0
  staleAfter := 0
  argument := 0

/-- The entry that watches a field of a message, with nothing else set. -/
def watching (format : Format) (relation : Relation) (messageId offset : UInt16) : Definition :=
  { unused with format := format.code, relation := relation.code, messageId, offset }

/-- The entry with another reference. -/
def withReference (d : Definition) (reference : UInt32) : Definition := { d with reference }

/-- The entry with a floating-point reference. -/
def withSingleReference (d : Definition) (x : Single) : Definition := { d with reference := x.bits }

/-- The entry with another mask. -/
def withMask (d : Definition) (mask : UInt32) : Definition := { d with mask }

/-- The entry with another stale age. -/
def withStaleAfter (d : Definition) (cycles : UInt32) : Definition := { d with staleAfter := cycles }

/-- The entry with another argument for the predicate. -/
def withArgument (d : Definition) (argument : UInt32) : Definition := { d with argument }

/-- The slot is empty. -/
def isUnused (d : Definition) : Bool := d.format == Format.unused.code

end Definition

end Watchpoint

/-- A watchpoint, decoded from a definition that passed its checks. -/
structure Watchpoint where
  format : Format
  relation : Relation
  messageId : MessageId
  offset : UInt16
  mask : UInt32
  /-- Reference value, narrowed to the format. -/
  reference : Scalar
  staleAfter : UInt32
  argument : UInt32
deriving DecidableEq

namespace Watchpoint

/-- What is wrong with a value as a reference: a floating-point reference has to
be finite. -/
def referenceDefect? : Scalar → Option Defect
  | .single x =>
    if x.isNaN then some .referenceNaN
    else if x.isInfinite then some .referenceInfinite
    else none
  | _ => none

/-- The watchpoint of a definition, nothing for an empty slot, or the first
check that fails. -/
def decode (d : Definition) : Except Defect (Option Watchpoint) :=
  match Format.ofCode? d.format with
  | none => .error .format
  | some .unused => .ok none
  | some format =>
    match Relation.ofCode? d.relation with
    | none => .error .relation
    | some relation =>
      if greatestMessageId < d.messageId then .error .messageId
      else
        match Scalar.narrow format d.reference with
        | .error _ => .error .format
        | .ok reference =>
          match referenceDefect? reference with
          | some defect => .error defect
          | none =>
            .ok (some
              { format, relation, messageId := ⟨d.messageId⟩, offset := d.offset, mask := d.mask
                reference, staleAfter := d.staleAfter, argument := d.argument })

end Watchpoint

end LimitMonitor
