/-!
# Capacities and bounds

The monitor works on tables of a fixed size. This module holds those sizes,
the type of a slot of each table, and the few numeric bounds that definitions
are checked against. A slot number that arrives from outside becomes a slot
through `WatchSlot.ofNumber?` or `ActionSlot.ofNumber?`, and nowhere else.
-/

namespace LimitMonitor

/-- Slots of the watchpoint table. -/
abbrev watchCapacity : Nat := 176

/-- Slots of the actionpoint table. -/
abbrev actionCapacity : Nat := 176

/-- Tokens that the buffer of one equation holds. -/
abbrev equationCapacity : Nat := 20

/-- Bytes of UTF-8 that the text of one event may take. -/
abbrev eventTextCapacity : Nat := 32

/-- Buckets of the dispatch index. -/
abbrev bucketCount : Nat := 256

/-- The bits of a message identifier that choose its bucket. -/
def bucketMask : UInt16 := 0xFF

/-- The target number of a command that addresses every slot of a table. -/
def everySlot : UInt16 := 0xFFFF

/-- The greatest message identifier that a watchpoint may name. -/
def greatestMessageId : UInt16 := 0x1FFF

/-- The greatest response that an actionpoint may name. -/
def greatestResponseId : UInt16 := 0xFFF0

/-- Bytes of the packed watchpoint verdicts, four to a byte. -/
abbrev packedVerdictBytes : Nat := 44

/-- Bytes of the packed actionpoint outcomes, two to a byte. -/
abbrev packedOutcomeBytes : Nat := 88

/-- The version that the monitor reports for itself. -/
def version : String := "0.1.0"

/-! ## Slots -/

/-- A slot of the watchpoint table. -/
abbrev WatchSlot := Fin watchCapacity

/-- A slot of the actionpoint table. -/
abbrev ActionSlot := Fin actionCapacity

/-- The number of a slot as messages and commands carry it. -/
def slotNumber {n : Nat} (slot : Fin n) : UInt16 := UInt16.ofNat slot.val

namespace WatchSlot

/-- The slot with this number, if the table has one. -/
def ofNumber? (number : UInt16) : Option WatchSlot :=
  if h : number.toNat < watchCapacity then some ⟨number.toNat, h⟩ else none

/-- Every slot, in table order. -/
def all : List WatchSlot := List.finRange watchCapacity

end WatchSlot

namespace ActionSlot

/-- The slot with this number, if the table has one. -/
def ofNumber? (number : UInt16) : Option ActionSlot :=
  if h : number.toNat < actionCapacity then some ⟨number.toNat, h⟩ else none

/-- Every slot, in table order. -/
def all : List ActionSlot := List.finRange actionCapacity

end ActionSlot

end LimitMonitor
