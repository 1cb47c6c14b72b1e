/-!
# Field formats

The format of a field fixes its width, byte order and reading as a number. A
definition carries it as a code; `ofCode?` and `code` are inverse to each
other (`ofCode?_code`, `code_of_ofCode?`). A code that names no format is one of
the faults that stop the evaluation of a watchpoint.
-/

namespace LimitMonitor

namespace Field

/-- A cause that stops the evaluation of one watchpoint. -/
inductive Fault where
  /-- The code names no field format, or the format is that of an empty slot. -/
  | undefinedFormat (code : UInt8)
  /-- The code names no relation that can be tested here. -/
  | undefinedRelation (code : UInt8)
  /-- The field runs past the end of the message. -/
  | pastEnd (offset : UInt16) (width : UInt8) (length : Nat)
  /-- The masked field is not a number. -/
  | notANumber (bits : UInt32)
deriving DecidableEq

namespace Fault

/-- The wording of a fault. -/
def text : Fault → String
  | undefinedFormat code => s!"Undefined watchpoint data type {code}"
  | undefinedRelation code => s!"Undefined comparison operator {code}"
  | pastEnd offset width length => s!"Offset {offset} + {width} exceeds message length {length}"
  | notANumber _ => "Extracted float value is NaN"

end Fault

end Field

/-- The order of the bytes of a field. -/
inductive ByteOrder where
  /-- Most significant byte first. -/
  | big
  /-- Least significant byte first. -/
  | little
deriving DecidableEq

/-- How the bytes of a field are read. -/
inductive Format where
  /-- The slot is empty. -/
  | unused
  | int8
  | uint8
  | int16 (order : ByteOrder)
  | uint16 (order : ByteOrder)
  | int32 (order : ByteOrder)
  | uint32 (order : ByteOrder)
  | single (order : ByteOrder)
deriving DecidableEq

namespace Format

/-- The code of a format in a definition. -/
def code : Format → UInt8
  | int8 => 1
  | uint8 => 2
  | int16 .big => 3
  | int16 .little => 4
  | uint16 .big => 5
  | uint16 .little => 6
  | int32 .big => 7
  | int32 .little => 8
  | uint32 .big => 9
  | uint32 .little => 10
  | single .big => 11
  | single .little => 12
  | unused => 255

/-- The format with a code, if there is one. -/
def ofCode? (code : UInt8) : Option Format :=
  match code with
  | 1 => some int8
  | 2 => some uint8
  | 3 => some (int16 .big)
  | 4 => some (int16 .little)
  | 5 => some (uint16 .big)
  | 6 => some (uint16 .little)
  | 7 => some (int32 .big)
  | 8 => some (int32 .little)
  | 9 => some (uint32 .big)
  | 10 => some (uint32 .little)
  | 11 => some (single .big)
  | 12 => some (single .little)
  | 255 => some unused
  | _ => none

/-- The format with a code; any other code is a fault. -/
def ofCode (code : UInt8) : Except Field.Fault Format :=
  match ofCode? code with
  | some format => .ok format
  | none => .error (.undefinedFormat code)

/-- The width of a field in bytes; an empty slot has none. -/
def width? : Format → Option UInt8
  | unused => none
  | int8 | uint8 => some 1
  | int16 _ | uint16 _ => some 2
  | int32 _ | uint32 _ | single _ => some 4

/-- The order of the bytes; a format without an order counts as `big`. -/
def order : Format → ByteOrder
  | int16 order | uint16 order | int32 order | uint32 order | single order => order
  | unused | int8 | uint8 => .big

/-- The format is a signed integer. -/
def isSigned : Format → Bool
  | int8 | int16 _ | int32 _ => true
  | unused | uint8 | uint16 _ | uint32 _ | single _ => false

/-- The format is a floating-point number. -/
def isSingle : Format → Bool
  | single _ => true
  | _ => false

theorem ofCode?_code (f : Format) : ofCode? f.code = some f := by
  rcases f with _ | _ | _ | ⟨_ | _⟩ | ⟨_ | _⟩ | ⟨_ | _⟩ | ⟨_ | _⟩ | ⟨_ | _⟩ <;> rfl

theorem code_of_ofCode? {code : UInt8} {f : Format} (h : ofCode? code = some f) :
    f.code = code := by
  unfold ofCode? at h
  split at h <;> first | (obtain rfl := Option.some.inj h; rfl) | exact absurd h (by simp)

end Format

end LimitMonitor
