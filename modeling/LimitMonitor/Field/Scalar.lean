import LimitMonitor.Field.Format

/-!
# Values at their declared width

Before it is compared, a word is narrowed to the width and signedness of its
format. A reference is narrowed once, when its definition is decoded. A
floating-point value is kept as its bit pattern, so that not a number and the
infinities are properties of bits; arithmetic and order are those of IEEE 754
on the number that the pattern stands for.
-/

namespace LimitMonitor

/-- A single-precision number, by its bit pattern. -/
structure Single where
  bits : UInt32
deriving DecidableEq

namespace Single

/-- The bits without the sign. -/
def magnitude (x : Single) : UInt32 := x.bits &&& 0x7FFFFFFF

/-- The exponent is all ones and the mantissa is not zero. -/
def isNaN (x : Single) : Bool := 0x7F800000 < x.magnitude

/-- The exponent is all ones and the mantissa is zero. -/
def isInfinite (x : Single) : Bool := x.magnitude = 0x7F800000

/-- The number that the pattern stands for. -/
def value (x : Single) : Float32 := Float32.ofBits x.bits

/-- The greatest difference of two numbers that count as equal, about `1e-25`. -/
def tolerance : Single := ⟨368547464⟩

/-- The size of the difference of two numbers. -/
def distance (a b : Single) : Float32 := (a.value - b.value).abs

end Single

/-- A value at its declared width and signedness. -/
inductive Scalar where
  | uint8 (value : UInt8)
  | int8 (value : Int8)
  | uint16 (value : UInt16)
  | int16 (value : Int16)
  | uint32 (value : UInt32)
  | int32 (value : Int32)
  | single (value : Single)
deriving DecidableEq

namespace Scalar

/-- The low bits of a word as a value of the format. -/
def narrow (format : Format) (word : UInt32) : Except Field.Fault Scalar :=
  match format with
  | .unused => .error (.undefinedFormat format.code)
  | .int8 => .ok (int8 word.toUInt8.toInt8)
  | .uint8 => .ok (uint8 word.toUInt8)
  | .int16 _ => .ok (int16 word.toUInt16.toInt16)
  | .uint16 _ => .ok (uint16 word.toUInt16)
  | .int32 _ => .ok (int32 word.toInt32)
  | .uint32 _ => .ok (uint32 word)
  | .single _ => .ok (single ⟨word⟩)

end Scalar

end LimitMonitor
