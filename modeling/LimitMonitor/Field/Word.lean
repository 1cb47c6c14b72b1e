import LimitMonitor.Field.Format

/-!
# Reading a field

`Format.read` takes the bytes of a field out of a payload and gives them as one
32-bit word: joined in the declared order, a signed integer extended by its
sign, any other field by zeros. A field that is not wholly inside the payload
is a fault.
-/

namespace LimitMonitor

namespace Field

/-- The bytes at `offset`, if the payload has `width` of them there. -/
def bytesAt? (payload : Array UInt8) (offset width : Nat) : Option (List UInt8) :=
  if offset + width ≤ payload.size then some (payload.extract offset (offset + width)).toList
  else none

/-- Two bytes joined in the given order. -/
def join16 (order : ByteOrder) (first second : UInt8) : UInt16 :=
  match order with
  | .big => (first.toUInt16 <<< 8) ||| second.toUInt16
  | .little => (second.toUInt16 <<< 8) ||| first.toUInt16

/-- Four bytes joined in the given order. -/
def join32 (order : ByteOrder) (b₀ b₁ b₂ b₃ : UInt8) : UInt32 :=
  match order with
  | .big => (b₀.toUInt32 <<< 24) ||| (b₁.toUInt32 <<< 16) ||| (b₂.toUInt32 <<< 8) ||| b₃.toUInt32
  | .little => (b₃.toUInt32 <<< 24) ||| (b₂.toUInt32 <<< 16) ||| (b₁.toUInt32 <<< 8) ||| b₀.toUInt32

/-- A byte as a word, extended by its sign or by zeros. -/
def widen8 (signed : Bool) (b : UInt8) : UInt32 :=
  if signed then b.toInt8.toInt32.toUInt32 else b.toUInt32

/-- A half-word as a word, extended by its sign or by zeros. -/
def widen16 (signed : Bool) (h : UInt16) : UInt32 :=
  if signed then h.toInt16.toInt32.toUInt32 else h.toUInt32

/-- The word of one, two or four bytes. Other lengths do not arise and give zero. -/
def wordOf (order : ByteOrder) (signed : Bool) : List UInt8 → UInt32
  | [b] => widen8 signed b
  | [b₀, b₁] => widen16 signed (join16 order b₀ b₁)
  | [b₀, b₁, b₂, b₃] => join32 order b₀ b₁ b₂ b₃
  | _ => 0

end Field

namespace Format

/-- The word of the field at `offset`. -/
def read (f : Format) (payload : Array UInt8) (offset : UInt16) : Except Field.Fault UInt32 :=
  match f.width? with
  | none => .error (.undefinedFormat f.code)
  | some width =>
    match Field.bytesAt? payload offset.toNat width.toNat with
    | none => .error (.pastEnd offset width payload.size)
    | some bytes => .ok (Field.wordOf f.order f.isSigned bytes)

end Format

end LimitMonitor
