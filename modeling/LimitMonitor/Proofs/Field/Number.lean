import Mathlib.Data.Nat.Digits.Defs
import LimitMonitor.Field.Scalar
import LimitMonitor.Field.Word

/-!
# The numbers that fields stand for

The bytes of a field are the digits of a number to the base 256, written in the order of the
field (`ByteOrder.number`). A signed format reads that number as two's complement, any other
reads it as it is (`Format.integer`), and the word of the field is its bits, extended by the
sign or by zeros (`Format.word`). What the program does with shifts and conversions comes out
as these: a field is read as that word (`read_eq_word`), of the word a mask leaves the bits of
the field that it covers (`toNat_word_and`), and a value narrowed to a format stands for the
integer in the low bits (`integer_narrow`).
-/

namespace LimitMonitor

namespace ByteOrder

/-- The number whose digits to the base 256 are the bytes. -/
def number (order : ByteOrder) (bytes : List UInt8) : Nat :=
  match order with
  | big => Nat.ofDigits 256 (bytes.reverse.map UInt8.toNat)
  | little => Nat.ofDigits 256 (bytes.map UInt8.toNat)

theorem number_lt (order : ByteOrder) (bytes : List UInt8) :
    order.number bytes < 2 ^ (8 * bytes.length) := by
  have hdigits (bytes : List UInt8) :
      Nat.ofDigits 256 (bytes.map UInt8.toNat) < 2 ^ (8 * bytes.length) := by
    have hbytes : ∀ digit ∈ bytes.map UInt8.toNat, digit < 256 := by
      simp only [List.forall_mem_map]
      exact fun b _ => b.toNat_lt
    have hlt := Nat.ofDigits_lt_base_pow_length (by decide) hbytes
    rwa [List.length_map, show 256 = 2 ^ 8 from rfl, ← Nat.pow_mul] at hlt
  cases order with
  | little => exact hdigits bytes
  | big => simpa only [number, List.length_reverse] using hdigits bytes.reverse

end ByteOrder

namespace Field

/-- Bits extended to a word, by their sign or by zeros. -/
def extended (signed : Bool) {n : Nat} (x : BitVec n) : UInt32 :=
  ⟨if signed then x.signExtend 32 else x.setWidth 32⟩

end Field

namespace Format

/-- The number of bits of a field. -/
def bits (f : Format) : Nat := 8 * (f.width?.getD 0).toNat

/-- The integer that the format reads in the low bits of a number: two's complement if the
format is signed. -/
def integer (f : Format) (number : Nat) : Int :=
  let field := BitVec.ofNat f.bits number
  if f.isSigned then field.toInt else field.toNat

/-- The low bits of a number extended to a word, by the sign if the format has one and by
zeros otherwise. -/
def word (f : Format) (number : Nat) : UInt32 :=
  Field.extended f.isSigned (BitVec.ofNat f.bits number)

/-- The number in the field of the format at a position of a payload. -/
def numberAt (f : Format) (payload : Array UInt8) (offset width : Nat) : Nat :=
  f.order.number (payload.extract offset (offset + width)).toList

theorem bits_of_width? {f : Format} {width : UInt8} (h : f.width? = some width) :
    f.bits = 8 * width.toNat := by
  rw [bits, h, Option.getD_some]

theorem bits_le (f : Format) : f.bits ≤ 32 := by
  cases f <;> simp [bits, width?]

end Format

/-! ## Joining bytes -/

namespace Field

/-- Numbers on both sides of a bit do not meet. -/
theorem shiftLeft_or {low i : Nat} (h : low < 2 ^ i) (high : Nat) :
    high <<< i ||| low = 2 ^ i * high + low := by
  rw [← Nat.shiftLeft_add_eq_or_of_lt h, Nat.shiftLeft_eq, Nat.mul_comm]

/-- A byte stays whole where it is shifted to. -/
theorem toNat_shiftLeft_toUInt32 (b : UInt8) {i : UInt32} (hi : i.toNat ≤ 24) :
    (b.toUInt32 <<< i).toNat = b.toNat <<< i.toNat := by
  have hfits : b.toNat * 2 ^ i.toNat < 2 ^ 8 * 2 ^ 24 :=
    Nat.mul_lt_mul_of_lt_of_le b.toNat_lt (Nat.pow_le_pow_right (by decide) hi) (by decide)
  have hi' : i.toNat % 32 = i.toNat := Nat.mod_eq_of_lt (by omega)
  rw [UInt32.toNat_shiftLeft, UInt8.toNat_toUInt32, hi', Nat.shiftLeft_eq]
  exact Nat.mod_eq_of_lt hfits

theorem toNat_join16 (order : ByteOrder) (b₀ b₁ : UInt8) :
    (join16 order b₀ b₁).toNat = order.number [b₀, b₁] := by
  have hjoin (high low : UInt8) :
      ((high.toUInt16 <<< 8) ||| low.toUInt16).toNat = 256 * high.toNat + low.toNat := by
    have hfits : high.toNat * 2 ^ 8 < 2 ^ 8 * 2 ^ 8 :=
      Nat.mul_lt_mul_of_pos_right high.toNat_lt (by decide)
    have hshift : (high.toUInt16 <<< 8).toNat = high.toNat <<< 8 := by
      rw [UInt16.toNat_shiftLeft, UInt8.toNat_toUInt16, Nat.shiftLeft_eq, Nat.shiftLeft_eq]
      exact Nat.mod_eq_of_lt hfits
    rw [UInt16.toNat_or, hshift, UInt8.toNat_toUInt16]
    exact shiftLeft_or low.toNat_lt _
  cases order <;> simp [join16, hjoin, ByteOrder.number, Nat.ofDigits_cons, Nat.add_comm]

theorem toNat_join32 (order : ByteOrder) (b₀ b₁ b₂ b₃ : UInt8) :
    (join32 order b₀ b₁ b₂ b₃).toNat = order.number [b₀, b₁, b₂, b₃] := by
  have hjoin (a b c d : UInt8) :
      ((a.toUInt32 <<< 24) ||| (b.toUInt32 <<< 16) ||| (c.toUInt32 <<< 8) ||| d.toUInt32).toNat =
        2 ^ 24 * a.toNat + (2 ^ 16 * b.toNat + (2 ^ 8 * c.toNat + d.toNat)) := by
    have hb := b.toNat_lt
    have hc := c.toNat_lt
    have hd := d.toNat_lt
    have hcd : 2 ^ 8 * c.toNat + d.toNat < 2 ^ 16 := by omega
    have hbcd : 2 ^ 16 * b.toNat + (2 ^ 8 * c.toNat + d.toNat) < 2 ^ 24 := by omega
    rw [UInt32.toNat_or, UInt32.toNat_or, UInt32.toNat_or,
      toNat_shiftLeft_toUInt32 a (by decide), toNat_shiftLeft_toUInt32 b (by decide),
      toNat_shiftLeft_toUInt32 c (by decide), UInt8.toNat_toUInt32, Nat.or_assoc, Nat.or_assoc]
    change a.toNat <<< 24 ||| (b.toNat <<< 16 ||| (c.toNat <<< 8 ||| d.toNat)) = _
    rw [shiftLeft_or hd, shiftLeft_or hcd, shiftLeft_or hbcd]
  cases order <;> simp [join32, hjoin, ByteOrder.number, Nat.ofDigits_cons] <;> omega

theorem ofNat_toNat_word (x : UInt32) : BitVec.ofNat 32 x.toNat = x.toBitVec := by
  rw [← UInt32.toNat_toBitVec, BitVec.ofNat_toNat, BitVec.setWidth_eq]

theorem widen8_eq_extended (signed : Bool) (b : UInt8) :
    widen8 signed b = extended signed (BitVec.ofNat 8 b.toNat) := by
  rw [← UInt8.toNat_toBitVec, BitVec.ofNat_toNat, BitVec.setWidth_eq]
  cases signed <;> rfl

theorem widen16_eq_extended (signed : Bool) (h : UInt16) :
    widen16 signed h = extended signed (BitVec.ofNat 16 h.toNat) := by
  rw [← UInt16.toNat_toBitVec, BitVec.ofNat_toNat, BitVec.setWidth_eq]
  cases signed <;> rfl

/-- A word is its own extension, whatever the sign. -/
theorem extended_word (signed : Bool) (x : UInt32) :
    extended signed (BitVec.ofNat 32 x.toNat) = x := by
  rw [extended, ofNat_toNat_word, BitVec.signExtend_eq, BitVec.setWidth_eq, ite_self]

/-- **The word of a field** is the number of its bytes, extended to a word. -/
theorem wordOf_eq_word {f : Format} {width : UInt8} (hwidth : f.width? = some width)
    {bytes : List UInt8} (hlength : bytes.length = width.toNat) :
    wordOf f.order f.isSigned bytes = f.word (f.order.number bytes) := by
  cases f with
  | unused => cases hwidth
  | int8 | uint8 =>
    obtain rfl := Option.some.inj hwidth
    match bytes, hlength with
    | [b], _ => exact widen8_eq_extended _ b
  | int16 order | uint16 order =>
    obtain rfl := Option.some.inj hwidth
    match bytes, hlength with
    | [b₀, b₁], _ =>
      rw [Format.word, ← toNat_join16]
      exact widen16_eq_extended _ _
  | int32 order | uint32 order | single order =>
    obtain rfl := Option.some.inj hwidth
    match bytes, hlength with
    | [b₀, b₁, b₂, b₃], _ =>
      rw [Format.word, ← toNat_join32]
      exact (extended_word _ _).symm

example : wordOf .little true [0xFE, 0xFF] = 0xFFFFFFFE := by decide

end Field

namespace Format

theorem length_extract {payload : Array UInt8} {offset width : Nat}
    (hinside : offset + width ≤ payload.size) :
    (payload.extract offset (offset + width)).toList.length = width := by
  rw [Array.length_toList, Array.size_extract, Nat.min_eq_left hinside, Nat.add_sub_cancel_left]

section Read

variable {f : Format} {width : UInt8} (hwidth : f.width? = some width) {payload : Array UInt8}
  {offset : UInt16}
include hwidth

theorem numberAt_lt (hinside : offset.toNat + width.toNat ≤ payload.size) :
    f.numberAt payload offset.toNat width.toNat < 2 ^ f.bits := by
  have hlt := f.order.number_lt (payload.extract offset.toNat (offset.toNat + width.toNat)).toList
  rwa [length_extract hinside, ← bits_of_width? hwidth] at hlt

/-- **A field inside the payload** is read as the word of its number. -/
theorem read_eq_word (hinside : offset.toNat + width.toNat ≤ payload.size) :
    f.read payload offset = .ok (f.word (f.numberAt payload offset.toNat width.toNat)) := by
  simp only [read, hwidth, Field.bytesAt?, if_pos hinside]
  rw [Field.wordOf_eq_word hwidth (length_extract hinside), numberAt]

/-- A field that runs past the end of the payload is not read. -/
theorem read_eq_pastEnd (hbeyond : payload.size < offset.toNat + width.toNat) :
    f.read payload offset = .error (.pastEnd offset width payload.size) := by
  simp only [read, hwidth, Field.bytesAt?, if_neg (Nat.not_le.mpr hbeyond)]

end Read

/-! ## Masking -/

variable {f : Format} {number : Nat}

/-- The low bits of the word are the field. -/
theorem toNat_word_mod (h : number < 2 ^ f.bits) : (f.word number).toNat % 2 ^ f.bits = number := by
  have hsign (x : BitVec f.bits) : (x.signExtend 32).setWidth f.bits = x := by
    refine BitVec.eq_of_getLsbD_eq fun i hi => ?_
    have hword : i < 32 := Nat.lt_of_lt_of_le hi f.bits_le
    rw [BitVec.getLsbD_setWidth, BitVec.getLsbD_signExtend]
    simp only [hi, hword, decide_true, Bool.true_and, if_true]
  have hzero (x : BitVec f.bits) : (x.setWidth 32).setWidth f.bits = x := by
    rw [BitVec.setWidth_setWidth_of_le _ f.bits_le, BitVec.setWidth_eq]
  have hlow : (f.word number).toBitVec.setWidth f.bits = BitVec.ofNat f.bits number := by
    simp only [word, Field.extended]
    split
    · exact hsign _
    · exact hzero _
  have hnumber := congrArg BitVec.toNat hlow
  rwa [BitVec.toNat_setWidth, BitVec.toNat_ofNat, Nat.mod_eq_of_lt h] at hnumber

/-- **A mask on the word** keeps the bits of the field that it covers. -/
theorem toNat_word_and (h : number < 2 ^ f.bits) (mask : UInt32) :
    (f.word number &&& mask).toNat % 2 ^ f.bits = (number &&& mask.toNat) % 2 ^ f.bits := by
  rw [UInt32.toNat_and, Nat.and_mod_two_pow, toNat_word_mod h, Nat.and_mod_two_pow,
    Nat.mod_eq_of_lt h]

/-- The integer depends on the low bits alone. -/
theorem integer_congr {number' : Nat} (h : number' % 2 ^ f.bits = number % 2 ^ f.bits) :
    f.integer number' = f.integer number := by
  have hfield : BitVec.ofNat f.bits number' = BitVec.ofNat f.bits number :=
    BitVec.eq_of_toNat_eq (by rw [BitVec.toNat_ofNat, BitVec.toNat_ofNat, h])
  rw [integer, integer, hfield]

end Format

/-! ## Narrowing -/

namespace Scalar

/-- The integer that a value stands for. A floating-point number counts as its pattern. -/
def integer : Scalar → Int
  | uint8 a => a.toNat
  | int8 a => a.toInt
  | uint16 a => a.toNat
  | int16 a => a.toInt
  | uint32 a => a.toNat
  | int32 a => a.toInt
  | single x => x.bits.toNat

/-- **Narrowing a word** keeps the integer in its low bits. -/
theorem integer_narrow {f : Format} {x : UInt32} {a : Scalar} (h : narrow f x = .ok a) :
    a.integer = f.integer x.toNat := by
  cases f with
  | unused => cases h
  | int8 | uint8 | int16 | uint16 =>
    obtain rfl := Except.ok.inj h
    rfl
  | int32 order =>
    obtain rfl := Except.ok.inj h
    exact congrArg BitVec.toInt (Field.ofNat_toNat_word x).symm
  | uint32 order | single order =>
    obtain rfl := Except.ok.inj h
    exact congrArg (fun b : BitVec 32 => (b.toNat : Int)) (Field.ofNat_toNat_word x).symm

end Scalar

end LimitMonitor
