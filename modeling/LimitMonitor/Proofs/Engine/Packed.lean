import LimitMonitor.Engine.Snapshot
import LimitMonitor.Proofs.Table.Slots
import Mathlib.Data.Nat.Digits.Lemmas

/-!
# Reading packed views

A byte of a packed view is divided into fields of two or four bits, the first one lowest.
As a number it has the codes of its entries as digits (`toNat_byteOf`), so every code reads
back from its own field and no code gets in the way of another
(`fieldOf_byteOf`). For whole views this says where the code of each slot is found, and
that a slot without an entry reads as zero (`pairAt_verdicts`, `nibbleAt_outcomes`).
-/

namespace LimitMonitor

namespace Packed

/-! ## One byte -/

/-- The field at a place of a byte that is divided into fields of `width` bits. -/
def fieldOf (width : Nat) (byte : UInt8) (place : Nat) : UInt8 :=
  (byte >>> UInt8.ofNat (width * place)) &&& UInt8.ofNat (2 ^ width - 1)

variable {width : Nat} {codes : List UInt8}

theorem toNat_fieldOf (hwidth : width < 8) {place : Nat} (hplace : width * place < 8)
    (byte : UInt8) :
    (fieldOf width byte place).toNat = byte.toNat / 2 ^ (width * place) % 2 ^ width := by
  have hmask : 2 ^ width - 1 < UInt8.size :=
    Nat.lt_of_le_of_lt (Nat.sub_le _ _) (Nat.pow_lt_pow_right Nat.one_lt_two hwidth)
  have hshift : width * place < UInt8.size := Nat.lt_trans hplace (by decide)
  rw [fieldOf, UInt8.toNat_and, UInt8.toNat_shiftRight, UInt8.toNat_ofNat_of_lt' hmask,
    UInt8.toNat_ofNat_of_lt' hshift, Nat.mod_eq_of_lt hplace, Nat.and_two_pow_sub_one_eq_mod,
    Nat.shiftRight_eq_div_pow]

/-- The codes are numbers of `width` bits. -/
def Fits (width : Nat) (codes : List UInt8) : Prop := ∀ code ∈ codes, code.toNat < 2 ^ width

theorem Fits.digits (h : Fits width codes) :
    ∀ digit ∈ codes.map UInt8.toNat, digit < 2 ^ width := by
  intro digit hdigit
  obtain ⟨code, hcode, rfl⟩ := List.mem_map.mp hdigit
  exact h code hcode

/-- **A byte has its codes as digits**, if there is room for them. -/
theorem toNat_byteOf (hpos : 0 < width) (hwidth : width < 8) (hcodes : Fits width codes)
    (room : width * codes.length ≤ 8) :
    (byteOf width codes).toNat = Nat.ofDigits (2 ^ width) (codes.map UInt8.toNat) := by
  induction codes with
  | nil => rfl
  | cons code rest ih =>
    obtain ⟨hcode, hrest⟩ := List.forall_mem_cons.mp hcodes
    rw [List.length_cons, Nat.mul_succ] at room
    have hdigits := ih hrest (by omega)
    -- the codes above this one leave its field free and end in the byte
    have hbound : (byteOf width rest).toNat < 2 ^ (width * rest.length) := by
      have hlt := Nat.ofDigits_lt_base_pow_length (Nat.one_lt_two_pow hpos.ne') (Fits.digits hrest)
      rwa [← hdigits, List.length_map, ← Nat.pow_mul] at hlt
    have hshifted : (byteOf width rest).toNat <<< width < 2 ^ 8 := by
      have hbase : 0 < 2 ^ width := Nat.two_pow_pos width
      rw [Nat.shiftLeft_eq]
      calc (byteOf width rest).toNat * 2 ^ width
          < 2 ^ (width * rest.length) * 2 ^ width := Nat.mul_lt_mul_of_pos_right hbound hbase
        _ = 2 ^ (width * rest.length + width) := (Nat.pow_add _ _ _).symm
        _ ≤ 2 ^ 8 := Nat.pow_le_pow_right Nat.two_pos room
    have hamount : width < UInt8.size := Nat.lt_trans hwidth (by decide)
    rw [byteOf, UInt8.toNat_or, UInt8.toNat_shiftLeft, UInt8.toNat_ofNat_of_lt' hamount,
      Nat.mod_eq_of_lt hwidth, Nat.mod_eq_of_lt hshifted, Nat.or_comm,
      ← Nat.shiftLeft_add_eq_or_of_lt hcode, Nat.shiftLeft_eq, hdigits, List.map_cons,
      Nat.ofDigits_cons, Nat.add_comm, Nat.mul_comm]

/-- A digit of a number is read off by division. -/
theorem ofDigits_div_mod {base : Nat} (hbase : 0 < base) {digits : List Nat}
    (hdigits : ∀ digit ∈ digits, digit < base) (place : Nat) :
    Nat.ofDigits base digits / base ^ place % base = digits[place]?.getD 0 := by
  rw [Nat.ofDigits_div_pow_eq_ofDigits_drop place hbase digits hdigits, ← List.head?_drop]
  cases hdrop : digits.drop place with
  | nil => simp
  | cons digit rest =>
    have hdigit : digit < base := by
      refine hdigits digit (List.mem_of_mem_drop (i := place) ?_)
      rw [hdrop]
      exact List.mem_cons_self
    rw [Nat.ofDigits_cons, Nat.add_mul_mod_self_left, Nat.mod_eq_of_lt hdigit]
    rfl

/-- **Every code reads back from its field**, and a field without a code is zero. -/
theorem fieldOf_byteOf (hpos : 0 < width) (hwidth : width < 8) (hcodes : Fits width codes)
    (room : width * codes.length ≤ 8) {place : Nat} (hplace : width * place < 8) :
    fieldOf width (byteOf width codes) place = codes[place]?.getD 0 := by
  refine UInt8.toNat_inj.mp ?_
  rw [toNat_fieldOf hwidth hplace, toNat_byteOf hpos hwidth hcodes room, Nat.pow_mul,
    ofDigits_div_mod (Nat.two_pow_pos width) (Fits.digits hcodes), List.getElem?_map]
  cases codes[place]? <;> rfl

/-! ## Views -/

/-- Entries that are packed so many to a byte are found by quotient and remainder. -/
theorem fieldOf_byteOf_entries {α : Type} {perByte : Nat} (hpos : 0 < width) (hwidth : width < 8)
    (hperByte : 0 < perByte) (room : width * perByte ≤ 8) (code : α → UInt8)
    (hcode : ∀ entry, (code entry).toNat < 2 ^ width) (entries : List α) (i : Nat) :
    fieldOf width
        (byteOf width (((entries.drop (perByte * (i / perByte))).take perByte).map code))
        (i % perByte) =
      (entries[i]?.map code).getD 0 := by
  have hplace : i % perByte < perByte := Nat.mod_lt i hperByte
  rw [fieldOf_byteOf hpos hwidth ?_ ?_ ?_]
  · rw [List.getElem?_map, List.getElem?_take_of_lt hplace, List.getElem?_drop, Nat.div_add_mod]
  · intro c hc
    obtain ⟨entry, -, rfl⟩ := List.mem_map.mp hc
    exact hcode entry
  · rw [List.length_map]
    exact (Nat.mul_le_mul_left width (List.length_take_le _ _)).trans room
  · exact Nat.lt_of_lt_of_le (Nat.mul_lt_mul_of_pos_left hplace hpos) room

/-- The two bits that a packed view has for a watchpoint. -/
def pairAt (view : Vector UInt8 packedVerdictBytes) (slot : WatchSlot) : UInt8 :=
  fieldOf 2 (view.get ⟨slot.val / 4, Nat.div_lt_of_lt_mul slot.isLt⟩) (slot.val % 4)

/-- The four bits that a packed view has for an actionpoint. -/
def nibbleAt (view : Vector UInt8 packedOutcomeBytes) (slot : ActionSlot) : UInt8 :=
  fieldOf 4 (view.get ⟨slot.val / 2, Nat.div_lt_of_lt_mul slot.isLt⟩) (slot.val % 2)

theorem toNat_code_lt (v : Verdict) : v.code.toNat < 2 ^ 2 := by
  cases v <;> decide

theorem toNat_nibble_lt (state : Actionpoint.State) (outcome : Outcome) :
    (nibble state outcome).toNat < 2 ^ 4 := by
  cases state <;> cases outcome <;> decide

/-- **The code of each verdict reads back from its two bits.** -/
theorem pairAt_verdicts (entries : List Verdict) (slot : WatchSlot) :
    pairAt (verdicts entries) slot = (entries[slot.val]?.map Verdict.code).getD 0 := by
  rw [pairAt, verdicts, Slots.get_ofFn]
  exact fieldOf_byteOf_entries (by decide) (by decide) (by decide) (by decide) Verdict.code
    toNat_code_lt entries slot.val

/-- **The code of each actionpoint reads back from its four bits.** -/
theorem nibbleAt_outcomes (entries : List (Actionpoint.State × Outcome)) (slot : ActionSlot) :
    nibbleAt (outcomes entries) slot =
      (entries[slot.val]?.map fun entry => nibble entry.1 entry.2).getD 0 := by
  have hcode : ∀ entry : Actionpoint.State × Outcome,
      (nibble entry.1 entry.2).toNat < 2 ^ 4 := fun entry => toNat_nibble_lt entry.1 entry.2
  have room : 4 * 2 ≤ 8 := Nat.le_refl 8
  have hfield := fieldOf_byteOf_entries (by decide) (by decide) Nat.two_pos room _ hcode entries
    slot.val
  rw [nibbleAt, outcomes, Slots.get_ofFn]
  exact hfield

end Packed

end LimitMonitor
