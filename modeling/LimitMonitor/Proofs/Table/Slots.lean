import LimitMonitor.Capacity
import Mathlib.Data.List.FinRange

/-!
# Slots of a table

A table is a vector, and a slot is an index that is always inside it. The lemmas
here say what `get` reads after a write and from the tables that are built at once.
-/

namespace LimitMonitor

namespace Slots

variable {α β : Type} {n : Nat}

/-- The number of a slot is its position, in a table that 16 bits can number. -/
theorem toNat_slotNumber (hn : n ≤ UInt16.size) (slot : Fin n) :
    (slotNumber slot).toNat = slot.val :=
  UInt16.toNat_ofNat_of_lt (Nat.lt_of_lt_of_le slot.isLt hn)

theorem slotNumber_inj (hn : n ≤ UInt16.size) {slot other : Fin n} :
    slotNumber slot = slotNumber other ↔ slot = other := by
  refine ⟨fun h => Fin.ext ?_, fun h => h ▸ rfl⟩
  rw [← toNat_slotNumber hn slot, ← toNat_slotNumber hn other, h]

/-- No slot has the number that addresses every slot. -/
theorem slotNumber_ne_everySlot (hn : n < UInt16.size) (slot : Fin n) :
    slotNumber slot ≠ everySlot := by
  intro h
  have hslot := slot.isLt
  have hsize : UInt16.size = everySlot.toNat + 1 := rfl
  have hval := toNat_slotNumber (Nat.le_of_lt hn) slot
  rw [h] at hval
  omega

/-- A number that is checked against the size of the table names the slot with it. -/
theorem slotAt_eq_some (hn : n ≤ UInt16.size) {number : UInt16} {slot : Fin n} :
    (if h : number.toNat < n then some (⟨number.toNat, h⟩ : Fin n) else none) = some slot ↔
      number = slotNumber slot := by
  have hval := toNat_slotNumber hn slot
  split
  · simp only [Option.some.injEq, Fin.ext_iff, ← UInt16.toNat_inj, hval]
  · next hout =>
    refine ⟨nofun, fun h => absurd ?_ hout⟩
    rw [h, hval]
    exact slot.isLt

/-- A slot reads what was written to it last. -/
theorem get_set (table : Vector α n) (i slot : Fin n) (entry : α) :
    (table.set i entry i.isLt).get slot = if i = slot then entry else table.get slot := by
  have hget : (table.set i entry i.isLt).get slot = (table.set i entry i.isLt)[slot.val] := rfl
  rw [hget, Vector.getElem_set]
  by_cases h : i = slot
  · subst h
    simp
  · have hval : i.val ≠ slot.val := fun e => h (Fin.ext e)
    rw [if_neg h, if_neg hval]
    rfl

@[simp] theorem get_set_self (table : Vector α n) (slot : Fin n) (entry : α) :
    (table.set slot entry slot.isLt).get slot = entry := by
  rw [get_set, if_pos rfl]

theorem get_set_of_ne (table : Vector α n) {i slot : Fin n} (entry : α) (h : slot ≠ i) :
    (table.set i entry i.isLt).get slot = table.get slot := by
  rw [get_set, if_neg h.symm]

@[simp] theorem get_replicate (entry : α) (slot : Fin n) :
    (Vector.replicate n entry).get slot = entry :=
  Vector.getElem_replicate slot.isLt

@[simp] theorem get_map (f : α → β) (table : Vector α n) (slot : Fin n) :
    (table.map f).get slot = f (table.get slot) :=
  Vector.getElem_map f slot.isLt

@[simp] theorem get_ofFn (f : Fin n → α) (slot : Fin n) : (Vector.ofFn f).get slot = f slot :=
  Vector.getElem_ofFn slot.isLt

/-- Tables that agree on every slot are equal. -/
theorem ext {table other : Vector α n} (h : ∀ slot, table.get slot = other.get slot) :
    table = other :=
  Vector.ext fun i hi => h ⟨i, hi⟩

/-- The list of a table, at the position of a slot. -/
theorem getElem?_toList (table : Vector α n) (slot : Fin n) :
    table.toList[slot.val]? = some (table.get slot) := by
  rw [Vector.getElem?_toList, Vector.getElem?_eq_getElem slot.isLt]
  rfl

/-- The list of a table goes through its slots in order. -/
theorem toList_eq_map (table : Vector α n) : table.toList = (List.finRange n).map table.get := by
  have hfn : table = Vector.ofFn table.get := ext fun slot => (get_ofFn _ slot).symm
  rw [← List.ofFn_eq_map, ← Vector.toList_ofFn, ← hfn]

end Slots

namespace WatchSlot

theorem slotNumber_inj {slot other : WatchSlot} :
    slotNumber slot = slotNumber other ↔ slot = other :=
  Slots.slotNumber_inj (by decide)

theorem ofNumber?_eq_some {number : UInt16} {slot : WatchSlot} :
    ofNumber? number = some slot ↔ number = slotNumber slot :=
  Slots.slotAt_eq_some (by decide)

end WatchSlot

end LimitMonitor
