/-!
# Counters that stop at their greatest value

Every statistic of the monitor is a 32-bit count that never wraps: past the
greatest value it stays there. `toNat_next` says so in natural numbers, and
`Counts` relates a counter to the number of things that it has counted, so that a
history of any length is compared with it (`Counts.next`, `Counts.within_iff`).
-/

namespace LimitMonitor

/-- A count that stays at `2 ^ 32 - 1` once it is there. -/
structure Counter where
  value : UInt32
deriving DecidableEq

namespace Counter

/-- The count of nothing. -/
def zero : Counter := ⟨0⟩

/-- The count of one thing. -/
def one : Counter := ⟨1⟩

/-- One more, if a greater value exists. -/
def next (c : Counter) : Counter :=
  if c.value = 0xFFFFFFFF then c else ⟨c.value + 1⟩

/-- The count as a natural number. -/
def toNat (c : Counter) : Nat := c.value.toNat

/-- The count has not passed a 16-bit cap. -/
def within (c : Counter) (cap : UInt16) : Bool := c.value ≤ cap.toUInt32

/-- **A step adds one up to the greatest value.** -/
theorem toNat_next (c : Counter) : c.next.toNat = min (c.toNat + 1) 0xFFFFFFFF := by
  obtain ⟨v⟩ := c
  have hv : v.toNat < 2 ^ 32 := v.toNat_lt
  unfold next toNat
  split
  · next h =>
    have h' : v = 0xFFFFFFFF := h
    subst h'
    decide
  · next h =>
    have hne : v.toNat ≠ 2 ^ 32 - 1 := fun e => h (UInt32.toNat_inj.mp e)
    have hadd : (v + 1).toNat = (v.toNat + 1) % 2 ^ 32 := by simp [UInt32.toNat_add]
    simp only [hadd]
    omega

/-! ## What a counter has counted -/

/-- The counter has counted so many things: it shows their number, up to the greatest
value. -/
def Counts (c : Counter) (n : Nat) : Prop := c.toNat = min n 0xFFFFFFFF

theorem counts_zero : zero.Counts 0 := rfl

/-- One more thing is counted. -/
theorem Counts.next {c : Counter} {n : Nat} (h : c.Counts n) : c.next.Counts (n + 1) := by
  unfold Counts at h ⊢
  rw [toNat_next, h]
  omega

/-- **A cap is passed by the things counted, and for good.** It is less than the greatest
value, so a counter that has stopped there is past it. -/
theorem Counts.within_iff {c : Counter} {n : Nat} (h : c.Counts n) (cap : UInt16) :
    c.within cap = true ↔ n ≤ cap.toNat := by
  have hcap : cap.toNat < 2 ^ 16 := cap.toNat_lt
  have hvalue : c.value.toNat = min n 0xFFFFFFFF := h
  rw [within, decide_eq_true_eq, UInt32.le_iff_toNat_le, UInt16.toNat_toUInt32, hvalue]
  omega

end Counter

end LimitMonitor
