import Mathlib.Algebra.Group.Nat.Defs
import LimitMonitor.Field.Scalar

/-!
# Orders and distances of floating-point numbers

Whether a number is finite, infinite or not a number can be read off its bits: off an exponent
of ones or not, and a mantissa that is zero or not (`isNaN_iff`, `isInfinite_iff`). This carries
over to the number that the bits stand for (`isNaN_value`, `isFinite_value`). Two numbers, finite
or infinite, are ordered one way or the other (`le_iff_not_lt`), and the distance of a number to
a finite number is a number again (`isNaN_distance`).

A difference is computed on numbers taken apart into sign, mantissa and exponent, rounded and
packed again. So every fact is proved of numbers taken apart first and then carried through the
packing, which may turn a finite number into an infinite one but never makes or loses what is not
a number (`isNaN_unpack_pack`).
-/

namespace LimitMonitor

namespace Single

open Float.Model.UnpackedFloat

section Unpacked

open Float.Model (UnpackedFloat)

variable {spec : Float.Model.Format} {a b : UnpackedFloat}

/-! ## Numbers taken apart -/

/-- Two numbers are ordered one way, and the other way round. -/
theorem compare_total (ha : a.isNaN = false) (hb : b.isNaN = false) :
    ∃ order, a.compare b = some order ∧ b.compare a = some order.swap := by
  have hfinite (e₁ e₂ : Int) (m₁ m₂ : Nat) : (compare e₂ e₁).then (compare m₂ m₁) =
      ((compare e₁ e₂).then (compare m₁ m₂)).swap := by
    rw [Ordering.swap_then, Int.compare_swap, Nat.compare_swap]
  rcases a with ⟨_ | _⟩ | _ | _ | ⟨_ | _, m₁, e₁⟩ <;>
    rcases b with ⟨_ | _⟩ | _ | _ | ⟨_ | _, m₂, e₂⟩
  -- only two finite numbers of one sign are compared by their exponents and mantissas
  all_goals first
    | cases ha; done
    | cases hb; done
    | exact ⟨_, rfl, rfl⟩
    | exact ⟨_, rfl, congrArg some (hfinite e₁ e₂ m₁ m₂)⟩
    | exact ⟨_, rfl, congrArg (fun order : Ordering => some order.swap) (hfinite e₁ e₂ m₁ m₂)⟩

/-- Of two numbers the one is at most the other, or the other is less. -/
theorem le_eq_not_lt (ha : a.isNaN = false) (hb : b.isNaN = false) : a.le b = !b.lt a := by
  obtain ⟨order, h, h'⟩ := compare_total ha hb
  rw [UnpackedFloat.le, UnpackedFloat.lt, h, h']
  cases order <;> rfl

theorem isNaN_zero_or_finite {p : Prop} [Decidable p] (s : Sign) (m : Nat) (e : Int)
    (hm : ¬ p → 0 < m) :
    (if h : p then UnpackedFloat.zero s else .finite s m e (hm h)).isNaN = false := by
  by_cases h : p
  · rw [dif_pos h]; rfl
  · rw [dif_neg h]; rfl

theorem isNaN_round (s : Sign) (m : Nat) (e : Int) :
    (UnpackedFloat.round spec s m e).isNaN = false :=
  isNaN_zero_or_finite ..

theorem isNaN_normalize (m e : Int) (s : Sign) :
    (UnpackedFloat.normalize spec m e s).isNaN = false := by
  unfold UnpackedFloat.normalize
  split
  · exact isNaN_round ..
  · rfl
  · exact isNaN_round ..

/-- **A finite number taken from a number** leaves a number. -/
theorem isNaN_sub (ha : a.isNaN = false) (hb : b.isFinite = true) :
    (UnpackedFloat.sub spec a b).isNaN = false := by
  cases b with
  | infinity | notANumber => cases hb
  | zero s₂ =>
    cases a with
    | notANumber => cases ha
    | infinity | finite => rfl
    | zero s₁ => cases s₁ <;> cases s₂ <;> rfl
  | finite s₂ m₂ e₂ =>
    cases a with
    | notANumber => cases ha
    | infinity | zero => rfl
    | finite s₁ m₁ e₁ => exact isNaN_normalize ..

theorem isNaN_abs : a.abs.isNaN = a.isNaN := by
  cases a <;> rfl

/-! ## Patterns -/

open Float.Model.Format (binary32)

variable {x : BitVec binary32.numBits}

/-- A pattern with an exponent of ones is infinite or not a number. -/
theorem unpack_of_ones (hexponent : unpackExponent x = -1#8) : unpack binary32 x =
    if unpackMantissa x = 0#23 then .infinity (.ofBitVec (unpackSign x)) else .notANumber :=
  if_pos hexponent

/-- Any other pattern is zero, or has a mantissa with an implicit bit or without, where the
exponent is the least. -/
theorem unpack_of_ne_ones (hexponent : unpackExponent x ≠ -1#8) :
    unpack binary32 x = .zero (.ofBitVec (unpackSign x)) ∨ ∃ m e hm,
      unpack binary32 x = .finite (.ofBitVec (unpackSign x)) m e hm ∧
        (e + binary32.exponentBias + (23 : Nat)).toNat + 1 < 2 ^ 8 := by
  have hlt : (unpackExponent x).toNat < 2 ^ 8 := (unpackExponent x).isLt
  have hne : (unpackExponent x).toNat ≠ 2 ^ 8 - 1 :=
    fun heq => hexponent (BitVec.eq_of_toNat_eq heq)
  by_cases hzero : unpackExponent x = 0#8
  · by_cases hmantissa : unpackMantissa x = 0#23
    · exact .inl (((if_neg hexponent).trans (if_pos hzero)).trans (dif_pos hmantissa))
    · refine .inr ⟨_, _, _, ((if_neg hexponent).trans (if_pos hzero)).trans (dif_neg hmantissa),
        ?_⟩
      rw [hzero]
      decide
  · refine .inr ⟨_, _, _, (if_neg hexponent).trans (if_neg hzero), ?_⟩
    have hfits : (((unpackExponent x).toNat : Int) - ((127 : Nat) + (23 : Nat)) + (127 : Nat) +
        (23 : Nat)).toNat + 1 < 2 ^ 8 := by omega
    exact hfits

/-- A pattern is a finite number if its exponent is not all ones. -/
theorem isFinite_unpack : (unpack binary32 x).isFinite = decide (unpackExponent x ≠ -1#8) := by
  by_cases hexponent : unpackExponent x = -1#8
  · rw [unpack_of_ones hexponent, decide_eq_false fun h => h hexponent]
    by_cases hmantissa : unpackMantissa x = 0#23
    · rw [if_pos hmantissa]; rfl
    · rw [if_neg hmantissa]; rfl
  · rw [decide_eq_true hexponent]
    obtain hzero | ⟨m, e, hm, hfinite, -⟩ := unpack_of_ne_ones hexponent
    · rw [hzero]; rfl
    · rw [hfinite]; rfl

theorem isNaN_of_isFinite (h : a.isFinite = true) : a.isNaN = false := by
  cases a with
  | infinity | notANumber => cases h
  | zero | finite => rfl

/-- A pattern is not a number if its exponent is all ones and its mantissa is not zero. -/
theorem isNaN_unpack : (unpack binary32 x).isNaN =
    decide (unpackExponent x = -1#8 ∧ unpackMantissa x ≠ 0#23) := by
  by_cases hexponent : unpackExponent x = -1#8
  · rw [unpack_of_ones hexponent]
    by_cases hmantissa : unpackMantissa x = 0#23
    · rw [if_pos hmantissa, decide_eq_false fun h => h.2 hmantissa]; rfl
    · rw [if_neg hmantissa, decide_eq_true ⟨hexponent, hmantissa⟩]; rfl
  · rw [decide_eq_false fun h => hexponent h.1]
    exact isNaN_of_isFinite (isFinite_unpack.trans (decide_eq_true hexponent))

theorem isFinite_packedZero (s : Sign) :
    (unpack binary32 (packedZero binary32 s)).isFinite = true := by
  cases s <;> decide

/-- A number is packed as infinite if its exponent is too large, and with its biased exponent or
none otherwise. -/
theorem pack_finite (s : Sign) (m : Nat) (e : Int) (hm : 0 < m) :
    pack binary32 (.finite s m e hm) =
      let biased := (e + binary32.exponentBias + (23 : Nat)).toNat
      if 2 ^ 8 ≤ biased + 1 then packedInfinity binary32 s
      else if m.log2 + 1 = binary32.mantissaBits then
        packComponents binary32 s (BitVec.ofNat 8 biased) (BitVec.ofNat 23 m)
      else packComponents binary32 s 0#8 (BitVec.ofNat 23 m) := rfl

/-- A finite number is packed as one, if its exponent fits. -/
theorem isFinite_unpack_pack {s : Sign} {m : Nat} {e : Int} (hm : 0 < m)
    (h : (e + binary32.exponentBias + (23 : Nat)).toNat + 1 < 2 ^ 8) :
    (unpack binary32 (pack binary32 (.finite s m e hm))).isFinite = true := by
  rw [isFinite_unpack, decide_eq_true_eq, pack_finite, if_neg (Nat.not_le.mpr h)]
  split
  · rw [unpackExponent_packComponents]
    intro heq
    have hnat := congrArg BitVec.toNat heq
    rw [BitVec.toNat_ofNat, Nat.mod_eq_of_lt (Nat.lt_of_succ_lt h)] at hnat
    exact absurd hnat (by change _ ≠ 255; omega)
  · rw [unpackExponent_packComponents]
    decide

/-- Packing keeps what is not a number, and nothing else becomes that. -/
theorem isNaN_unpack_pack (a : UnpackedFloat) :
    (unpack binary32 (pack binary32 a)).isNaN = a.isNaN := by
  have hinfinity (s : Sign) : (unpack binary32 (packedInfinity binary32 s)).isNaN = false := by
    cases s <;> decide
  cases a with
  | infinity s => exact hinfinity s
  | notANumber => decide
  | zero s => exact isNaN_of_isFinite (isFinite_packedZero s)
  | finite s m e hm =>
    by_cases hfits : (e + binary32.exponentBias + (23 : Nat)).toNat + 1 < 2 ^ 8
    · exact isNaN_of_isFinite (isFinite_unpack_pack hm hfits)
    · rw [pack_finite, if_pos (Nat.not_lt.mp hfits)]
      exact hinfinity s

/-- A finite pattern stands for a finite number. -/
theorem isFinite_unpack_pack_unpack (h : (unpack binary32 x).isFinite = true) :
    (unpack binary32 (pack binary32 (unpack binary32 x))).isFinite = true := by
  rw [isFinite_unpack, decide_eq_true_eq] at h
  obtain hzero | ⟨m, e, hm, hfinite, hfits⟩ := unpack_of_ne_ones h
  · rw [hzero]
    exact isFinite_packedZero _
  · rw [hfinite]
    exact isFinite_unpack_pack hm hfits

theorem toNat_unpackExponent : (unpackExponent x).toNat = x.toNat / 2 ^ 23 % 2 ^ 8 := by
  rw [unpackExponent, BitVec.toNat_cast, BitVec.extractLsb_toNat, Nat.shiftRight_eq_div_pow]
  rfl

theorem toNat_unpackMantissa : (unpackMantissa x).toNat = x.toNat % 2 ^ 23 := by
  rw [unpackMantissa, BitVec.toNat_cast, BitVec.extractLsb_toNat, Nat.shiftRight_zero]
  rfl

end Unpacked

variable {x a b : Single}

/-! ## Numbers as patterns -/

theorem toNat_magnitude : x.magnitude.toNat = x.bits.toNat % 2 ^ 31 := by
  rw [magnitude, UInt32.toNat_and]
  exact Nat.and_two_pow_sub_one_eq_mod x.bits.toNat 31

/-- The exponent is all ones and the mantissa is not zero. -/
theorem isNaN_iff : x.isNaN = true ↔
    x.bits.toNat / 2 ^ 23 % 2 ^ 8 = 2 ^ 8 - 1 ∧ x.bits.toNat % 2 ^ 23 ≠ 0 := by
  rw [isNaN, decide_eq_true_eq, UInt32.lt_iff_toNat_lt, toNat_magnitude]
  change 0x7F800000 < _ ↔ _
  omega

/-- The exponent is all ones and the mantissa is zero. -/
theorem isInfinite_iff : x.isInfinite = true ↔
    x.bits.toNat / 2 ^ 23 % 2 ^ 8 = 2 ^ 8 - 1 ∧ x.bits.toNat % 2 ^ 23 = 0 := by
  rw [isInfinite, decide_eq_true_eq, ← UInt32.toNat_inj, toNat_magnitude]
  change _ = 0x7F800000 ↔ _
  omega

/-- **A pattern that is not a number** stands for none. -/
theorem isNaN_value : x.value.isNaN = x.isNaN := by
  refine (isNaN_unpack_pack _).trans ?_
  rw [isNaN_unpack, Bool.eq_iff_iff, isNaN_iff, decide_eq_true_eq, ← BitVec.toNat_inj, ne_eq,
    ← BitVec.toNat_inj, toNat_unpackExponent, toNat_unpackMantissa]
  rfl

/-- **A pattern that is neither infinite nor not a number** stands for a finite number. -/
theorem isFinite_value (hnan : x.isNaN = false) (hinfinite : x.isInfinite = false) :
    x.value.isFinite = true := by
  refine isFinite_unpack_pack_unpack ?_
  rw [isFinite_unpack, decide_eq_true_eq, ne_eq, ← BitVec.toNat_inj, toNat_unpackExponent]
  intro hexponent
  rw [← Bool.not_eq_true] at hnan hinfinite
  by_cases hmantissa : x.bits.toNat % 2 ^ 23 = 0
  · exact hinfinite (isInfinite_iff.mpr ⟨hexponent, hmantissa⟩)
  · exact hnan (isNaN_iff.mpr ⟨hexponent, hmantissa⟩)

/-! ## Orders -/

section Order

variable {u v : Float32}

/-- **Of two numbers** the one is at most the other, or the other is less. -/
theorem le_iff_not_lt (hu : u.isNaN = false) (hv : v.isNaN = false) : u ≤ v ↔ ¬ v < u := by
  have hle : u ≤ v ↔ u.toModel.unpack.le v.toModel.unpack = true := decide_eq_true_iff
  have hlt : v < u ↔ v.toModel.unpack.lt u.toModel.unpack = true := decide_eq_true_iff
  rw [hle, hlt, le_eq_not_lt hu hv, Bool.not_eq_true', Bool.not_eq_true]

/-- **The distance** of a number to a finite number is a number. -/
theorem isNaN_distance (ha : a.isNaN = false) (hb : b.isNaN = false)
    (hfinite : b.isInfinite = false) : (a.distance b).isNaN = false := by
  have hvalue : a.value.isNaN = false := isNaN_value.trans ha
  have hdifference : (a.value - b.value).isNaN = false :=
    (isNaN_unpack_pack _).trans (isNaN_sub hvalue (isFinite_value hb hfinite))
  exact (isNaN_unpack_pack _).trans (isNaN_abs.trans hdifference)

end Order

end Single

end LimitMonitor
