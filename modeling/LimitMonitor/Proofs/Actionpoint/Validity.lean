import LimitMonitor.Proofs.Actionpoint.Response
import LimitMonitor.Proofs.Equation.Definite

/-!
# Actionpoints that passed their checks

An actionpoint comes into being by decoding a definition. `Valid` is what a sample relies
on: a threshold, a response in its range, and above all an equation that passes the
check. The equation of a valid actionpoint always has an outcome (`evaluate_of_valid`),
which is `error` only if one of its operands is (`error_of_outcome`), so a sample never
comes upon a malformed equation.
-/

namespace LimitMonitor

namespace Actionpoint

/-! ## Decoding -/

/-- What a sample of an actionpoint relies on. -/
structure Valid (a : Actionpoint) : Prop where
  /-- It takes a failure to reach the threshold. -/
  threshold : 1 ≤ a.threshold.toNat
  /-- The response is in its range. -/
  responseId : a.responseId ≤ greatestResponseId
  /-- The equation passes the check. -/
  equation : Equation.check a.equation.toList = .ok ()

/-- **An actionpoint that was decoded is valid.** -/
theorem valid_of_decode {d : Definition} {a : Actionpoint} (h : decode d = .ok (some a)) :
    a.Valid := by
  unfold decode at h
  split at h
  · cases h
  · cases h
  · split at h
    · cases h
    · next hresponse =>
      split at h
      · cases h
      · next hthreshold =>
        split at h
        · cases h
        · split at h
          · cases h
          · next hequation =>
            obtain rfl := Option.some.inj (Except.ok.inj h)
            exact
              { threshold := Nat.pos_of_ne_zero fun hzero =>
                  hthreshold (UInt32.toNat_inj.mp hzero)
                responseId := UInt16.not_lt.mp hresponse
                equation := hequation }

/-! ## Outcomes -/

variable {a : Actionpoint}

/-- **The equation of a valid actionpoint has an outcome**, over any verdicts. -/
theorem evaluate_of_valid (ha : a.Valid) (verdicts : WatchSlot → Verdict) :
    Equation.evaluate verdicts a.equation.toList = .ok (a.outcome verdicts) := by
  obtain ⟨x, hx⟩ := Equation.exists_opens ha.equation
  rw [outcome, hx.evaluate_eq]

/-- **The outcome is an error only if one of the operands is.** -/
theorem error_of_outcome (ha : a.Valid) {verdicts : WatchSlot → Verdict}
    (h : a.outcome verdicts = .error) :
    ∃ slot ∈ Equation.operands a.equation.toList, verdicts slot = .error := by
  obtain ⟨x, hx⟩ := Equation.exists_opens ha.equation
  rw [outcome, hx.evaluate_eq] at h
  rw [Equation.operands_eq hx]
  refine Expression.exists_of_indefinite rfl ?_
  cases hdenote : x.denote verdicts with
  | error => rfl
  | _ =>
    rw [hdenote] at h
    cases h

end Actionpoint

end LimitMonitor
