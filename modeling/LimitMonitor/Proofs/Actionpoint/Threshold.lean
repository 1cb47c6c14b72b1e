import LimitMonitor.Proofs.Engine.History
import Mathlib.Data.List.DropRight

/-!
# The threshold of failures

An actionpoint responds once its failures in a row reach its threshold. What counts
as a row is a matter of its whole history: samples that pass or come out stale,
resets and loads begin a new one; errors, commands and pauses do not
(`failureRun`). The streak in the record is that number, up to the greatest value of
a counter (`counts_streak_run`), and since no threshold is greater than that value the
comparison is exact (`reached_iff`).

Main statement: `trigger_at_threshold`. An operation of a run triggers an actionpoint
exactly if it samples it while active, the outcome is a failure, and the failures in
a row are at least the threshold; and the responses in its trace are those of the
actionpoints that it triggers.
-/

namespace LimitMonitor

namespace Actionpoint

namespace Change

/-- The change begins a new row of failures. -/
def restarts : Change → Bool
  | load _ | clear | sample _ .pass | sample _ .stale => true
  | keep | command _ | switchOff | sample _ .fail | sample _ .error => false

/-- The change is a sample that fails. -/
def isFailure : Change → Bool
  | sample _ .fail => true
  | _ => false

end Change

/-- The failures in a row at the end of a history. -/
def failureRun (history : List Change) : Nat :=
  (history.rtakeWhile fun c => !c.restarts).countP Change.isFailure

theorem failureRun_concat (history : List Change) (c : Change) :
    failureRun (history ++ [c]) =
      if c.restarts then 0 else failureRun history + if c.isFailure then 1 else 0 := by
  unfold failureRun
  cases hrestarts : c.restarts with
  | true => simp [hrestarts]
  | false => simp [hrestarts, List.countP_cons]

/-! ## The streak -/

theorem streak_startingRecord (entry : Option Actionpoint) :
    (Engine.startingRecord entry).streak = .zero := by
  cases entry <;> rfl

/-- **One change takes the streak along with the failures in a row.** -/
theorem counts_streak_apply {history : List Change} (c : Change) (slot : ActionSlot) (mode : Mode)
    {r : Record} (h : r.streak.Counts (failureRun history)) :
    (c.apply slot mode r).streak.Counts (failureRun (history ++ [c])) := by
  rw [failureRun_concat]
  cases c with
  | keep => exact h
  | load entry =>
    rw [Change.apply, streak_startingRecord]
    exact Counter.counts_zero
  | clear => exact Counter.counts_zero
  | command state => exact h
  | switchOff => exact h
  | sample a outcome =>
    -- errors are the only outcomes that leave the row as it is
    rw [Change.apply, streak_note]
    cases outcome with
    | fail => exact h.next
    | pass => exact Counter.counts_zero
    | stale => exact Counter.counts_zero
    | error => exact h

/-- The comparison with the threshold is exact, also for a streak that has stopped
at its greatest value. -/
theorem reached_iff (a : Actionpoint) {streak : Counter} {n : Nat} (h : streak.Counts n) :
    a.reached streak = true ↔ a.threshold.toNat ≤ n := by
  -- a threshold is a 32-bit number, so no streak that stopped is short of it
  have hthreshold : a.threshold.toNat < 2 ^ 32 := a.threshold.toNat_lt
  have hvalue : streak.value.toNat = min n 0xFFFFFFFF := h
  rw [reached, decide_eq_true_eq, UInt32.le_iff_toNat_le, hvalue]
  omega

end Actionpoint

namespace Engine

open Actionpoint

/-- **The streak is the number of failures in a row**, up to the greatest value of a
counter, after every run. -/
theorem counts_streak_run (slot : ActionSlot) (operations : List Operation) :
    ((initial.run operations).actionRecords.get slot).streak.Counts
      (failureRun (initial.history slot operations)) := by
  induction operations using List.reverseRecOn with
  | nil =>
    have hinitial : initial.actionRecords.get slot = .initial := by simp [initial]
    change (initial.actionRecords.get slot).streak.Counts _
    rw [hinitial]
    exact Counter.counts_zero
  | append_singleton operations operation ih =>
    rw [run_concat, get_perform, history_concat]
    exact counts_streak_apply _ slot _ ih

/-! ## Triggers -/

/-- **The responses of an operation are those of the actionpoints that it triggers**,
each with the streak that it leaves in the record. -/
theorem filter_isResponse_eq (e : Engine) (operation : Operation) :
    (e.perform operation).trace.filter Event.isResponse =
      (ActionSlot.all.filter fun slot => e.triggers slot operation).flatMap fun slot =>
        (e.actionpoints.get slot).toList.flatMap fun a =>
          a.response slot e.mode ((e.perform operation).engine.actionRecords.get slot).streak := by
  rw [filter_isResponse_perform]
  refine (Trace.flatMap_filter _ fun slot _ => ?_).symm
  cases htriggers : e.triggers slot operation with
  | true =>
    rw [(record_of_triggers htriggers).2.2]
    rw [triggers_eq] at htriggers
    obtain ⟨a, hchange, ha⟩ := e.change_of_triggers htriggers
    rw [hchange] at htriggers ⊢
    have htriggered : a.isTriggered (e.actionRecords.get slot) .fail = true := htriggers
    simp only [Change.response, htriggered, ha, if_true, Option.toList_some, List.flatMap_cons,
      List.flatMap_nil, List.append_nil]
  | false =>
    rw [triggers_eq] at htriggers
    cases hchange : e.change slot operation with
    | sample a outcome =>
      rw [hchange] at htriggers
      have hquiet : a.isTriggered (e.actionRecords.get slot) outcome = false := htriggers
      simp only [Change.response, hquiet, Bool.false_eq_true, if_false]
    | _ => rfl

/-- **An actionpoint triggers at its threshold.** Take any run and any operation
after it, and let `failures` be the failures in a row of a slot once the operation is
done. The operation triggers the actionpoint in the slot exactly if it samples it
while it is active, with a failure, and the failures in a row are at least the
threshold; this leaves it passive. A request that finds it disabled, permanently off or
unused neither adds a failure nor ends the row. The streak in the record is the number of
failures in a row up to the greatest count. The responses that leave the engine, and the
reports of them, are those of the triggered actionpoints in table order: a response
and its report while the engine is active, a report that it is suppressed while the
engine is passive, and nothing else from any operation. -/
theorem trigger_at_threshold (operations : List Operation) (operation : Operation)
    (slot : ActionSlot) :
    let e := initial.run operations
    let state := (e.actionRecords.get slot).state
    let after := (e.perform operation).engine
    let failures := failureRun (initial.history slot (operations ++ [operation]))
    (e.triggers slot operation = true ↔
      ∃ a, e.actionpoints.get slot = some a ∧ e.change slot operation = .sample a .fail ∧
        state = .active ∧ a.threshold.toNat ≤ failures) ∧
    (e.triggers slot operation = true → (after.actionRecords.get slot).state = .passive) ∧
    (∀ q, operation = .sample q →
      state = .disabled ∨ state = .permanentlyOff ∨ state = .unused →
      failures = failureRun (initial.history slot operations)) ∧
    (after.actionRecords.get slot).streak.toNat = min failures 0xFFFFFFFF ∧
    (e.perform operation).trace.filter Event.isResponse =
      (ActionSlot.all.filter fun i => e.triggers i operation).flatMap fun i =>
        (e.actionpoints.get i).toList.flatMap fun a =>
          a.response i e.mode (after.actionRecords.get i).streak := by
  intro e state after failures
  have hstreak := counts_streak_run slot operations
  -- a failing sample adds itself to the failures before it
  have hfailures {a : Actionpoint} (hchange : e.change slot operation = .sample a .fail) :
      (e.actionRecords.get slot).streak.next.Counts failures := by
    have hconcat : failures = failureRun (initial.history slot operations) + 1 := by
      simp only [failures, history_concat]
      rw [show (initial.run operations).change slot operation = .sample a .fail from hchange,
        failureRun_concat]
      rfl
    rw [hconcat]
    exact hstreak.next
  refine ⟨⟨fun h => ?_, ?_⟩, fun h => (record_of_triggers h).2.1, ?_, ?_,
    e.filter_isResponse_eq operation⟩
  · rw [triggers_eq] at h
    obtain ⟨a, hchange, ha⟩ := e.change_of_triggers h
    rw [hchange] at h
    have htriggered : a.isTriggered (e.actionRecords.get slot) .fail = true := h
    rw [isTriggered_fail, Bool.and_eq_true, decide_eq_true_eq] at htriggered
    exact ⟨a, ha, hchange, htriggered.1, (a.reached_iff (hfailures hchange)).mp htriggered.2⟩
  · rintro ⟨a, -, hchange, hactive, hthreshold⟩
    rw [triggers_eq, hchange, Change.triggers, isTriggered_fail, Bool.and_eq_true,
      decide_eq_true_eq]
    exact ⟨hactive, (a.reached_iff (hfailures hchange)).mpr hthreshold⟩
  · rintro q rfl hstate
    have hkeep : (initial.run operations).change slot (.sample q) = .keep :=
      e.change_sample_of_not_sampled (State.isSampled_eq_false_iff.mpr hstate) q
    simp only [failures, history_concat, hkeep, failureRun_concat]
    rfl
  · have hrun := counts_streak_run slot (operations ++ [operation])
    rw [run_concat] at hrun
    exact hrun

end Engine

end LimitMonitor
