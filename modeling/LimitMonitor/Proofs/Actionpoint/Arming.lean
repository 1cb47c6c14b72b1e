import LimitMonitor.Proofs.Engine.History

/-!
# One trigger per arming

An actionpoint that triggers is passive from then on, and a passive one does not
trigger. It is armed again by a load that is accepted or by a command to the active
state, and by nothing else: samples, messages, modes, resets and refused calls never
make an actionpoint active. So the triggers of a slot are paid for by its armings,
with the active state as the only credit (`triggers_le_arms_perform` for one
operation, `triggers_le_arms_run` for a run).

Main statement: `one_trigger_per_arming`.
-/

namespace LimitMonitor

open Actionpoint

namespace Engine

/-- An operation arms the actionpoint in a slot: it is a load that is accepted, or a
command to the active state that names the slot and is not refused. -/
def arms (e : Engine) (slot : ActionSlot) : Operation → Bool
  | .load watchTable actionTable t => e.acceptsLoad (.load watchTable actionTable t)
  | .setState target state =>
    state = .active && ActionSlot.covers target slot && (e.setState target state).answer.isOk
  | _ => false

/-- The credit of a slot: one while its actionpoint is active. -/
def credit (e : Engine) (slot : ActionSlot) : Nat :=
  if (e.actionRecords.get slot).state = .active then 1 else 0

end Engine

/-- A call arms the actionpoint in a slot. -/
def Call.arms (slot : ActionSlot) (call : Call) : Bool := call.engine.arms slot call.operation

namespace Engine

variable (e : Engine) {slot : ActionSlot} {operation : Operation}

/-! ## One operation -/

/-- A command that moves the actionpoint in some slot is not refused. -/
theorem isOk_setState {target : UInt16} {state : State} (hstate : state.isCommandable = true)
    (hcovers : ActionSlot.covers target slot = true)
    (hadmits : (e.actionRecords.get slot).state.admitsCommand = true) :
    (e.setState target state).answer.isOk = true := by
  rcases ActionSlot.target_cases target with rfl | ⟨i, rfl, hall, hi⟩ | ⟨-, -, hnone⟩
  · have hok := (commandEach_spec hstate ActionSlot.nodup_all e.actionRecords).1
    simp only [setState, hstate, Bool.not_true, Bool.false_eq_true, if_false, if_true, hok]
    rfl
  · rw [ActionSlot.covers_slotNumber, decide_eq_true_eq] at hcovers
    subst hcovers
    simp only [setState, hstate, hall, hi, command_of_commandable hstate, hadmits, Bool.not_true,
      Bool.false_eq_true, if_false, if_true]
    rfl
  · rw [hnone slot] at hcovers
    cases hcovers

/-- **Only an arming makes an actionpoint active.** -/
theorem arms_of_active (hbefore : (e.actionRecords.get slot).state ≠ .active)
    (hafter : ((e.perform operation).engine.actionRecords.get slot).state = .active) :
    e.arms slot operation = true := by
  have hspec := e.change_spec slot operation
  rw [get_perform] at hafter
  cases hchange : e.change slot operation with
  | keep | clear =>
    rw [hchange] at hafter
    exact absurd hafter hbefore
  | load entry =>
    rw [hchange] at hspec
    cases operation with
    | load watchTable actionTable t => exact hspec
    | _ => cases hspec
  | command state =>
    -- a command that moves the actionpoint is not refused
    rw [hchange] at hspec hafter
    obtain ⟨target, rfl, hstate, hcovers, hadmits⟩ := hspec
    have hactive : state = .active := hafter
    rw [arms, hcovers, e.isOk_setState hstate hcovers hadmits, hactive]
    rfl
  | switchOff =>
    rw [hchange] at hafter
    cases hafter
  | sample a outcome =>
    -- a sample leaves the state alone or makes it passive
    rw [hchange, Change.apply, state_note] at hafter
    split at hafter
    · cases hafter
    · exact absurd hafter hbefore

/-- **One operation**: a trigger uses the credit of its slot up, and only an arming
gives it back. -/
theorem triggers_le_arms_perform (slot : ActionSlot) (operation : Operation) :
    (e.triggers slot operation).toNat + (e.perform operation).engine.credit slot ≤
      (e.arms slot operation).toNat + e.credit slot := by
  cases htriggers : e.triggers slot operation with
  | true =>
    obtain ⟨hbefore, hafter, -⟩ := record_of_triggers htriggers
    simp only [credit, hbefore, hafter, reduceCtorEq, if_true, if_false, Bool.toNat_true]
    omega
  | false =>
    unfold credit
    by_cases hafter : ((e.perform operation).engine.actionRecords.get slot).state = .active
    · by_cases hbefore : (e.actionRecords.get slot).state = .active
      · rw [if_pos hafter, if_pos hbefore, Bool.toNat_false]
        omega
      · rw [if_pos hafter, e.arms_of_active hbefore hafter, Bool.toNat_false, Bool.toNat_true]
        omega
    · rw [if_neg hafter, Bool.toNat_false]
      omega

/-! ## Runs -/

/-- **A run**: its triggers of a slot, and the credit that it leaves, are covered by
its armings and the credit that it starts with. -/
theorem triggers_le_arms_run (slot : ActionSlot) (operations : List Operation) :
    (e.calls operations).countP (Call.triggers slot) + (e.run operations).credit slot ≤
      (e.calls operations).countP (Call.arms slot) + e.credit slot := by
  induction operations generalizing e with
  | nil => simp [calls, run]
  | cons operation rest ih =>
    have hhead := e.triggers_le_arms_perform slot operation
    have hrest := ih (e.perform operation).engine
    rw [calls, run_cons, List.countP_cons, List.countP_cons]
    have htriggers : (if Call.triggers slot ⟨e, operation⟩ = true then 1 else 0) =
        (e.triggers slot operation).toNat := by
      rw [Call.triggers]
      cases e.triggers slot operation <;> rfl
    have harms : (if Call.arms slot ⟨e, operation⟩ = true then 1 else 0) =
        (e.arms slot operation).toNat := by
      rw [Call.arms]
      cases e.arms slot operation <;> rfl
    omega

/-! ## Responses -/

/-- The triggers that a run reports of a slot are those of its calls. -/
theorem countP_isTriggerOf_traces (slot : ActionSlot) (operations : List Operation) :
    (e.traces operations).flatten.countP (Event.isTriggerOf slot) =
      (e.calls operations).countP (Call.triggers slot) := by
  induction operations generalizing e with
  | nil => rfl
  | cons operation rest ih =>
    have hhead : (e.perform operation).trace.countP (Event.isTriggerOf slot) =
        if Call.triggers slot ⟨e, operation⟩ = true then 1 else 0 := by
      rw [countP_isTriggerOf_perform, Call.triggers, triggers_eq]
    rw [traces, calls, List.flatten_cons, List.countP_append, List.countP_cons, hhead, ih]
    omega

/-- Each report of an issued response is the report of a trigger. -/
theorem countP_issued_le (slot : ActionSlot) (trace : Trace) :
    trace.issued.countP (fun issue => issue.1 = slotNumber slot) ≤
      trace.countP (Event.isTriggerOf slot) := by
  rw [Trace.issued, List.countP_filterMap]
  refine List.countP_mono_left fun event _ h => ?_
  unfold Event.issue? at h
  split at h
  · simpa [Event.isTriggerOf] using h
  · cases h

/-- **The transport is asked for the responses that are reported as issued**, in
order. -/
theorem requested_perform (operation : Operation) :
    Trace.requested (e.perform operation).trace =
      (Trace.issued (e.perform operation).trace).map Prod.snd := by
  have hrequested : Trace.requested (e.perform operation).trace =
      Trace.requested ((e.perform operation).trace.filter Event.isResponse) := by
    rw [Trace.requested, Trace.requested, List.filterMap_filter]
    refine List.filterMap_congr fun event _ => ?_
    cases event with
    | notify notification => simp only [Event.request?, ite_self]
    | _ => rfl
  have hissued : Trace.issued (e.perform operation).trace =
      Trace.issued ((e.perform operation).trace.filter Event.isResponse) := by
    rw [Trace.issued, Trace.issued, List.filterMap_filter]
    refine List.filterMap_congr fun event _ => ?_
    cases event with
    | notify notification => cases notification <;> rfl
    | _ => rfl
  rw [hrequested, hissued, filter_isResponse_perform, Trace.requested, Trace.issued,
    List.filterMap_flatMap, List.filterMap_flatMap, List.map_flatMap]
  refine List.flatMap_congr fun i _ => ?_
  cases e.change i operation with
  | sample a outcome =>
    rw [Change.response]
    split
    · cases e.mode <;> rfl
    · rfl
  | _ => rfl

theorem requested_traces (operations : List Operation) :
    Trace.requested (e.traces operations).flatten =
      (Trace.issued (e.traces operations).flatten).map Prod.snd := by
  induction operations generalizing e with
  | nil => rfl
  | cons operation rest ih =>
    rw [traces, List.flatten_cons, Trace.requested, Trace.issued, List.filterMap_append,
      List.filterMap_append, List.map_append]
    exact congrArg₂ (· ++ ·) (e.requested_perform operation) (ih _)

/-- **One trigger per arming.** Between two operations of a run that trigger the
actionpoint in a slot there is one that arms it. So no run triggers an actionpoint
more often than it arms it, and the responses sent on its behalf are no more than its
armings: the transport is asked for exactly the responses that are reported as
issued, in order, and those reported of the slot are at most its triggers. -/
theorem one_trigger_per_arming (slot : ActionSlot) :
    (∀ (before middle : List Operation) (first second : Operation),
      let e := initial.run before
      let rest := (e.perform first).engine
      e.triggers slot first = true → (rest.run middle).triggers slot second = true →
        ∃ call ∈ rest.calls middle, call.engine.arms slot call.operation = true) ∧
    ∀ operations : List Operation,
      let trace := (initial.traces operations).flatten
      let armings := (initial.calls operations).countP (Call.arms slot)
      trace.countP (Event.isTriggerOf slot) ≤ armings ∧
      Trace.requested trace = (Trace.issued trace).map Prod.snd ∧
      (Trace.issued trace).countP (fun issue => issue.1 = slotNumber slot) ≤ armings := by
  refine ⟨?_, ?_⟩
  · -- the first trigger leaves no credit, and the second needs it
    intro before middle first second e rest hfirst hsecond
    have hspent : rest.credit slot = 0 := by
      rw [credit, (record_of_triggers hfirst).2.1]
      rfl
    have hneeded : (rest.run middle).credit slot = 1 := by
      rw [credit, (record_of_triggers hsecond).1]
      rfl
    have hrun := rest.triggers_le_arms_run slot middle
    have harmed : 0 < (rest.calls middle).countP (Call.arms slot) := by omega
    exact List.countP_pos_iff.mp harmed
  · intro operations trace armings
    have hstart : initial.credit slot = 0 := by
      have hunused : initial.actionRecords.get slot = .initial := by simp [initial]
      rw [credit, hunused]
      rfl
    have hrun := initial.triggers_le_arms_run slot operations
    have htriggers : trace.countP (Event.isTriggerOf slot) ≤ armings := by
      rw [countP_isTriggerOf_traces]
      omega
    exact ⟨htriggers, initial.requested_traces operations,
      (countP_issued_le slot trace).trans htriggers⟩

end Engine

end LimitMonitor
