import LimitMonitor.Proofs.Actionpoint.Response
import LimitMonitor.Proofs.Engine.Sampling
import LimitMonitor.Proofs.Engine.Tables
import LimitMonitor.Proofs.Event.Origin
import LimitMonitor.Proofs.Event.Projection

/-!
# What an operation does to one actionpoint

Seen from one slot of the actionpoint table, an operation is one of six changes:
`Engine.change` says which, given the state of the engine, and `Change.apply` says
what it makes of the record. `get_perform` holds every operation to that
account, so what a run does to a slot is a list of changes, and an invariant of a
slot is proved by a case split over six cases.
-/

namespace LimitMonitor

namespace ActionSlot

/-- A command with this target names the slot. -/
def covers (target : UInt16) (slot : ActionSlot) : Bool :=
  target = everySlot || target = slotNumber slot

theorem slotNumber_inj {slot other : ActionSlot} (h : slotNumber slot = slotNumber other) :
    slot = other :=
  (Slots.slotNumber_inj (by decide)).mp h

theorem slotNumber_ne_everySlot (slot : ActionSlot) : slotNumber slot ≠ everySlot :=
  Slots.slotNumber_ne_everySlot (by decide) slot

theorem ofNumber?_eq_some {target : UInt16} {slot : ActionSlot} :
    ofNumber? target = some slot ↔ target = slotNumber slot :=
  Slots.slotAt_eq_some (by decide)

theorem covers_everySlot (slot : ActionSlot) : covers everySlot slot = true := by
  simp [covers]

theorem covers_slotNumber (i slot : ActionSlot) :
    covers (slotNumber i) slot = decide (i = slot) := by
  have hinj : slotNumber i = slotNumber slot ↔ i = slot := ⟨slotNumber_inj, fun h => h ▸ rfl⟩
  simp [covers, slotNumber_ne_everySlot, hinj]

/-- A target names every slot, one slot, or none. -/
theorem target_cases (target : UInt16) :
    target = everySlot ∨
      (∃ i, target = slotNumber i ∧ target ≠ everySlot ∧ ofNumber? target = some i) ∨
      (target ≠ everySlot ∧ ofNumber? target = none ∧ ∀ slot, covers target slot = false) := by
  by_cases hall : target = everySlot
  · exact .inl hall
  · cases hnumber : ofNumber? target with
    | some i => exact .inr (.inl ⟨i, ofNumber?_eq_some.mp hnumber, hall, rfl⟩)
    | none =>
      refine .inr (.inr ⟨hall, rfl, fun slot => ?_⟩)
      have hne : target ≠ slotNumber slot := by
        intro h
        rw [ofNumber?_eq_some.mpr h] at hnumber
        cases hnumber
      simp [covers, hall, hne]

end ActionSlot

namespace Actionpoint

theorem State.isSampled_iff {state : State} :
    state.isSampled = true ↔ state = .active ∨ state = .passive := by
  cases state <;> decide

/-- The states in which an actionpoint is not sampled. -/
theorem State.isSampled_eq_false_iff {state : State} :
    state.isSampled = false ↔ state = .disabled ∨ state = .permanentlyOff ∨ state = .unused := by
  cases state <;> decide

/-- What an operation does to one slot of the actionpoint table. -/
inductive Change where
  /-- Nothing. -/
  | keep
  /-- An accepted load fills the slot anew. -/
  | load (entry : Option Actionpoint)
  /-- The statistics are cleared. -/
  | clear
  /-- A command takes the actionpoint to a state. -/
  | command (state : State)
  /-- The actionpoint is switched off for good. -/
  | switchOff
  /-- The actionpoint is sampled, with this outcome. -/
  | sample (a : Actionpoint) (outcome : Outcome)

namespace Change

/-- The record after a change. -/
def apply (slot : ActionSlot) (mode : Mode) (r : Record) : Change → Record
  | keep => r
  | load entry => Engine.startingRecord entry
  | clear => r.cleared
  | command state => { r with state }
  | switchOff => { r with state := .permanentlyOff }
  | sample a outcome => (a.note slot mode r outcome).record

/-- The change triggers the actionpoint with this record. -/
def triggers (r : Record) : Change → Bool
  | sample a outcome => a.isTriggered r outcome
  | _ => false

/-- The response that leaves with a change. -/
def response (slot : ActionSlot) (mode : Mode) (r : Record) : Change → Trace
  | sample a outcome =>
    if a.isTriggered r outcome then a.response slot mode r.streak.next else []
  | _ => []

end Change

end Actionpoint

namespace Engine

open Actionpoint

/-- What an operation does to a slot. -/
def change (e : Engine) (slot : ActionSlot) : Operation → Change
  | .load watchTable actionTable t =>
    if e.acceptsLoad (.load watchTable actionTable t) then
      .load (entryOf (Actionpoint.decode (actionTable.get slot)))
    else .keep
  | .sample q =>
    match e.actionpoints.get slot with
    | some a =>
      if e.samples q slot ∧ ((e.actionRecords.get slot).state = .active ∨
          (e.actionRecords.get slot).state = .passive) then
        .sample a (a.outcome e.verdicts)
      else .keep
    | none => .keep
  | .setState target state =>
    if state.isCommandable ∧ ActionSlot.covers target slot ∧
        (e.actionRecords.get slot).state.admitsCommand then .command state
    else .keep
  | .switchOff target =>
    if target = slotNumber slot ∧ (e.actionRecords.get slot).state = .disabled then .switchOff
    else .keep
  | .resetActionpoints target => if ActionSlot.covers target slot then .clear else .keep
  | _ => .keep

variable (e : Engine)

/-! ## Commands -/

/-- A command to a commandable state is refused only by the state that it meets. -/
theorem command_of_commandable {state : State} (hstate : state.isCommandable = true) (r : Record)
    (number : UInt16) : r.command number state =
      if r.state.admitsCommand then .ok { r with state }
      else .error (.stateHolds number r.state.code) := by
  simp only [Record.command, hstate, Bool.not_true, Bool.false_eq_true, if_false]
  cases r.state.admitsCommand <;> rfl

/-- A command to a commandable state is refused by no slot that admits commands,
and moves those of the listed slots that do. -/
theorem commandEach_spec {state : State} (hstate : state.isCommandable = true)
    {slots : List ActionSlot} (nodup : slots.Nodup) (records : Vector Record actionCapacity) :
    (commandEach state slots records).2 = .ok () ∧
      ∀ slot : ActionSlot, (commandEach state slots records).1.get slot =
        if slot ∈ slots ∧ (records.get slot).state.admitsCommand then { records.get slot with state }
        else records.get slot := by
  induction slots generalizing records with
  | nil => exact ⟨rfl, fun slot => by simp [commandEach]⟩
  | cons i rest ih =>
    obtain ⟨fresh, nodup⟩ := List.nodup_cons.mp nodup
    by_cases hadmits : (records.get i).state.admitsCommand = true
    · simp only [commandEach, command_of_commandable hstate, hadmits, if_true]
      obtain ⟨hok, hrecords⟩ := ih nodup (records.set i { records.get i with state } i.isLt)
      refine ⟨hok, fun slot => ?_⟩
      rw [hrecords slot, Slots.get_set]
      by_cases hslot : i = slot
      · subst hslot
        simp only [fresh, false_and, if_false, if_true, List.mem_cons_self, hadmits, and_self]
      · simp only [hslot, Ne.symm hslot, if_false, List.mem_cons, false_or]
    · simp only [commandEach, hadmits, Bool.false_eq_true, if_false]
      obtain ⟨hok, hrecords⟩ := ih nodup records
      refine ⟨hok, fun slot => ?_⟩
      rw [hrecords slot]
      by_cases hslot : i = slot
      · subst hslot
        simp only [fresh, if_false, hadmits, and_false, Bool.false_eq_true]
      · simp only [Ne.symm hslot, List.mem_cons, false_or]

theorem get_setState (target : UInt16) (state : State) (slot : ActionSlot) :
    (e.setState target state).engine.actionRecords.get slot =
      (e.change slot (.setState target state)).apply slot e.mode (e.actionRecords.get slot) := by
  by_cases hstate : state.isCommandable = true
  · rcases ActionSlot.target_cases target with rfl | ⟨i, rfl, hall, hi⟩ | ⟨hall, hnone, hcovers⟩
    · -- every slot: those that admit no command are passed over
      obtain ⟨-, hrecords⟩ := commandEach_spec hstate ActionSlot.nodup_all e.actionRecords
      simp only [setState, hstate, change, ActionSlot.covers_everySlot, Bool.not_true,
        Bool.false_eq_true, if_false, if_true, true_and]
      refine (hrecords slot).trans ?_
      simp only [ActionSlot.mem_all, true_and]
      split <;> rfl
    · -- one slot: the command is refused if the state of the actionpoint does not admit it
      simp only [setState, hstate, hall, hi, change, ActionSlot.covers_slotNumber, Bool.not_true,
        Bool.false_eq_true, if_false, true_and, decide_eq_true_eq, command_of_commandable hstate]
      by_cases hadmits : (e.actionRecords.get i).state.admitsCommand = true
      · simp only [hadmits, if_true, Slots.get_set]
        by_cases hslot : i = slot
        · subst hslot
          simp only [hadmits, and_self, if_true, Change.apply]
        · simp only [hslot, false_and, if_false, Change.apply]
      · simp only [hadmits, Bool.false_eq_true, if_false]
        by_cases hslot : i = slot
        · subst hslot
          simp only [hadmits, Bool.false_eq_true, and_false, if_false, Change.apply]
        · simp only [hslot, false_and, if_false, Change.apply]
    · simp only [setState, hstate, hall, hnone, change, hcovers, Bool.not_true, Bool.false_eq_true,
        if_false, false_and, and_false, Change.apply]
  · simp only [setState, hstate, change, Bool.not_false, Bool.false_eq_true, if_true, false_and,
      if_false, Change.apply]

theorem get_switchOff (target : UInt16) (slot : ActionSlot) :
    (e.switchOff target).engine.actionRecords.get slot =
      (e.change slot (.switchOff target)).apply slot e.mode (e.actionRecords.get slot) := by
  cases hi : ActionSlot.ofNumber? target with
  | none =>
    have hne : target ≠ slotNumber slot := by
      intro h
      rw [ActionSlot.ofNumber?_eq_some.mpr h] at hi
      cases hi
    simp only [switchOff, hi, change, hne, false_and, if_false, Change.apply]
  | some i =>
    obtain rfl := ActionSlot.ofNumber?_eq_some.mp hi
    by_cases hdisabled : (e.actionRecords.get i).state = .disabled
    · simp only [switchOff, hi, change, Record.switchOff, hdisabled, if_true, Slots.get_set]
      by_cases hslot : i = slot
      · subst hslot
        simp only [hdisabled, and_self, if_true, Change.apply]
      · have hne : slotNumber i ≠ slotNumber slot := fun h => hslot (ActionSlot.slotNumber_inj h)
        simp only [hslot, hne, false_and, if_false, Change.apply]
    · simp only [switchOff, hi, change, Record.switchOff, hdisabled, if_false]
      by_cases hslot : i = slot
      · subst hslot
        simp only [hdisabled, and_false, if_false, Change.apply]
      · have hne : slotNumber i ≠ slotNumber slot := fun h => hslot (ActionSlot.slotNumber_inj h)
        simp only [hne, false_and, if_false, Change.apply]

theorem get_resetActionpoints (target : UInt16) (slot : ActionSlot) :
    (e.resetActionpoints target).engine.actionRecords.get slot =
      (e.change slot (.resetActionpoints target)).apply slot e.mode (e.actionRecords.get slot) := by
  rcases ActionSlot.target_cases target with rfl | ⟨i, rfl, hall, hi⟩ | ⟨hall, hnone, hcovers⟩
  · simp [resetActionpoints, change, ActionSlot.covers_everySlot, Change.apply]
  · simp only [resetActionpoints, hall, hi, if_false, change, ActionSlot.covers_slotNumber,
      decide_eq_true_eq, Slots.get_set]
    by_cases hslot : i = slot
    · subst hslot
      simp only [if_true, Change.apply]
    · simp only [hslot, if_false, Change.apply]
  · simp only [resetActionpoints, hall, hnone, if_false, change, hcovers, Bool.false_eq_true,
      Change.apply]

/-! ## Loads and samples -/

theorem get_load (watchTable : WatchTable) (actionTable : ActionTable) (t : Transport)
    (slot : ActionSlot) :
    (e.load watchTable actionTable t).engine.actionRecords.get slot =
      (e.change slot (.load watchTable actionTable t)).apply slot e.mode
        (e.actionRecords.get slot) := by
  rw [engine_load, change, acceptsLoad]
  split
  · simp [installed, install, Change.apply]
  · rfl

theorem sampleOf_change {q : Request} {slot : ActionSlot} (h : e.samples q slot = true) :
    (e.sampleOf slot).record =
        (e.change slot (.sample q)).apply slot e.mode (e.actionRecords.get slot) ∧
      (e.sampleOf slot).trace.filter Event.isResponse =
        (e.change slot (.sample q)).response slot e.mode (e.actionRecords.get slot) := by
  simp only [sampleOf, change, ← State.isSampled_iff]
  cases e.actionpoints.get slot with
  | none => exact ⟨rfl, rfl⟩
  | some a =>
    cases hsampled : (e.actionRecords.get slot).state.isSampled with
    | false =>
      have hquiet := a.sample_eq_quiet slot e.mode hsampled e.verdicts
      simp only [hquiet, Bool.false_eq_true, and_false, if_false]
      exact ⟨rfl, rfl⟩
    | true =>
      simp only [h, and_self, if_true, Change.apply, Change.response]
      exact ⟨(a.sample_eq_note slot e.mode hsampled e.verdicts).1,
        a.filter_isResponse_sample slot e.mode (e.actionRecords.get slot) e.verdicts⟩

variable {e} in
/-- A request samples the actionpoint in a slot over the verdicts that it finds. -/
theorem change_sample_of_samples {q : Request} {slot : ActionSlot} {a : Actionpoint}
    (ha : e.actionpoints.get slot = some a) (hsamples : e.samples q slot = true)
    (hstate : (e.actionRecords.get slot).state.isSampled = true) :
    e.change slot (.sample q) = .sample a (a.outcome e.verdicts) := by
  simp only [change, ha, hsamples, State.isSampled_iff.mp hstate, and_self, if_true]

/-- A slot that a request does not sample is kept. -/
theorem change_sample_of_not {q : Request} {slot : ActionSlot} (h : e.samples q slot = false) :
    e.change slot (.sample q) = .keep := by
  simp only [change, h, Bool.false_eq_true, false_and, if_false]
  split <;> rfl

/-- A request keeps a slot whose actionpoint is not sampled in its state. -/
theorem change_sample_of_not_sampled {slot : ActionSlot}
    (h : (e.actionRecords.get slot).state.isSampled = false) (q : Request) :
    e.change slot (.sample q) = .keep := by
  simp only [change, ← State.isSampled_iff, h, Bool.false_eq_true, and_false, if_false]
  split <;> rfl

/-! ## Operations -/

/-- **Every operation does to a slot what its change says.** -/
theorem get_perform (operation : Operation) (slot : ActionSlot) :
    (e.perform operation).engine.actionRecords.get slot =
      (e.change slot operation).apply slot e.mode (e.actionRecords.get slot) := by
  cases operation with
  | load watchTable actionTable t => exact e.get_load watchTable actionTable t slot
  | sample q =>
    refine ((e.sample_slotwise q).1 slot).trans ?_
    cases hsamples : e.samples q slot with
    | true => exact (e.sampleOf_change hsamples).1
    | false => rw [e.change_sample_of_not hsamples]; rfl
  | setState target state => exact e.get_setState target state slot
  | switchOff target => exact e.get_switchOff target slot
  | resetActionpoints target => exact e.get_resetActionpoints target slot
  | receive m p =>
    have hframe : (e.receive m p).engine.actionRecords = e.actionRecords := by
      unfold receive
      split <;> rfl
    simp only [perform, Step.reply, hframe]
    rfl
  | resetWatchpoints target =>
    have hframe : (e.resetWatchpoints target).engine.actionRecords = e.actionRecords := by
      unfold resetWatchpoints
      split
      · rfl
      · split <;> rfl
    simp only [perform, Step.reply, hframe]
    rfl
  | age | setMode | resetCounters | housekeep | snapshot => rfl

/-! ## Responses -/

/-- **What each change stems from**: the operation that makes it, and what that operation
finds. -/
theorem change_spec (slot : ActionSlot) (operation : Operation) :
    match e.change slot operation with
    | .keep => True
    | .load _ => e.acceptsLoad operation = true
    | .clear => ∃ target, operation = .resetActionpoints target ∧ ActionSlot.covers target slot = true
    | .command state => ∃ target, operation = .setState target state ∧
        state.isCommandable = true ∧ ActionSlot.covers target slot = true ∧
        (e.actionRecords.get slot).state.admitsCommand = true
    | .switchOff => operation = .switchOff (slotNumber slot) ∧
        (e.actionRecords.get slot).state = .disabled
    | .sample a outcome => ∃ q, operation = .sample q ∧ e.samples q slot = true ∧
        (e.actionRecords.get slot).state.isSampled = true ∧
        e.actionpoints.get slot = some a ∧ outcome = a.outcome e.verdicts := by
  cases operation with
  | load watchTable actionTable t =>
    by_cases haccepts : e.acceptsLoad (.load watchTable actionTable t) = true
    · simp only [change, haccepts, if_true]
    · simp only [change, haccepts, Bool.false_eq_true, if_false]
  | sample q =>
    cases ha : e.actionpoints.get slot with
    | none => simp only [change, ha]
    | some a =>
      by_cases h : e.samples q slot = true ∧ (e.actionRecords.get slot).state.isSampled = true
      · rw [change_sample_of_samples ha h.1 h.2]
        exact ⟨q, rfl, h.1, h.2, rfl, rfl⟩
      · rw [State.isSampled_iff] at h
        simp only [change, ha, h, if_false]
  | setState target state =>
    by_cases h : state.isCommandable = true ∧ ActionSlot.covers target slot = true ∧
        (e.actionRecords.get slot).state.admitsCommand = true
    · have hchange : e.change slot (.setState target state) = .command state := if_pos h
      rw [hchange]
      exact ⟨target, rfl, h⟩
    · simp only [change, h, if_false]
  | switchOff target =>
    by_cases h : target = slotNumber slot ∧ (e.actionRecords.get slot).state = .disabled
    · simp only [change, h, and_self, if_true]
    · simp only [change, h, if_false]
  | resetActionpoints target =>
    by_cases h : ActionSlot.covers target slot = true
    · simp only [change, h, if_true]
      exact ⟨target, rfl, h⟩
    · simp only [change, h, Bool.false_eq_true, if_false]
  | _ => trivial

/-- Only a sample request samples, and it samples the loaded actionpoint over the
verdicts that the request meets. -/
theorem sample_of_change {slot : ActionSlot} {operation : Operation} {a : Actionpoint}
    {outcome : Outcome} (h : e.change slot operation = .sample a outcome) :
    (∃ q, operation = .sample q) ∧ e.actionpoints.get slot = some a ∧
      outcome = a.outcome e.verdicts := by
  have hspec := e.change_spec slot operation
  rw [h] at hspec
  obtain ⟨q, hq, -, -, ha, houtcome⟩ := hspec
  exact ⟨⟨q, hq⟩, ha, houtcome⟩

/-- The change that triggers is the sample of the loaded actionpoint with a failure. -/
theorem change_of_triggers {slot : ActionSlot} {operation : Operation}
    (h : (e.change slot operation).triggers (e.actionRecords.get slot) = true) :
    ∃ a, e.change slot operation = .sample a .fail ∧ e.actionpoints.get slot = some a := by
  cases hchange : e.change slot operation with
  | sample a outcome =>
    rw [hchange] at h
    have htriggered : a.isTriggered (e.actionRecords.get slot) outcome = true := h
    simp only [isTriggered, Bool.and_eq_true, decide_eq_true_eq] at htriggered
    rw [htriggered.1.1]
    exact ⟨a, rfl, (e.sample_of_change hchange).2.1⟩
  | _ => rw [hchange] at h; cases h

/-- A response stems from a sample request. -/
theorem origin_of_isResponse {event : Event} (h : event.isResponse = true) :
    event.origin = .sample := by
  unfold Event.isResponse at h
  split at h
  · rfl
  · rfl
  · rfl
  · cases h

/-- An operation that is no sample request has no responses in its trace. -/
theorem filter_isResponse_of_not_sample {operation : Operation}
    (h : ∀ q, operation ≠ .sample q) :
    (e.perform operation).trace.filter Event.isResponse = [] := by
  refine List.filter_eq_nil_iff.mpr fun event hevent hresponse => ?_
  have horigin := e.perform_origin operation event hevent
  rw [origin_of_isResponse hresponse] at horigin
  cases operation with
  | sample q => exact h q rfl
  | _ => cases horigin

/-- **The responses of an operation are those of its changes**, slot by slot in table
order. -/
theorem filter_isResponse_perform (operation : Operation) :
    (e.perform operation).trace.filter Event.isResponse =
      ActionSlot.all.flatMap fun slot =>
        (e.change slot operation).response slot e.mode (e.actionRecords.get slot) := by
  by_cases hsample : ∃ q, operation = .sample q
  · obtain ⟨q, rfl⟩ := hsample
    have hreport : (e.rangeReport q).filter Event.isResponse = [] := by
      unfold rangeReport
      split <;> rfl
    have htrace : (e.perform (.sample q)).trace = (e.sample q).trace := rfl
    rw [htrace, (e.sample_slotwise q).2, List.filter_append, hreport, List.nil_append,
      List.filter_flatMap]
    -- the slots that are not sampled are kept, and a kept slot has no response
    refine Trace.flatMap_filter _ fun slot _ => ?_
    cases hsamples : e.samples q slot with
    | true => simpa using (e.sampleOf_change hsamples).2.symm
    | false => rw [e.change_sample_of_not hsamples]; rfl
  · rw [e.filter_isResponse_of_not_sample fun q hq => hsample ⟨q, hq⟩, eq_comm,
      List.flatMap_eq_nil_iff]
    intro slot _
    cases hchange : e.change slot operation with
    | sample a outcome => exact absurd (e.sample_of_change hchange).1 hsample
    | _ => rfl

/-- The triggers that the response of one slot reports of another. -/
theorem countP_isTriggerOf_response (c : Change) (i slot : ActionSlot) (mode : Mode) (r : Record) :
    (c.response i mode r).countP (Event.isTriggerOf slot) =
      if i = slot ∧ c.triggers r then 1 else 0 := by
  have hnumber : slotNumber i = slotNumber slot ↔ i = slot :=
    ⟨ActionSlot.slotNumber_inj, fun h => h ▸ rfl⟩
  cases c with
  | sample a outcome =>
    simp only [Change.response, Change.triggers]
    by_cases htriggered : a.isTriggered r outcome = true
    · cases mode <;>
        simp [htriggered, response, Event.isTriggerOf, hnumber, List.countP_cons]
    · simp [htriggered]
  | _ => simp [Change.response, Change.triggers]

/-- **An operation reports the trigger of a slot once, if its change triggers, and
otherwise not at all.** -/
theorem countP_isTriggerOf_perform (slot : ActionSlot) (operation : Operation) :
    (e.perform operation).trace.countP (Event.isTriggerOf slot) =
      if (e.change slot operation).triggers (e.actionRecords.get slot) then 1 else 0 := by
  have hresponses := Event.countP_filter_isResponse (p := Event.isTriggerOf slot)
    (fun _ => Event.isResponse_of_isTriggerOf) (e.perform operation).trace
  have hother (i : ActionSlot) (hi : i ≠ slot) :
      ((e.change i operation).response i e.mode (e.actionRecords.get i)).filter
        (Event.isTriggerOf slot) = [] := by
    rw [← List.length_eq_zero_iff, ← List.countP_eq_length_filter, countP_isTriggerOf_response]
    simp [hi]
  rw [← hresponses, filter_isResponse_perform, List.countP_eq_length_filter, List.filter_flatMap,
    Trace.flatMap_eq_part ActionSlot.nodup_all (ActionSlot.mem_all slot) fun i _ hi => hother i hi,
    ← List.countP_eq_length_filter, countP_isTriggerOf_response]
  simp only [true_and]

/-- An operation triggers the actionpoint in a slot: it reports a response of it,
sent or suppressed. -/
def triggers (slot : ActionSlot) (operation : Operation) : Bool :=
  (e.perform operation).trace.any (Event.isTriggerOf slot)

theorem triggers_eq (slot : ActionSlot) (operation : Operation) :
    e.triggers slot operation =
      (e.change slot operation).triggers (e.actionRecords.get slot) := by
  have hcount := e.countP_isTriggerOf_perform slot operation
  rw [Bool.eq_iff_iff, triggers, List.any_eq_true, ← List.countP_pos_iff, hcount]
  split <;> simp_all

variable {e} in
/-- **Only an active actionpoint triggers.** The trigger leaves it passive, with one
more failure in its streak. -/
theorem record_of_triggers {slot : ActionSlot} {operation : Operation}
    (h : e.triggers slot operation = true) :
    (e.actionRecords.get slot).state = .active ∧
      ((e.perform operation).engine.actionRecords.get slot).state = .passive ∧
      ((e.perform operation).engine.actionRecords.get slot).streak =
        (e.actionRecords.get slot).streak.next := by
  rw [triggers_eq] at h
  obtain ⟨a, hchange, -⟩ := e.change_of_triggers h
  rw [hchange] at h
  have htriggered : a.isTriggered (e.actionRecords.get slot) .fail = true := h
  rw [get_perform, hchange, Change.apply]
  refine ⟨?_, ?_, a.streak_note slot e.mode _ .fail⟩
  · rw [isTriggered_fail, Bool.and_eq_true, decide_eq_true_eq] at htriggered
    exact htriggered.1
  · rw [state_note, if_pos htriggered]

end Engine

end LimitMonitor
