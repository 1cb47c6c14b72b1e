import LimitMonitor.Proofs.Actionpoint.Arming

/-!
# The diagram of states

`Moves` draws the diagram: commands lead between active, passive and disabled, a switch-off
leads from disabled to permanently off, a trigger from active to passive. No operation but
an accepted load changes the state of an actionpoint otherwise, and each move of the
diagram has its effect (`state_perform_eq_iff`).

No arrow leaves permanently off and unused. A slot in one of them is not sampled, so
nothing is said of it (`isSampled_of_concerns`), and a run without an accepted load
leaves it there (`state_run_of_isFinal`).

Main statement: `state_diagram`.
-/

namespace LimitMonitor

open Actionpoint

/-! ## What is said of an actionpoint -/

namespace Notification

/-- The number of the actionpoint that a notification is about. Reports on an uploaded
table name its entries, and not the actionpoints in force. -/
def actionpoint? : Notification → Option UInt16
  | illegalEquation number _ | actionError number | passToFail number | failToPass number
  | failedWhilePassive number _ _ | responseSuppressed number _ _
  | responseIssued number _ _ _ _ _ => some number
  | _ => none

end Notification

namespace LogEntry

/-- The actionpoint that a log entry is about. -/
def actionpoint? : LogEntry → Option ActionSlot
  | illegalEquation slot _ | responseRequested slot _ => some slot
  | _ => none

end LogEntry

namespace Event

/-- The event says something of the actionpoint in a slot. -/
def concerns (slot : ActionSlot) : Event → Bool
  | notify notification => notification.actionpoint? = some (slotNumber slot)
  | log entry => entry.actionpoint? = some slot
  | _ => false

theorem origin_of_concerns {slot : ActionSlot} {event : Event}
    (h : event.concerns slot = true) : event.origin = .sample := by
  cases event with
  | notify notification =>
    cases notification <;> first | rfl | simp [concerns, Notification.actionpoint?] at h
  | log entry => cases entry <;> first | rfl | simp [concerns, LogEntry.actionpoint?] at h
  | _ => cases h

end Event

namespace Actionpoint

/-- A sample says nothing of other slots. -/
theorem Emits.slot_eq {a : Actionpoint} {i slot : ActionSlot} {verdicts : WatchSlot → Verdict}
    {event : Event} (h : a.Emits i verdicts event) (hconcerns : event.concerns slot = true) :
    i = slot := by
  have of_number (hnumber : some (slotNumber i) = some (slotNumber slot)) : i = slot :=
    ActionSlot.slotNumber_inj (Option.some.inj hnumber)
  cases h with
  | logMalformed _ | logRequest => exact Option.some.inj (of_decide_eq_true hconcerns)
  | request => cases hconcerns
  | _ => exact of_number (of_decide_eq_true hconcerns)

namespace State

/-- The states between which commands move an actionpoint. -/
def commanded : List State := [active, passive, disabled]

theorem isCommandable_iff {state : State} : state.isCommandable = true ↔ state ∈ commanded := by
  cases state <;> decide

theorem admitsCommand_iff {state : State} : state.admitsCommand = true ↔ state ∈ commanded := by
  cases state <;> decide

/-- The states that no arrow of the diagram leaves. -/
def isFinal (state : State) : Bool := !state.admitsCommand

/-- A slot in a final state is not sampled. -/
theorem isSampled_of_isFinal {state : State} (h : state.isFinal = true) :
    state.isSampled = false := by
  cases state with
  | permanentlyOff | unused => rfl
  | _ => cases h

end State

end Actionpoint

namespace Engine

/-! ## Moves -/

/-- **The diagram**: which operation moves the actionpoint in a slot from one state to
another. -/
inductive Moves (e : Engine) (slot : ActionSlot) : Operation → State → State → Prop
  /-- A command that names the slot, and is not refused, moves it to the commanded state. -/
  | command {target : UInt16} {before after : State} :
      before ∈ State.commanded → after ∈ State.commanded → before ≠ after →
      ActionSlot.covers target slot = true → (e.setState target after).answer.isOk = true →
      Moves e slot (.setState target after) before after
  /-- A disabled actionpoint is switched off for good. -/
  | switchOff :
      (e.switchOff (slotNumber slot)).answer.isOk = true →
      Moves e slot (.switchOff (slotNumber slot)) .disabled .permanentlyOff
  /-- A request samples the actionpoint, and the sample triggers it. -/
  | trigger {q : Request} :
      e.samples q slot = true → e.triggers slot (.sample q) = true →
      Moves e slot (.sample q) .active .passive

variable {e : Engine} {slot : ActionSlot} {operation : Operation}

theorem isOk_switchOff (h : (e.actionRecords.get slot).state = .disabled) :
    (e.switchOff (slotNumber slot)).answer.isOk = true := by
  simp only [switchOff, ActionSlot.ofNumber?_eq_some.mpr rfl, Record.switchOff, h, if_true]
  rfl

/-- **A state changes only by a move.** -/
theorem moves_of_state_ne (haccepts : e.acceptsLoad operation = false)
    (hne : ((e.perform operation).engine.actionRecords.get slot).state ≠
      (e.actionRecords.get slot).state) :
    e.Moves slot operation (e.actionRecords.get slot).state
      ((e.perform operation).engine.actionRecords.get slot).state := by
  have hspec := e.change_spec slot operation
  rw [get_perform] at hne ⊢
  cases hchange : e.change slot operation with
  | keep | clear =>
    rw [hchange] at hne
    exact absurd rfl hne
  | load entry =>
    rw [hchange] at hspec
    exact absurd (haccepts.symm.trans hspec) Bool.false_ne_true
  | command state =>
    rw [hchange] at hspec hne
    obtain ⟨target, rfl, hstate, hcovers, hadmits⟩ := hspec
    exact .command (State.admitsCommand_iff.mp hadmits) (State.isCommandable_iff.mp hstate)
      hne.symm hcovers (e.isOk_setState hstate hcovers hadmits)
  | switchOff =>
    rw [hchange] at hspec
    obtain ⟨rfl, hdisabled⟩ := hspec
    rw [hdisabled]
    exact .switchOff (isOk_switchOff hdisabled)
  | sample a outcome =>
    have htriggers := e.triggers_eq slot operation
    rw [hchange] at hspec hne htriggers
    obtain ⟨q, rfl, hsamples, -⟩ := hspec
    rw [Change.apply, state_note] at hne ⊢
    split at hne
    · next htriggered =>
      -- only an active actionpoint triggers
      have htrigger : e.triggers slot (.sample q) = true := htriggers.trans htriggered
      rw [(record_of_triggers htrigger).1, if_pos htriggered]
      exact .trigger hsamples htrigger
    · exact absurd rfl hne

/-- **A move has its effect.** -/
theorem state_of_moves {before after : State} (hbefore : (e.actionRecords.get slot).state = before)
    (h : e.Moves slot operation before after) :
    ((e.perform operation).engine.actionRecords.get slot).state = after := by
  cases h with
  | @command target before after hfrom hto hne hcovers hok =>
    have hcommand : after.isCommandable = true ∧ ActionSlot.covers target slot = true ∧
        (e.actionRecords.get slot).state.admitsCommand = true :=
      ⟨State.isCommandable_iff.mpr hto, hcovers, hbefore ▸ State.admitsCommand_iff.mpr hfrom⟩
    rw [get_perform, change, if_pos hcommand]
    rfl
  | switchOff hok =>
    rw [get_perform, change, if_pos ⟨rfl, hbefore⟩]
    rfl
  | trigger hsamples htriggers => exact (record_of_triggers htriggers).2.1

/-- The next state is another one exactly if the diagram has the move. -/
theorem state_perform_eq_iff (haccepts : e.acceptsLoad operation = false) {state : State}
    (hne : state ≠ (e.actionRecords.get slot).state) :
    ((e.perform operation).engine.actionRecords.get slot).state = state ↔
      e.Moves slot operation (e.actionRecords.get slot).state state := by
  constructor
  · intro hstate
    rw [← hstate] at hne ⊢
    exact moves_of_state_ne haccepts hne
  · exact state_of_moves rfl

/-! ## Final states -/

/-- No move leaves a final state. -/
theorem Moves.not_isFinal {before after : State} (h : e.Moves slot operation before after) :
    before.isFinal = false := by
  cases h with
  | command hfrom => rw [State.isFinal, State.admitsCommand_iff.mpr hfrom]; rfl
  | switchOff | trigger => rfl

/-- **Something is said only of an actionpoint that is sampled.** -/
theorem isSampled_of_concerns {event : Event} (hevent : event ∈ (e.perform operation).trace)
    (hconcerns : event.concerns slot = true) : (e.actionRecords.get slot).state.isSampled = true := by
  have horigin := e.perform_origin operation event hevent
  rw [Event.origin_of_concerns hconcerns] at horigin
  cases operation with
  | sample q =>
    have htrace : (e.perform (.sample q)).trace = (e.sample q).trace := rfl
    rw [htrace, (e.sample_slotwise q).2] at hevent
    rcases List.mem_append.mp hevent with hreport | hsample
    · unfold rangeReport at hreport
      split at hreport
      · rw [List.mem_singleton.mp hreport] at hconcerns
        cases hconcerns
      · cases hreport
    · obtain ⟨i, -, hi⟩ := List.mem_flatMap.mp hsample
      unfold sampleOf at hi
      split at hi
      · cases hi
      · next a ha =>
        obtain rfl := (a.emits_sample i e.mode _ e.verdicts event hi).slot_eq hconcerns
        by_contra hsampled
        rw [a.sample_eq_quiet i e.mode (Bool.eq_false_iff.mpr hsampled) e.verdicts] at hi
        cases hi
  | _ => cases horigin

/-- **What an operation says of one slot** is said by the sample of that slot, and only if
the operation samples it. -/
theorem filter_perform_of_concerns {p : Event → Bool}
    (hconcerns : ∀ event, p event = true → event.concerns slot = true)
    (hlog : ∀ malformed, p (.log (.illegalEquation slot malformed)) = false)
    (hnotify : ∀ malformed, p (.notify (.illegalEquation (slotNumber slot) malformed)) = false)
    (e : Engine) (operation : Operation) :
    (e.perform operation).trace.filter p =
      match e.change slot operation with
      | .sample a outcome => (a.note slot e.mode (e.actionRecords.get slot) outcome).trace.filter p
      | _ => [] := by
  by_cases hsample : ∃ q, operation = .sample q
  · obtain ⟨q, rfl⟩ := hsample
    have hreport : (e.rangeReport q).filter p = [] := by
      refine List.filter_eq_nil_iff.mpr fun event hevent hp => ?_
      unfold rangeReport at hevent
      split at hevent
      · have hconcern := hconcerns event hp
        rw [List.mem_singleton.mp hevent] at hconcern
        cases hconcern
      · cases hevent
    -- of the sampled slots, the others say nothing of this one
    have hother (i : ActionSlot) (hi : i ≠ slot) : (e.sampleOf i).trace.filter p = [] := by
      refine List.filter_eq_nil_iff.mpr fun event hevent hp => ?_
      unfold sampleOf at hevent
      split at hevent
      · cases hevent
      · next a _ =>
        exact hi ((a.emits_sample i e.mode _ e.verdicts event hevent).slot_eq (hconcerns event hp))
    have htrace : (e.perform (.sample q)).trace = (e.sample q).trace := rfl
    have hparts : ((ActionSlot.all.filter (e.samples q)).flatMap fun i =>
        (e.sampleOf i).trace.filter p) =
        if e.samples q slot then (e.sampleOf slot).trace.filter p else [] := by
      rw [Trace.flatMap_filter (g := fun i =>
          if e.samples q i then (e.sampleOf i).trace.filter p else []) _ fun _ _ => rfl,
        Trace.flatMap_eq_part ActionSlot.nodup_all (ActionSlot.mem_all slot)]
      intro i _ hi
      rw [hother i hi, ite_self]
    rw [htrace, (e.sample_slotwise q).2, List.filter_append, hreport, List.nil_append,
      List.filter_flatMap, hparts]
    cases hsamples : e.samples q slot with
    | false => rw [e.change_sample_of_not hsamples]; rfl
    | true =>
      simp only [if_true, sampleOf, change, hsamples, true_and, ← State.isSampled_iff]
      cases ha : e.actionpoints.get slot with
      | none => rfl
      | some a =>
        cases hsampled : (e.actionRecords.get slot).state.isSampled with
        | false =>
          simp only [a.sample_eq_quiet slot e.mode hsampled e.verdicts, Bool.false_eq_true, if_false]
          rfl
        | true => exact a.filter_sample slot e.mode hsampled e.verdicts hlog hnotify
  · have hnone : (e.perform operation).trace.filter p = [] := by
      refine List.filter_eq_nil_iff.mpr fun event hevent hp => hsample ?_
      have horigin := e.perform_origin operation event hevent
      rw [Event.origin_of_concerns (hconcerns event hp)] at horigin
      cases operation with
      | sample q => exact ⟨q, rfl⟩
      | _ => cases horigin
    rw [hnone]
    cases hchange : e.change slot operation with
    | sample a outcome => exact absurd (e.sample_of_change hchange).1 hsample
    | _ => rfl

/-- A sample request leaves the record of a slot in a final state as it is. -/
theorem get_perform_sample_of_isFinal (h : (e.actionRecords.get slot).state.isFinal = true)
    (q : Request) :
    (e.perform (.sample q)).engine.actionRecords.get slot = e.actionRecords.get slot := by
  rw [get_perform, e.change_sample_of_not_sampled (State.isSampled_of_isFinal h)]
  rfl

/-- **A run without an accepted load leaves a slot in its final state**, at every call on
the way. -/
theorem state_run_of_isFinal (operations : List Operation)
    (hfinal : (e.actionRecords.get slot).state.isFinal = true)
    (hloads : ∀ call ∈ e.calls operations, call.engine.acceptsLoad call.operation = false) :
    ((e.run operations).actionRecords.get slot).state = (e.actionRecords.get slot).state ∧
      ∀ call ∈ e.calls operations,
        (call.engine.actionRecords.get slot).state = (e.actionRecords.get slot).state := by
  induction operations generalizing e with
  | nil => exact ⟨rfl, fun call hcall => absurd hcall List.not_mem_nil⟩
  | cons operation rest ih =>
    rw [calls, List.forall_mem_cons] at hloads
    have hstep : ((e.perform operation).engine.actionRecords.get slot).state =
        (e.actionRecords.get slot).state := by
      by_contra hne
      have hmoves := moves_of_state_ne hloads.1 hne
      exact Bool.false_ne_true (hmoves.not_isFinal.symm.trans hfinal)
    obtain ⟨hrun, hcalls⟩ := ih (hstep ▸ hfinal) hloads.2
    rw [hstep] at hrun hcalls
    rw [calls, List.forall_mem_cons]
    exact ⟨hrun, rfl, hcalls⟩

/-- **The states of an actionpoint follow the diagram.** Take any state of the engine and
any slot. An operation that is no accepted load takes the slot to another state exactly
if the diagram has that move: a command that names the slot and is not refused, between two
of active, passive and disabled, to the state that it commands; a switch-off that is not
refused, from disabled to permanently off; a sample that triggers, from active to passive.
A slot that is permanently off or unused stays so through every run without an accepted
load. No sample request of such a run changes its record, nothing in the traces is said of
it, and the responses that the transport is asked for, which are those that are
reported as issued, are those of other slots. -/
theorem state_diagram (e : Engine) (slot : ActionSlot) :
    let state := (e.actionRecords.get slot).state
    (∀ operation, e.acceptsLoad operation = false → ∀ other, other ≠ state →
      (((e.perform operation).engine.actionRecords.get slot).state = other ↔
        e.Moves slot operation state other)) ∧
    (state = .permanentlyOff ∨ state = .unused →
      ∀ operations, (∀ call ∈ e.calls operations, call.engine.acceptsLoad call.operation = false) →
        let trace := (e.traces operations).flatten
        ((e.run operations).actionRecords.get slot).state = state ∧
        (∀ call ∈ e.calls operations, ∀ q, call.operation = .sample q →
          (call.engine.perform (.sample q)).engine.actionRecords.get slot =
            call.engine.actionRecords.get slot) ∧
        (∀ event ∈ trace, event.concerns slot = false) ∧
        Trace.requested trace = (Trace.issued trace).map Prod.snd ∧
        ∀ issue ∈ Trace.issued trace, issue.1 ≠ slotNumber slot) := by
  intro state
  refine ⟨fun operation haccepts other hne => state_perform_eq_iff haccepts hne,
    fun hstate operations hloads => ?_⟩
  intro trace
  have hfinal : state.isFinal = true := by
    rcases hstate with h | h <;> rw [h] <;> rfl
  obtain ⟨hrun, hcalls⟩ := state_run_of_isFinal operations hfinal hloads
  have hsilent : ∀ event ∈ trace, event.concerns slot = false := by
    intro event hevent
    by_contra hconcerns
    obtain ⟨part, hpart, hevent⟩ := List.mem_flatten.mp hevent
    rw [traces_eq_map_calls] at hpart
    obtain ⟨call, hcall, rfl⟩ := List.mem_map.mp hpart
    have hsampled := isSampled_of_concerns hevent (Bool.eq_true_of_not_eq_false hconcerns)
    rw [hcalls call hcall, State.isSampled_of_isFinal hfinal] at hsampled
    cases hsampled
  refine ⟨hrun, fun call hcall q _ => ?_, hsilent, e.requested_traces operations, ?_⟩
  · apply get_perform_sample_of_isFinal
    rw [hcalls call hcall]
    exact hfinal
  · -- the report of a response names its slot
    intro issue hissue hnumber
    obtain ⟨event, hevent, hissued⟩ := List.mem_filterMap.mp hissue
    have hconcerns : event.concerns slot = true := by
      unfold Event.issue? at hissued
      split at hissued
      · rw [← Option.some.inj hissued] at hnumber
        exact decide_eq_true (congrArg some hnumber)
      · cases hissued
    exact Bool.false_ne_true ((hsilent event hevent).symm.trans hconcerns)

end Engine

end LimitMonitor
