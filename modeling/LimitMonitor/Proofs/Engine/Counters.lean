import LimitMonitor.Proofs.Engine.History
import Mathlib.Data.List.DropRight

/-!
# The mode and the counters

Beside its tables and records the engine keeps a mode, which only a change of mode changes
(`mode_perform`), and four counters. Two of them count calls: the requests that are
carried out and the messages that have a reader (`counters_sample`, `counters_perform`).
The other two count what a trigger leads to, as it is reported: the responses that are
issued and those that are suppressed (`tallies_perform`).

Main statement: `tallies_run`. They are the numbers of such reports since the counters were
last reset.
-/

namespace LimitMonitor

open Actionpoint

namespace Event

/-- The event reports a response as issued. -/
def isIssued : Event → Bool
  | notify (.responseIssued _ _ _ _ _ _) => true
  | _ => false

/-- The event reports a response as suppressed. -/
def isSuppressed : Event → Bool
  | notify (.responseSuppressed _ _ _) => true
  | _ => false

theorem isResponse_of_isIssued {event : Event} (h : event.isIssued = true) :
    event.isResponse = true := by
  unfold isIssued at h
  split at h
  · rfl
  · cases h

theorem isResponse_of_isSuppressed {event : Event} (h : event.isSuppressed = true) :
    event.isResponse = true := by
  unfold isSuppressed at h
  split at h
  · rfl
  · cases h

end Event

namespace Trace

/-- How many responses a trace reports as issued. -/
def issues (trace : Trace) : Nat := trace.countP Event.isIssued

/-- How many responses a trace reports as suppressed. -/
def suppressions (trace : Trace) : Nat := trace.countP Event.isSuppressed

theorem issues_append (first second : Trace) :
    issues (first ++ second) = issues first + issues second :=
  List.countP_append

theorem suppressions_append (first second : Trace) :
    suppressions (first ++ second) = suppressions first + suppressions second :=
  List.countP_append

/-- Counters that start at zero do not have to stop at their greatest value for the
responses of the trace. -/
def IsCountable (trace : Trace) : Prop :=
  trace.issues ≤ 0xFFFFFFFF ∧ trace.suppressions ≤ 0xFFFFFFFF

/-- The reports of a trace are those of its responses. -/
theorem issues_filter_isResponse (trace : Trace) :
    issues (trace.filter Event.isResponse) = issues trace ∧
      suppressions (trace.filter Event.isResponse) = suppressions trace :=
  ⟨Event.countP_filter_isResponse (fun _ => Event.isResponse_of_isIssued) trace,
    Event.countP_filter_isResponse (fun _ => Event.isResponse_of_isSuppressed) trace⟩

/-- A trace without responses reports none. -/
theorem issues_eq_zero {trace : Trace} (h : trace.filter Event.isResponse = []) :
    issues trace = 0 ∧ suppressions trace = 0 := by
  rw [← (issues_filter_isResponse trace).1, ← (issues_filter_isResponse trace).2, h]
  exact ⟨rfl, rfl⟩

end Trace

namespace Operation

/-- The operation sets the counters to zero. -/
def resetsCounters : Operation → Bool
  | resetCounters => true
  | _ => false

end Operation

/-! ## Tallies -/

namespace Counters

/-- The counters have counted so many issued and so many suppressed responses. -/
structure Tallies (c : Counters) (issued suppressed : Nat) : Prop where
  responses : c.responses.Counts issued
  suppressed : c.suppressed.Counts suppressed

theorem tallies_zero : zero.Tallies 0 0 := ⟨Counter.counts_zero, Counter.counts_zero⟩

/-- Counters that did not have to stop show how many responses there were. -/
theorem Tallies.add_eq {c : Counters} {trace : Trace}
    (h : c.Tallies trace.issues trace.suppressions) (hcountable : trace.IsCountable) :
    c.responses.toNat + c.suppressed.toNat = trace.issues + trace.suppressions := by
  have hresponses : c.responses.toNat = min trace.issues 0xFFFFFFFF := h.responses
  have hsuppressed : c.suppressed.toNat = min trace.suppressions 0xFFFFFFFF := h.suppressed
  rw [hresponses, hsuppressed, Nat.min_eq_left hcountable.1, Nat.min_eq_left hcountable.2]

/-- **What a sample triggers is counted as it is reported.** -/
theorem Tallies.note {c : Counters} {issued suppressed : Nat} (h : c.Tallies issued suppressed)
    (a : Actionpoint) (slot : ActionSlot) (mode : Mode) (r : Record)
    (verdicts : WatchSlot → Verdict) :
    (c.note (a.sample slot mode verdicts r).trigger).Tallies
      (issued + (a.sample slot mode verdicts r).trace.issues)
      (suppressed + (a.sample slot mode verdicts r).trace.suppressions) := by
  obtain ⟨hissues, hsuppressions⟩ :=
    Trace.issues_filter_isResponse (a.sample slot mode verdicts r).trace
  rw [← hissues, ← hsuppressions, a.filter_isResponse_sample, a.trigger_sample]
  by_cases htriggered : a.isTriggered r (a.outcome verdicts) = true
  · rw [if_pos htriggered, if_pos htriggered]
    cases mode with
    | active => exact ⟨h.responses.next, h.suppressed⟩
    | passive | disabled => exact ⟨h.responses, h.suppressed.next⟩
  · rw [if_neg htriggered, if_neg htriggered]
    exact h

/-- What a sample triggers is counted apart from the calls. -/
theorem note_calls (c : Counters) (trigger : Option Trigger) :
    (c.note trigger).samples = c.samples ∧ (c.note trigger).messages = c.messages := by
  rcases trigger with _ | _ | _ <;> exact ⟨rfl, rfl⟩

end Counters

namespace Engine

variable {e : Engine} {issued suppressed : Nat}

/-- One turn of the loop leaves the counters of calls alone. -/
theorem calls_visit (s : Sampling) (slot : ActionSlot) :
    let after := Sampling.visit e.actionpoints e.mode e.verdicts s slot
    after.counters.samples = s.counters.samples ∧
      after.counters.messages = s.counters.messages := by
  intro after
  simp only [after, Sampling.visit]
  split
  · exact ⟨rfl, rfl⟩
  · exact s.counters.note_calls _

/-- One turn of the loop counts what it adds to the trace. -/
theorem tallies_visit {s : Sampling} (slot : ActionSlot)
    (h : s.counters.Tallies (issued + s.trace.issues) (suppressed + s.trace.suppressions)) :
    let after := Sampling.visit e.actionpoints e.mode e.verdicts s slot
    after.counters.Tallies (issued + after.trace.issues)
      (suppressed + after.trace.suppressions) := by
  intro after
  simp only [after, Sampling.visit]
  split
  · exact h
  · next a _ =>
    rw [Trace.issues_append, Trace.suppressions_append, ← Nat.add_assoc, ← Nat.add_assoc]
    exact h.note a slot e.mode (s.records.get slot) e.verdicts

/-- **The loop over the slots** counts what its trace reports, and no calls. -/
theorem counters_foldl_visit (slots : List ActionSlot) (s : Sampling) :
    let after := slots.foldl (Sampling.visit e.actionpoints e.mode e.verdicts) s
    after.counters.samples = s.counters.samples ∧
      after.counters.messages = s.counters.messages ∧
      ∀ issued suppressed,
        s.counters.Tallies (issued + s.trace.issues) (suppressed + s.trace.suppressions) →
        after.counters.Tallies (issued + after.trace.issues)
          (suppressed + after.trace.suppressions) := by
  induction slots generalizing s with
  | nil => exact ⟨rfl, rfl, fun _ _ h => h⟩
  | cons slot rest ih =>
    obtain ⟨hsamples, hmessages, htallies⟩ :=
      ih (Sampling.visit e.actionpoints e.mode e.verdicts s slot)
    obtain ⟨hsamples', hmessages'⟩ := calls_visit (e := e) s slot
    rw [List.foldl_cons]
    exact ⟨hsamples.trans hsamples', hmessages.trans hmessages',
      fun issued suppressed h => htallies issued suppressed (tallies_visit slot h)⟩

/-! ## Operations -/

/-- Some watchpoint reads the message. -/
def takesUp (e : Engine) (m : Message) : Bool := !(e.index.lookup m.id).isEmpty

variable (e)

/-- A request leaves the mode alone. The counter of samples counts it if it is carried
out, and the others count what it triggers. -/
theorem counters_sample (q : Request) :
    (e.sample q).engine.mode = e.mode ∧
      (e.sample q).engine.counters.samples =
        (if e.carriesOut q then e.counters.samples.next else e.counters.samples) ∧
      (e.sample q).engine.counters.messages = e.counters.messages ∧
      ∀ issued suppressed, e.counters.Tallies issued suppressed →
        (e.sample q).engine.counters.Tallies (issued + (e.sample q).trace.issues)
          (suppressed + (e.sample q).trace.suppressions) := by
  by_cases h : e.mode = .disabled ∨ ∀ range, q.scope ≠ .slots range
  · obtain ⟨hengine, htrace⟩ := sample_of_not_slots h
    have hsilent : (e.rangeReport q).issues = 0 ∧ (e.rangeReport q).suppressions = 0 := by
      unfold rangeReport
      split <;> exact ⟨rfl, rfl⟩
    rw [hengine, htrace, carriesOut_of_not_slots h, hsilent.1, hsilent.2]
    exact ⟨rfl, rfl, rfl, fun _ _ h => h⟩
  · simp only [not_or, not_forall, not_not] at h
    obtain ⟨hmode, range, hscope⟩ := h
    have hsampled : (e.sample q).engine.mode = e.mode ∧
        (e.sample q).engine.counters = { (e.sampleSlots range).1.counters with
          samples := (e.sampleSlots range).1.counters.samples.next } := by
      unfold sample
      cases hactive : e.mode with
      | disabled => exact absurd hactive hmode
      | active | passive =>
        simp only [hscope]
        cases q.aging <;> exact ⟨hactive, rfl⟩
    obtain ⟨hsamples, hmessages, htallies⟩ :=
      counters_foldl_visit (e := e) range ⟨e.actionRecords, e.counters, []⟩
    rw [(sample_of_slots hmode hscope).2, hsampled.2, carriesOut_of_slots hmode hscope]
    refine ⟨hsampled.1, congrArg Counter.next hsamples, hmessages, fun issued suppressed h => ?_⟩
    have hcounted := htallies issued suppressed h
    exact ⟨hcounted.responses, hcounted.suppressed⟩

/-- **Only a change of mode changes the mode.** -/
theorem mode_perform (operation : Operation) :
    (e.perform operation).engine.mode =
      match operation with
      | .setMode mode => mode
      | _ => e.mode := by
  cases operation with
  | load watchTable actionTable t =>
    simp only [perform, Step.reply, engine_load]
    split <;> rfl
  | sample q => exact (e.counters_sample q).1
  | receive m p =>
    simp only [perform, Step.reply, receive]
    split <;> rfl
  | setState | switchOff | resetActionpoints | resetWatchpoints =>
    simp only [perform, Step.reply, setState, switchOff, resetActionpoints, resetWatchpoints]
    repeat' split
    all_goals rfl
  | age | setMode | resetCounters | housekeep | snapshot => rfl

/-- **The counters of an operation.** Samples and messages are counted as they are carried
out and read, responses as they are reported, and a reset sets all four to zero. -/
theorem counters_perform (operation : Operation) :
    match operation with
    | .sample q => (e.perform operation).engine.counters = (e.sample q).engine.counters
    | .receive m _ => (e.perform operation).engine.counters =
        if e.takesUp m then { e.counters with messages := e.counters.messages.next }
        else e.counters
    | .resetCounters => (e.perform operation).engine.counters = .zero
    | _ => (e.perform operation).engine.counters = e.counters := by
  cases operation with
  | load watchTable actionTable t =>
    simp only [perform, Step.reply, engine_load]
    split <;> rfl
  | sample q => rfl
  | receive m p =>
    cases hwatchers : e.index.lookup m.id <;>
      simp only [perform, Step.reply, receive, takesUp, hwatchers] <;> rfl
  | setState | switchOff | resetActionpoints | resetWatchpoints =>
    simp only [perform, Step.reply, setState, switchOff, resetActionpoints, resetWatchpoints]
    repeat' split
    all_goals rfl
  | age | setMode | resetCounters | housekeep | snapshot => rfl

/-- **An operation that does not reset the counters counts the responses that it reports.** -/
theorem tallies_perform {e : Engine} {issued suppressed : Nat}
    (h : e.counters.Tallies issued suppressed) {operation : Operation}
    (hkept : operation.resetsCounters = false) :
    (e.perform operation).engine.counters.Tallies
      (issued + (e.perform operation).trace.issues)
      (suppressed + (e.perform operation).trace.suppressions) := by
  by_cases hsample : ∃ q, operation = .sample q
  · obtain ⟨q, rfl⟩ := hsample
    exact (e.counters_sample q).2.2.2 issued suppressed h
  · obtain ⟨hissues, hsuppressions⟩ := Trace.issues_eq_zero
      (e.filter_isResponse_of_not_sample fun q hq => hsample ⟨q, hq⟩)
    rw [hissues, hsuppressions]
    have hcounters := e.counters_perform operation
    cases operation with
    | sample q => exact absurd ⟨q, rfl⟩ hsample
    | resetCounters => cases hkept
    | receive m p =>
      rw [hcounters]
      split <;> exact ⟨h.responses, h.suppressed⟩
    | _ => exact hcounters ▸ h

/-! ## Runs -/

/-- The calls of a run since the counters were last reset, or all if they never were. -/
def sinceReset (operations : List Operation) : List Call :=
  (e.calls operations).rtakeWhile fun call => !call.operation.resetsCounters

theorem sinceReset_concat (operations : List Operation) (operation : Operation) :
    e.sinceReset (operations ++ [operation]) =
      if operation.resetsCounters then []
      else e.sinceReset operations ++ [⟨e.run operations, operation⟩] := by
  rw [sinceReset, calls_concat, List.rtakeWhile_concat]
  cases operation.resetsCounters <;> rfl

/-- What these calls did to the world. -/
def traceSinceReset (operations : List Operation) : Trace :=
  (e.sinceReset operations).flatMap Call.trace

/-- **The counters of responses tally with the reports** since they were last reset. -/
theorem tallies_run (operations : List Operation) :
    (initial.run operations).counters.Tallies (initial.traceSinceReset operations).issues
      (initial.traceSinceReset operations).suppressions := by
  induction operations using List.reverseRecOn with
  | nil => exact Counters.tallies_zero
  | append_singleton operations operation ih =>
    rw [run_concat, traceSinceReset, sinceReset_concat]
    cases hreset : operation.resetsCounters with
    | true =>
      cases operation with
      | resetCounters => exact Counters.tallies_zero
      | _ => cases hreset
    | false =>
      rw [if_neg Bool.false_ne_true, List.flatMap_append, Trace.issues_append,
        Trace.suppressions_append, List.flatMap_singleton]
      exact tallies_perform ih hreset

end Engine

end LimitMonitor
