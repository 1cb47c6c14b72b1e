import LimitMonitor.Proofs.Actionpoint.Caps

/-!
# What the statistics of an actionpoint tell

An accepted load fills every slot anew, and a reset of statistics clears those of the slots
that it names. The calls since then are the window of a slot (`sinceOpening`), and its
statistics are numbers of samples and reports in that window. A sample is one only while
the actionpoint is active or passive (`Engine.change_spec`). The counts of reports that can
be capped, and the failures in a row, are the account of `Call.Accounts`; this file adds
the failures and the responses (`Call.Tells`), opens the window with the run
(`tells_run`), and says what changes nothing but the last outcome or the state.

Main statement: `statistics_tell_samples`.
-/

namespace LimitMonitor

open Actionpoint

namespace Event

/-- The event reports a response of the actionpoint in a slot as issued. -/
def isIssueOf (slot : ActionSlot) : Event → Bool
  | notify (.responseIssued number _ _ _ _ _) => number = slotNumber slot
  | _ => false

theorem isResponse_of_isIssueOf {slot : ActionSlot} {event : Event}
    (h : event.isIssueOf slot = true) : event.isResponse = true := by
  unfold isIssueOf at h
  split at h
  · rfl
  · cases h

theorem concerns_of_isIssueOf {slot : ActionSlot} {event : Event}
    (h : event.isIssueOf slot = true) : event.concerns slot = true := by
  unfold isIssueOf at h
  split at h
  · simpa [concerns, Notification.actionpoint?] using h
  · cases h

end Event

namespace Actionpoint

/-! ## One sample -/

variable (a : Actionpoint) (slot : ActionSlot) (mode : Mode) (r : Record)

theorem failures_respond : (a.respond slot mode r).record.failures = r.failures := by
  unfold respond
  split
  · rfl
  · split
    · cases mode <;> rfl
    all_goals rfl

/-- A sample counts a failure. -/
theorem failures_note (outcome : Outcome) :
    (a.note slot mode r outcome).record.failures =
      if outcome = .fail then r.failures.next else r.failures := by
  cases outcome with
  | fail =>
    simp only [note, noteFail, if_true]
    split <;> exact a.failures_respond slot mode _
  | pass =>
    simp only [note, notePass]
    split <;> rfl
  | stale => rfl
  | error => rfl

/-- A change that does not fill or clear the record counts a failure as it happens. -/
theorem counts_failures_apply {history : List Change} {c : Change} (hclear : c ≠ .clear)
    (hload : ∀ entry, c ≠ .load entry)
    (h : r.failures.Counts (history.countP Change.isFailure)) :
    (c.apply slot mode r).failures.Counts ((history ++ [c]).countP Change.isFailure) := by
  rw [List.countP_append, List.countP_singleton]
  cases c with
  | sample a outcome =>
    rw [Change.apply, failures_note]
    cases outcome with
    | fail => exact h.next
    | pass | stale | error => exact h
  | load entry => exact absurd rfl (hload entry)
  | clear => exact absurd rfl hclear
  | keep | command state | switchOff => exact h

/-- What is done about a failure counts a response if one leaves. -/
theorem responses_respond :
    (a.respond slot mode r).record.responses =
        (if (r.state = .active ∧ a.reached r.streak = true) ∧ mode = .active then
          r.responses.next else r.responses) ∧
      (a.respond slot mode r).record.announcements =
        if (r.state = .active ∧ a.reached r.streak = true) ∧ mode = .active then
          r.announcements.next else r.announcements := by
  by_cases h : r.state = .active ∧ a.reached r.streak = true
  · rw [a.respond_of_reached slot mode h]
    cases mode <;> simp [trigger, h]
  · simp only [h, false_and, if_false]
    unfold respond
    split
    · exact ⟨rfl, rfl⟩
    · next hreached =>
      rw [Bool.not_eq_true', Bool.not_eq_false] at hreached
      split
      · next hactive => exact absurd ⟨hactive, hreached⟩ h
      all_goals exact ⟨rfl, rfl⟩

/-- **A sample counts a response** if it triggers the actionpoint in an active engine. -/
theorem responses_note (outcome : Outcome) :
    (a.note slot mode r outcome).record.responses =
        (if a.isTriggered r outcome = true ∧ mode = .active then r.responses.next
          else r.responses) ∧
      (a.note slot mode r outcome).record.announcements =
        if a.isTriggered r outcome = true ∧ mode = .active then r.announcements.next
        else r.announcements := by
  cases outcome with
  | fail =>
    simp only [note, noteFail, isTriggered_fail, Bool.and_eq_true, decide_eq_true_eq]
    split <;> exact a.responses_respond slot mode _
  | pass =>
    simp only [note, notePass, a.isTriggered_of_ne r (show Outcome.pass ≠ .fail by decide)]
    split <;> exact ⟨rfl, rfl⟩
  | stale => exact ⟨rfl, rfl⟩
  | error => exact ⟨rfl, rfl⟩

/-- **And reports it then.** -/
theorem countP_isIssueOf_note (outcome : Outcome) :
    (a.note slot mode r outcome).trace.countP (Event.isIssueOf slot) =
      if a.isTriggered r outcome = true ∧ mode = .active then 1 else 0 := by
  rw [← Event.countP_filter_isResponse (fun _ => Event.isResponse_of_isIssueOf),
    a.filter_isResponse_note]
  by_cases htriggered : a.isTriggered r outcome = true
  · cases mode <;> simp [htriggered, response, Event.isIssueOf]
  · simp [htriggered]

end Actionpoint

/-! ## One call -/

/-- The record of a slot tells the calls of a window: it accounts for them, and it counts
the failures and the responses. -/
structure Call.Tells (slot : ActionSlot) (window : List Call) (r : Record) : Prop
    extends Call.Accounts slot window r where
  failures : r.failures.Counts ((Call.changes slot window).countP Change.isFailure)
  responses : r.responses.Counts ((window.flatMap Call.trace).countP (Event.isIssueOf slot))
  announcements :
    r.announcements.Counts ((window.flatMap Call.trace).countP (Event.isIssueOf slot))

namespace Engine

open Call (Accounts Tells positions isOccasion changes)

variable {e : Engine} {slot : ActionSlot} {window : List Call} {operation : Operation}

/-- A fresh record tells nothing. -/
theorem tells_starting (slot : ActionSlot) (state : State) : Tells slot [] (.starting state) where
  toAccounts := accounts_starting slot state
  failures := Counter.counts_zero
  responses := Counter.counts_zero
  announcements := Counter.counts_zero

/-- An operation reports a response of a slot as issued if it triggers the actionpoint in an
active engine. -/
theorem countP_isIssueOf_perform (e : Engine) (slot : ActionSlot) (operation : Operation) :
    (e.perform operation).trace.countP (Event.isIssueOf slot) =
      if e.triggers slot operation = true ∧ e.mode = .active then 1 else 0 := by
  rw [List.countP_eq_length_filter, filter_perform_of_concerns (p := Event.isIssueOf slot)
    (fun _ => Event.concerns_of_isIssueOf) (fun _ => rfl) (fun _ => rfl) e operation, triggers_eq]
  cases e.change slot operation with
  | sample a outcome =>
    rw [← List.countP_eq_length_filter, a.countP_isIssueOf_note]
    rfl
  | _ => rfl

/-- A call of a window counts the response of a slot, in the record twice, if it triggers the
actionpoint in an active engine. -/
theorem responses_perform (hkept : Call.opens slot ⟨e, operation⟩ = false) :
    let r := e.actionRecords.get slot
    let r' := (e.perform operation).engine.actionRecords.get slot
    r'.responses =
        (if e.triggers slot operation = true ∧ e.mode = .active then r.responses.next
          else r.responses) ∧
      r'.announcements =
        if e.triggers slot operation = true ∧ e.mode = .active then r.announcements.next
        else r.announcements := by
  obtain ⟨hclear, hload⟩ := Call.change_of_not_opens hkept
  simp only [Call.change] at hclear hload
  intro r r'
  rw [triggers_eq, show r' = _ from e.get_perform operation slot]
  cases hchange : e.change slot operation with
  | sample a outcome => exact a.responses_note slot e.mode _ outcome
  | load entry => exact absurd hchange (hload entry)
  | clear => exact absurd hchange hclear
  | keep | command state | switchOff => exact ⟨rfl, rfl⟩

/-- **One call of a window is told** by the record that it leaves. -/
theorem tells_perform (h : Tells slot window (e.actionRecords.get slot))
    (hkept : Call.opens slot ⟨e, operation⟩ = false) :
    Tells slot (window ++ [⟨e, operation⟩])
      ((e.perform operation).engine.actionRecords.get slot) := by
  have hissues : (List.flatMap Call.trace (window ++ [⟨e, operation⟩])).countP
        (Event.isIssueOf slot) =
      (window.flatMap Call.trace).countP (Event.isIssueOf slot) +
        if e.triggers slot operation = true ∧ e.mode = .active then 1 else 0 := by
    have hcall : Call.trace ⟨e, operation⟩ = (e.perform operation).trace := rfl
    rw [List.flatMap_append, List.countP_append, List.flatMap_singleton, hcall,
      countP_isIssueOf_perform]
  obtain ⟨hresponses, hannouncements⟩ := responses_perform hkept
  refine ⟨accounts_perform h.toAccounts hkept, ?_, ?_, ?_⟩
  · rw [get_perform, Call.changes_concat]
    obtain ⟨hclear, hload⟩ := Call.change_of_not_opens hkept
    exact counts_failures_apply slot e.mode _ hclear hload h.failures
  · rw [hresponses, hissues]
    split
    · exact h.responses.next
    · exact h.responses
  · rw [hannouncements, hissues]
    split
    · exact h.announcements.next
    · exact h.announcements

/-! ## Runs -/

/-- The calls of a run since a window of a slot was last opened, or all if none was. -/
def sinceOpening (e : Engine) (slot : ActionSlot) (operations : List Operation) : List Call :=
  (e.calls operations).rtakeWhile fun call => !call.opens slot

theorem sinceOpening_concat (e : Engine) (slot : ActionSlot) (operations : List Operation)
    (operation : Operation) : e.sinceOpening slot (operations ++ [operation]) =
      if Call.opens slot ⟨e.run operations, operation⟩ then []
      else e.sinceOpening slot operations ++ [⟨e.run operations, operation⟩] := by
  rw [sinceOpening, calls_concat, List.rtakeWhile_concat]
  cases Call.opens slot ⟨e.run operations, operation⟩ <;> rfl

/-- **After every run the record of a slot tells its window.** -/
theorem tells_run (slot : ActionSlot) (operations : List Operation) :
    Tells slot (initial.sinceOpening slot operations)
      ((initial.run operations).actionRecords.get slot) := by
  induction operations using List.reverseRecOn with
  | nil =>
    have hinitial : (initial.run []).actionRecords.get slot = .initial := by simp [initial, run]
    rw [hinitial]
    exact tells_starting slot .unused
  | append_singleton operations operation ih =>
    rw [run_concat, sinceOpening_concat]
    cases hopens : Call.opens slot ⟨initial.run operations, operation⟩ with
    | true =>
      obtain ⟨state, hrecord⟩ := record_of_opens hopens
      rw [hrecord]
      exact tells_starting slot state
    | false => exact tells_perform ih hopens

/-! ## What changes no statistic -/

/-- A sample that comes out as an error changes the last outcome, and nothing else. -/
theorem record_of_error {a : Actionpoint} (h : e.change slot operation = .sample a .error) :
    (e.perform operation).engine.actionRecords.get slot =
      { e.actionRecords.get slot with outcome := .error } := by
  rw [get_perform, h]
  rfl

/-- A request does not change an actionpoint that is neither active nor passive. -/
theorem record_of_not_sampled (h : (e.actionRecords.get slot).state.isSampled = false)
    (q : Request) :
    (e.perform (.sample q)).engine.actionRecords.get slot = e.actionRecords.get slot := by
  rw [get_perform, e.change_sample_of_not_sampled h]
  rfl

/-- Commands change the state, and nothing else. -/
theorem record_of_command (e : Engine) (slot : ActionSlot) (target : UInt16) :
    (∀ state, ∃ state', (e.perform (.setState target state)).engine.actionRecords.get slot =
        { e.actionRecords.get slot with state := state' }) ∧
      ∃ state', (e.perform (.switchOff target)).engine.actionRecords.get slot =
        { e.actionRecords.get slot with state := state' } := by
  refine ⟨fun state => ?_, ?_⟩
  · rw [get_perform]
    simp only [change]
    split <;> exact ⟨_, rfl⟩
  · rw [get_perform]
    simp only [change]
    split <;> exact ⟨_, rfl⟩

/-- **The statistics of an actionpoint tell its samples.** Take any run and any slot, and let
`window` be the calls since the last accepted load, or the last reset of statistics that
names the slot. The record has counted the failures in the window; the failures whose
preceding sample there is a pass, and the passes whose preceding sample is a failure; the
failures since the last pass or stale outcome; the failures of the passive actionpoint that
bring these to the threshold or past it; and, in two counters, the responses that are
reported as issued: every count up to the greatest value of a counter.

An error is the preceding outcome from then on, and changes nothing else. A request changes
nothing in a slot that is disabled, permanently off or unused, a command nothing but the
state, and a change of mode nothing at all. -/
theorem statistics_tell_samples (operations : List Operation) (slot : ActionSlot) :
    let e := initial.run operations
    let r := e.actionRecords.get slot
    let window := initial.sinceOpening slot operations
    let occasions (report : Report) := (positions (isOccasion report slot) window).length
    let issued := (window.flatMap Call.trace).countP (Event.isIssueOf slot)
    (r.failures.toNat = min ((changes slot window).countP Change.isFailure) 0xFFFFFFFF ∧
      r.onsets.toNat = min (occasions .onset) 0xFFFFFFFF ∧
      r.recoveries.toNat = min (occasions .recovery) 0xFFFFFFFF ∧
      r.streak.toNat = min (failureRun (changes slot window)) 0xFFFFFFFF ∧
      r.passiveFailures.toNat = min (occasions .passiveFailure) 0xFFFFFFFF ∧
      r.responses.toNat = min issued 0xFFFFFFFF ∧
      r.announcements.toNat = min issued 0xFFFFFFFF) ∧
    (∀ operation a, e.change slot operation = .sample a .error →
      (e.perform operation).engine.actionRecords.get slot = { r with outcome := .error }) ∧
    (∀ q, r.state = .disabled ∨ r.state = .permanentlyOff ∨ r.state = .unused →
      (e.perform (.sample q)).engine.actionRecords.get slot = r) ∧
    (∀ target state, ∃ state',
      (e.perform (.setState target state)).engine.actionRecords.get slot =
        { r with state := state' }) ∧
    (∀ target, ∃ state', (e.perform (.switchOff target)).engine.actionRecords.get slot =
      { r with state := state' }) ∧
    (∀ mode, (e.perform (.setMode mode)).engine.actionRecords.get slot = r) := by
  intro e r window occasions issued
  have htells : Tells slot window r := tells_run slot operations
  refine ⟨⟨htells.failures, htells.counts .onset, htells.counts .recovery, htells.streak,
    htells.counts .passiveFailure, htells.responses, htells.announcements⟩, ?_, ?_, ?_, ?_, ?_⟩
  · intro operation a herror
    exact record_of_error herror
  · intro q hstate
    exact record_of_not_sampled (State.isSampled_eq_false_iff.mpr hstate) q
  · intro target state
    exact (e.record_of_command slot target).1 state
  · intro target
    exact (e.record_of_command slot target).2
  · intro mode
    exact e.get_perform (.setMode mode) slot

end Engine

end LimitMonitor
