import LimitMonitor.Proofs.Actionpoint.Diagram
import LimitMonitor.Proofs.Actionpoint.Threshold
import LimitMonitor.Proofs.Engine.Counters
import LimitMonitor.Proofs.Watchpoint.Staleness

/-!
# Capped reports

Three reports of an actionpoint are capped by its definition: that it fails after a pass,
that it passes after a failure, and that it fails at its threshold while it is passive. Each
is held against a count in the record, and the count is that of the occasions since the
statistics were last cleared (`Accounts`, kept by every call that does not clear them,
`accounts_perform`). A counter that has stopped is past every cap
(`Counter.Counts.within_iff`), so a report that has reached its cap is not made again.

Main statement: `reports_are_capped`.
-/

namespace LimitMonitor

open Actionpoint

namespace Actionpoint

/-- The reports that the definition of an actionpoint caps. -/
inductive Report where
  /-- It fails after a pass. -/
  | onset
  /-- It passes after a failure. -/
  | recovery
  /-- It fails at its threshold while it is passive. -/
  | passiveFailure
deriving DecidableEq

namespace Report

/-- The cap of a report. -/
def cap (a : Actionpoint) : Report → UInt16
  | onset => a.failCap
  | recovery => a.recoveryCap
  | passiveFailure => a.passiveCap

/-- The count that is held against the cap. -/
def count (r : Record) : Report → Counter
  | onset => r.onsets
  | recovery => r.recoveries
  | passiveFailure => r.passiveFailures

/-- A sample with this outcome is an occasion for the report, by the record that it
meets. -/
def isDue (a : Actionpoint) (r : Record) (outcome : Outcome) : Report → Bool
  | onset => outcome = .fail && r.outcome = .pass
  | recovery => outcome = .pass && r.outcome = .fail
  | passiveFailure => outcome = .fail && r.state = .passive && a.reached r.streak.next

end Report

end Actionpoint

namespace Event

/-- The event is such a report of the actionpoint in a slot. -/
def isReport (report : Report) (slot : ActionSlot) : Event → Bool
  | notify (.passToFail number) => report = .onset && number = slotNumber slot
  | notify (.failToPass number) => report = .recovery && number = slotNumber slot
  | notify (.failedWhilePassive number _ _) =>
    report = .passiveFailure && number = slotNumber slot
  | _ => false

theorem concerns_of_isReport {report : Report} {slot : ActionSlot} {event : Event}
    (h : event.isReport report slot = true) : event.concerns slot = true := by
  unfold isReport at h
  split at h
  · simpa [concerns, Notification.actionpoint?] using (Bool.and_eq_true_iff.mp h).2
  · simpa [concerns, Notification.actionpoint?] using (Bool.and_eq_true_iff.mp h).2
  · simpa [concerns, Notification.actionpoint?] using (Bool.and_eq_true_iff.mp h).2
  · cases h

end Event

namespace Actionpoint

/-! ## One sample -/

variable (a : Actionpoint) (slot : ActionSlot) (mode : Mode) (r : Record) (report : Report)

theorem countP_capped (p : Event → Bool) (count : Counter) (cap : UInt16)
    (notification : Notification) : (capped count cap notification).countP p =
      if p (.notify notification) = true ∧ count.within cap = true then 1 else 0 := by
  unfold capped
  cases count.within cap <;> simp [List.countP_singleton]

theorem count_trigger : report.count (a.trigger slot mode r).record = report.count r := by
  cases mode <;> cases report <;> rfl

theorem countP_isReport_trigger :
    (a.trigger slot mode r).trace.countP (Event.isReport report slot) = 0 := by
  cases mode <;> rfl

/-- What is done about a failure counts the failures of a passive actionpoint at its
threshold, and reports them. -/
theorem count_respond :
    report.count (a.respond slot mode r).record =
        (if report = .passiveFailure ∧ r.state = .passive ∧ a.reached r.streak = true then
          (report.count r).next else report.count r) ∧
      (a.respond slot mode r).trace.countP (Event.isReport report slot) =
        if (report = .passiveFailure ∧ r.state = .passive ∧ a.reached r.streak = true) ∧
          (report.count r).next.within (report.cap a) = true then 1 else 0 := by
  unfold respond
  by_cases hreached : a.reached r.streak = true
  · simp only [hreached, Bool.not_true, Bool.false_eq_true, if_false, and_true]
    split
    · next hstate =>
      simp [hstate, a.count_trigger, a.countP_isReport_trigger]
    · next hstate =>
      simp only [hstate, and_true, Sample.quiet, countP_capped]
      cases report <;> simp [Report.count, Report.cap, Event.isReport]
    all_goals next hstate => simp [hstate, Sample.quiet]
  · simp [hreached, Sample.quiet]

/-- **A sample counts an occasion for a report, and reports it within the cap.** -/
theorem count_note (outcome : Outcome) :
    report.count (a.note slot mode r outcome).record =
        (if report.isDue a r outcome then (report.count r).next else report.count r) ∧
      (a.note slot mode r outcome).trace.countP (Event.isReport report slot) =
        if report.isDue a r outcome = true ∧
            (report.count r).next.within (report.cap a) = true then 1
        else 0 := by
  cases outcome with
  | fail =>
    simp only [note, noteFail]
    split
    · next hpass =>
      simp only [List.countP_append, countP_capped, (a.count_respond slot mode _ report).1,
        (a.count_respond slot mode _ report).2]
      cases report <;> simp [Report.count, Report.cap, Report.isDue, Event.isReport, hpass]
    · next hpass =>
      simp only [(a.count_respond slot mode _ report).1, (a.count_respond slot mode _ report).2]
      cases report <;> simp [Report.count, Report.cap, Report.isDue, hpass]
  | pass =>
    simp only [note, notePass]
    split
    · next hfail =>
      simp only [Sample.quiet, countP_capped]
      cases report <;> simp [Report.count, Report.cap, Report.isDue, Event.isReport, hfail]
    · next hfail =>
      cases report <;> simp [Report.count, Report.isDue, Sample.quiet, hfail]
  | stale => cases report <;> simp [note, Report.count, Report.isDue, Sample.quiet]
  | error =>
    cases report <;> simp [note, Report.count, Report.isDue, Sample.quiet, Event.isReport]

/-! ## Occasions -/

/-- The outcome of a change, if it is a sample. -/
def Change.outcome? : Change → Option Outcome
  | sample _ outcome => some outcome
  | _ => none

/-- The outcome of the last sample of a history. -/
def lastOutcome (history : List Change) : Option Outcome :=
  (history.filterMap Change.outcome?).getLast?

theorem lastOutcome_concat (history : List Change) (c : Change) :
    lastOutcome (history ++ [c]) = c.outcome?.or (lastOutcome history) := by
  unfold lastOutcome
  rw [List.filterMap_append]
  cases h : c.outcome? with
  | none => simp [h]
  | some outcome => simp [h]

end Actionpoint

namespace Call

/-- A call opens a window for a slot: it is an accepted load, or it resets the statistics
of the slot. -/
def opens (slot : ActionSlot) (call : Call) : Bool :=
  match call.operation with
  | .resetActionpoints target => ActionSlot.covers target slot
  | operation => call.engine.acceptsLoad operation

/-- A call makes a report of the actionpoint in a slot. -/
def reports (report : Report) (slot : ActionSlot) (call : Call) : Bool :=
  call.trace.any (Event.isReport report slot)

/-- What a list of calls does to a slot. -/
def changes (slot : ActionSlot) (calls : List Call) : List Change := calls.map (change slot)

/-- **The occasions of a report.** After the calls of a window so far, a call is an occasion
if it samples the slot, and the outcome is a failure and that of the last sample in the
window a pass, or the reverse, or the outcome is a failure of a passive actionpoint that
brings the failures in a row to the threshold or past it. -/
def isOccasion (report : Report) (slot : ActionSlot) (before : List Call) (call : Call) : Bool :=
  match call.change slot with
  | .sample a outcome =>
    match report with
    | .onset => outcome = .fail && lastOutcome (changes slot before) = some .pass
    | .recovery => outcome = .pass && lastOutcome (changes slot before) = some .fail
    | .passiveFailure =>
      outcome = .fail && (call.engine.actionRecords.get slot).state = .passive &&
        a.threshold.toNat ≤ failureRun (changes slot (before ++ [call]))
  | _ => false

/-- The positions in a list of calls that have a property, given the calls before them. -/
def positions (p : List Call → Call → Bool) (calls : List Call) : List Nat :=
  (List.range calls.length).filter fun i => calls[i]?.any (p (calls.take i))

theorem positions_concat (p : List Call → Call → Bool) (calls : List Call) (call : Call) :
    positions p (calls ++ [call]) =
      positions p calls ++ if p calls call then [calls.length] else [] := by
  have hbefore : ∀ i ∈ List.range calls.length,
      (calls ++ [call])[i]?.any (p ((calls ++ [call]).take i)) =
        calls[i]?.any (p (calls.take i)) := by
    intro i hi
    have hlt : i < calls.length := List.mem_range.mp hi
    rw [List.getElem?_append_left hlt, List.take_append_of_le_length (Nat.le_of_lt hlt)]
  unfold positions
  rw [List.length_append, List.length_singleton, List.range_succ, List.filter_append,
    List.filter_congr hbefore]
  simp [List.filter_singleton]

theorem changes_concat (slot : ActionSlot) (calls : List Call) (call : Call) :
    changes slot (calls ++ [call]) = changes slot calls ++ [call.change slot] :=
  List.map_append

variable {slot : ActionSlot}

/-- A call that opens a window for a slot fills or clears its record. -/
theorem change_of_opens {call : Call} (h : call.opens slot = true) :
    call.change slot = .clear ∨ ∃ entry, call.change slot = .load entry := by
  obtain ⟨e, operation⟩ := call
  cases operation with
  | load watchTable actionTable t => exact .inr ⟨_, if_pos h⟩
  | resetActionpoints target => exact .inl (if_pos h)
  | _ => cases h

theorem acceptsLoad_of_not_opens {call : Call} (h : call.opens slot = false) :
    call.engine.acceptsLoad call.operation = false := by
  unfold opens at h
  split at h
  · next heq => rw [heq]; rfl
  · exact h

/-- No other call does. -/
theorem change_of_not_opens {call : Call} (h : call.opens slot = false) :
    call.change slot ≠ .clear ∧ ∀ entry, call.change slot ≠ .load entry := by
  have hspec := call.engine.change_spec slot call.operation
  refine ⟨fun hclear => ?_, fun entry hload => ?_⟩
  · rw [show call.engine.change slot call.operation = .clear from hclear] at hspec
    obtain ⟨target, hoperation, hcovers⟩ := hspec
    unfold opens at h
    rw [hoperation] at h
    exact Bool.false_ne_true (h.symm.trans hcovers)
  · rw [show call.engine.change slot call.operation = .load entry from hload] at hspec
    exact Bool.false_ne_true ((acceptsLoad_of_not_opens h).symm.trans hspec)

end Call

/-! ## The same request again -/

namespace Engine

/-- A request that lets no cycle pass can be repeated: it finds the same verdicts again, and
does the same to every slot. -/
theorem change_sample_again (e : Engine) {q : Request} (hq : q.aging = false)
    (slot : ActionSlot) :
    (e.perform (.sample q)).engine.change slot (.sample q) = e.change slot (.sample q) := by
  have haccepts : e.acceptsLoad (.sample q) = false := rfl
  have hages : e.ages q = false := by rw [ages, hq, Bool.and_false]
  have hverdicts : (e.perform (.sample q)).engine.verdicts = e.verdicts := by
    funext i
    simp only [verdicts, perform, Step.reply, watchRecords_sample, hages, Bool.false_eq_true,
      if_false]
  have hsampled : ((e.perform (.sample q)).engine.actionRecords.get slot).state.isSampled =
      (e.actionRecords.get slot).state.isSampled := by
    by_cases hsame : ((e.perform (.sample q)).engine.actionRecords.get slot).state =
        (e.actionRecords.get slot).state
    · rw [hsame]
    · -- the only move of a request leads from active to passive
      have hmoves := moves_of_state_ne haccepts hsame
      generalize ((e.perform (.sample q)).engine.actionRecords.get slot).state = after at hmoves
      generalize (e.actionRecords.get slot).state = before at hmoves
      cases hmoves
      rfl
  obtain ⟨-, hactionpoints, -⟩ := perform_tables haccepts
  simp only [change, samples, ← State.isSampled_iff, hactionpoints, hverdicts, hsampled,
    e.mode_perform (.sample q)]

end Engine

/-! ## Windows -/

/-- The record of a slot accounts for the calls of a window: the counts are those of the
occasions, the outcome is that of the last sample, and the streak is the failures in a
row. -/
structure Call.Accounts (slot : ActionSlot) (window : List Call) (r : Record) : Prop where
  counts : ∀ report : Report,
    (report.count r).Counts (Call.positions (Call.isOccasion report slot) window).length
  outcome : r.outcome = (lastOutcome (Call.changes slot window)).getD .stale
  streak : r.streak.Counts (failureRun (Call.changes slot window))

namespace Engine

open Call (Accounts positions isOccasion changes)

variable {e : Engine} {slot : ActionSlot} {window : List Call} {operation : Operation}

/-- A call that opens a window leaves a fresh record in some state. -/
theorem record_of_opens (h : Call.opens slot ⟨e, operation⟩ = true) :
    ∃ state, (e.perform operation).engine.actionRecords.get slot = .starting state := by
  rw [get_perform]
  rcases Call.change_of_opens h with hclear | ⟨entry, hload⟩
  · rw [show e.change slot operation = .clear from hclear]
    exact ⟨_, rfl⟩
  · rw [show e.change slot operation = .load entry from hload]
    cases entry <;> exact ⟨_, rfl⟩

/-- A fresh record accounts for nothing. -/
theorem accounts_starting (slot : ActionSlot) (state : State) :
    Accounts slot [] (.starting state) where
  counts report := by cases report <;> exact Counter.counts_zero
  outcome := rfl
  streak := Counter.counts_zero

/-- A window opens with a record that accounts for nothing. -/
theorem accounts_of_opens (h : Call.opens slot ⟨e, operation⟩ = true) :
    Accounts slot [] ((e.perform operation).engine.actionRecords.get slot) := by
  obtain ⟨state, hrecord⟩ := record_of_opens h
  rw [hrecord]
  exact accounts_starting slot state

/-- **A sample is due for a report exactly if it is an occasion**, by a record that accounts
for the window. -/
theorem isDue_eq_isOccasion (h : Accounts slot window (e.actionRecords.get slot))
    {a : Actionpoint} {outcome : Outcome} (hchange : e.change slot operation = .sample a outcome)
    (report : Report) :
    report.isDue a (e.actionRecords.get slot) outcome =
      isOccasion report slot window ⟨e, operation⟩ := by
  have hcall : Call.change slot ⟨e, operation⟩ = .sample a outcome := hchange
  have hlast {o : Outcome} (ho : o ≠ .stale) : (e.actionRecords.get slot).outcome = o ↔
      lastOutcome (changes slot window) = some o := by
    rw [h.outcome]
    cases lastOutcome (changes slot window) with
    | none => simp [Ne.symm ho]
    | some last => simp
  cases report with
  | onset =>
    simp only [Report.isDue, isOccasion, hcall, hlast (show Outcome.pass ≠ .stale by decide)]
  | recovery =>
    simp only [Report.isDue, isOccasion, hcall, hlast (show Outcome.fail ≠ .stale by decide)]
  | passiveFailure =>
    by_cases hfail : outcome = .fail
    · subst hfail
      have hrun : failureRun (changes slot (window ++ [⟨e, operation⟩])) =
          failureRun (changes slot window) + 1 := by
        rw [Call.changes_concat, hcall, failureRun_concat]
        rfl
      have hreached : a.reached (e.actionRecords.get slot).streak.next =
          decide (a.threshold.toNat ≤ failureRun (changes slot (window ++ [⟨e, operation⟩]))) := by
        rw [Bool.eq_iff_iff, decide_eq_true_eq, hrun]
        exact a.reached_iff h.streak.next
      simp only [Report.isDue, isOccasion, hcall, hreached]
    · simp [Report.isDue, isOccasion, hcall, hfail]

/-- **One call of a window** leaves a record that accounts for the window with this
call. -/
theorem accounts_perform (h : Accounts slot window (e.actionRecords.get slot))
    (hkept : Call.opens slot ⟨e, operation⟩ = false) :
    Accounts slot (window ++ [⟨e, operation⟩])
      ((e.perform operation).engine.actionRecords.get slot) := by
  have hstreak (c : Change) : (c.apply slot e.mode (e.actionRecords.get slot)).streak.Counts
      (failureRun (changes slot window ++ [c])) :=
    counts_streak_apply c slot e.mode h.streak
  rw [get_perform]
  cases hchange : e.change slot operation with
  | sample a outcome =>
    have hcall : Call.change slot ⟨e, operation⟩ = .sample a outcome := hchange
    refine ⟨fun report => ?_, ?_, ?_⟩
    · rw [Change.apply, (a.count_note slot e.mode _ report outcome).1,
        isDue_eq_isOccasion h hchange, Call.positions_concat]
      cases isOccasion report slot window ⟨e, operation⟩ with
      | true => simpa using (h.counts report).next
      | false => simpa using h.counts report
    · rw [Change.apply, outcome_note, Call.changes_concat, hcall, lastOutcome_concat]
      rfl
    · rw [Call.changes_concat, hcall]
      exact hstreak _
  | load entry => exact absurd hchange ((Call.change_of_not_opens hkept).2 entry)
  | clear => exact absurd hchange (Call.change_of_not_opens hkept).1
  | keep | command state | switchOff =>
    -- no sample: nothing is counted
    have hquiet (report : Report) : isOccasion report slot window ⟨e, operation⟩ = false := by
      simp only [isOccasion, Call.change, hchange]
    refine ⟨fun report => ?_, ?_, ?_⟩
    · rw [Call.positions_concat, hquiet, if_neg Bool.false_ne_true, List.append_nil]
      cases report with
      | onset => exact h.counts .onset
      | recovery => exact h.counts .recovery
      | passiveFailure => exact h.counts .passiveFailure
    · rw [Call.changes_concat, Call.change, hchange, lastOutcome_concat]
      exact h.outcome
    · rw [Call.changes_concat, Call.change, hchange]
      exact hstreak _

/-- **It makes a report** exactly if it is an occasion and no more occasions than the cap
came before it, and then once. -/
theorem reports_perform (h : Accounts slot window (e.actionRecords.get slot)) {a : Actionpoint}
    (ha : e.actionpoints.get slot = some a) (report : Report) :
    (e.perform operation).trace.countP (Event.isReport report slot) =
      if isOccasion report slot window ⟨e, operation⟩ = true ∧
          (positions (isOccasion report slot) window).length < (report.cap a).toNat then 1
      else 0 := by
  rw [List.countP_eq_length_filter, filter_perform_of_concerns (p := Event.isReport report slot)
    (fun _ => Event.concerns_of_isReport) (fun _ => rfl) (fun _ => rfl) e operation]
  cases hchange : e.change slot operation with
  | sample a' outcome =>
    obtain rfl : a' = a := Option.some.inj ((e.sample_of_change hchange).2.1.symm.trans ha)
    rw [← List.countP_eq_length_filter, (a'.count_note slot e.mode _ report outcome).2,
      isDue_eq_isOccasion h hchange]
    simp only [(h.counts report).next.within_iff, Nat.add_one_le_iff]
  | _ =>
    -- no sample: nothing is said
    have hquiet : isOccasion report slot window ⟨e, operation⟩ = false := by
      simp only [isOccasion, Call.change, hchange]
    rw [hquiet]
    rfl

/-- The reports of a window so far: made at the first occasions up to the cap, and each of
them once. -/
def ReportsCapped (slot : ActionSlot) (report : Report) (cap : Nat) (window : List Call) : Prop :=
  positions (fun _ call => call.reports report slot) window =
      (positions (isOccasion report slot) window).take cap ∧
    (window.map Call.trace).flatten.countP (Event.isReport report slot) =
      min (positions (isOccasion report slot) window).length cap

/-- One more call. -/
theorem ReportsCapped.concat {report : Report} {cap : Nat} {call : Call}
    (h : ReportsCapped slot report cap window)
    (hcount : call.trace.countP (Event.isReport report slot) =
      if isOccasion report slot window call = true ∧
        (positions (isOccasion report slot) window).length < cap then 1 else 0) :
    ReportsCapped slot report cap (window ++ [call]) := by
  have hreports : call.reports report slot = true ↔ isOccasion report slot window call = true ∧
      (positions (isOccasion report slot) window).length < cap := by
    rw [Call.reports, List.any_eq_true, ← List.countP_pos_iff, hcount]
    split <;> simp_all
  obtain ⟨hpositions, hnumber⟩ := h
  refine ⟨?_, ?_⟩
  · rw [Call.positions_concat, Call.positions_concat, hpositions, List.take_append]
    congr 1
    by_cases hoccasion : isOccasion report slot window call = true
    · by_cases hroom : (positions (isOccasion report slot) window).length < cap
      · have hone : 1 ≤ cap - (positions (isOccasion report slot) window).length := by omega
        rw [if_pos (hreports.mpr ⟨hoccasion, hroom⟩), if_pos hoccasion,
          List.take_of_length_le (by simpa using hone)]
      · have hfull : cap - (positions (isOccasion report slot) window).length = 0 := by omega
        rw [if_neg fun hmade => hroom (hreports.mp hmade).2, hfull, List.take_zero]
    · rw [if_neg fun hmade => hoccasion (hreports.mp hmade).1, if_neg hoccasion, List.take_nil]
  · rw [List.map_append, List.flatten_append, List.countP_append, hnumber, List.map_singleton,
      List.flatten_singleton, hcount, Call.positions_concat, List.length_append]
    by_cases hoccasion : isOccasion report slot window call = true
    · simp only [hoccasion, true_and, if_true, List.length_singleton]
      split <;> omega
    · simp only [hoccasion, Bool.false_eq_true, false_and, if_false, List.length_nil, Nat.add_zero]

/-- **A run inside a window** keeps the account, the actionpoint, and the reports to their
caps. -/
theorem accounts_run {start : Engine} {a : Actionpoint}
    (hopen : Accounts slot [] (start.actionRecords.get slot))
    (ha : start.actionpoints.get slot = some a) (operations : List Operation)
    (hkept : ∀ call ∈ start.calls operations, call.opens slot = false) :
    (start.run operations).actionpoints.get slot = some a ∧
      Accounts slot (start.calls operations) ((start.run operations).actionRecords.get slot) ∧
      ∀ report : Report,
        ReportsCapped slot report (report.cap a).toNat (start.calls operations) := by
  induction operations using List.reverseRecOn with
  | nil => exact ⟨ha, hopen, fun report => ⟨List.take_nil.symm, (Nat.zero_min _).symm⟩⟩
  | append_singleton operations operation ih =>
    rw [calls_concat, List.forall_mem_append, List.forall_mem_singleton] at hkept
    obtain ⟨hbefore, hcall⟩ := hkept
    obtain ⟨hloaded, haccounts, hreports⟩ := ih hbefore
    have htables := perform_tables (Call.acceptsLoad_of_not_opens hcall)
    rw [run_concat, calls_concat]
    exact ⟨by rw [htables.2.1]; exact hloaded, accounts_perform haccounts hcall,
      fun report => (hreports report).concat (reports_perform haccounts hloaded report)⟩

/-- Where every sample of the one actionpoint fails, the first triggers it, and the later ones
are failures of a passive actionpoint. -/
theorem occasions_one (h : Reachable e) (hone : e.StartsOne) (hmode : e.mode = .active) :
    let q : Request := ⟨0, 0, false⟩
    let operations : List Operation :=
      [.receive ⟨⟨0x820⟩, #[9], 100⟩ .unregistered, .sample q, .sample q, .sample q]
    positions (isOccasion .passiveFailure 0) (e.calls operations) = [2, 3] := by
  intro q operations
  let a : Actionpoint :=
    ⟨.active, 1, 1, 1, 7, 1, Equation.ofCodes [0, Token.equal.code], .info, 0, .empty⟩
  let first := (e.perform (.receive ⟨⟨0x820⟩, #[9], 100⟩ .unregistered)).engine
  let second := (first.perform (.sample q)).engine
  let third := (second.perform (.sample q)).engine
  obtain ⟨hsame, hrecord, hfirst⟩ : first.mode = e.mode ∧
      first.actionRecords.get 0 = .starting .active ∧
      first.change 0 (.sample q) = .sample a .fail :=
    h.change_sample_one hone (by rw [hmode]; decide)
  have hsecond : second.change 0 (.sample q) = .sample a .fail :=
    (first.change_sample_again rfl 0).trans hfirst
  have hthird : third.change 0 (.sample q) = .sample a .fail :=
    (second.change_sample_again rfl 0).trans hsecond
  have hquiet : e.change 0 (.receive ⟨⟨0x820⟩, #[9], 100⟩ .unregistered) = .keep := rfl
  have hstate : (second.actionRecords.get 0).state = .passive := by
    rw [get_perform, hfirst, Change.apply, hrecord, hsame, hmode]
    rfl
  have hstate' : (third.actionRecords.get 0).state = .passive := by
    rw [get_perform, hsecond, Change.apply, state_note, hstate, ite_self]
  have hcalls : e.calls operations =
      [] ++ [⟨e, .receive ⟨⟨0x820⟩, #[9], 100⟩ .unregistered⟩] ++ [⟨first, .sample q⟩] ++
        [⟨second, .sample q⟩] ++ [⟨third, .sample q⟩] := rfl
  rw [hcalls]
  simp only [Call.positions_concat, isOccasion, changes, Call.change, List.map_append,
    List.map_cons, List.map_nil, hquiet, hfirst, hsecond, hthird, hrecord, hstate, hstate']
  rfl

/-- **Reports are capped for the lifetime of the statistics.** Take any run, an operation
after it that opens a window for a slot, by an accepted load or by a reset of its
statistics, so that the slot then holds an actionpoint, and any run in that window. Each
of the three reports of the actionpoint is made at the first of its occasions in the
window, as many as the cap allows, and at no other call; and it is made as often as there
are occasions or as the cap allows, whichever is less. This is so for windows of any
length and for every cap. -/
theorem reports_are_capped (before : List Operation) (opening : Operation)
    (operations : List Operation) (slot : ActionSlot) (a : Actionpoint) (report : Report)
    (opened : Call.opens slot ⟨initial.run before, opening⟩ = true)
    (loaded : ((initial.run before).perform opening).engine.actionpoints.get slot = some a)
    (kept : ∀ call ∈ ((initial.run before).perform opening).engine.calls operations,
      call.opens slot = false) :
    let start := ((initial.run before).perform opening).engine
    let window := start.calls operations
    let occasions := positions (isOccasion report slot) window
    positions (fun _ call => call.reports report slot) window =
        occasions.take (report.cap a).toNat ∧
      (start.traces operations).flatten.countP (Event.isReport report slot) =
        min occasions.length (report.cap a).toNat := by
  intro start window occasions
  have hreports := (accounts_run (accounts_of_opens opened) loaded operations kept).2.2 report
  rw [traces_eq_map_calls]
  exact hreports

/-- An actionpoint that fails with every sample, and reports one failure while it is passive.
The first sample triggers it, so the second and the third are occasions, and only the second
is reported. -/
theorem reports_are_capped_one :
    let a : Actionpoint :=
      ⟨.active, 1, 1, 1, 7, 1, Equation.ofCodes [0, Token.equal.code], .info, 0, .empty⟩
    let q : Request := ⟨0, 0, false⟩
    let opening : Operation := .load oneWatchpoint oneActionpoint .willing
    let operations : List Operation :=
      [.receive ⟨⟨0x820⟩, #[9], 100⟩ .unregistered, .sample q, .sample q, .sample q]
    let start := ((initial.run []).perform opening).engine
    let window := start.calls operations
    Call.opens 0 ⟨initial.run [], opening⟩ = true ∧ start.actionpoints.get 0 = some a ∧
    (∀ call ∈ window, call.opens 0 = false) ∧
    positions (isOccasion .passiveFailure 0) window = [2, 3] ∧
    positions (fun _ call => call.reports .passiveFailure 0) window = [2] := by
  intro a q opening operations start window
  have opened : Call.opens 0 ⟨initial.run [], opening⟩ = true := isOk_load_one initial .willing
  have hone : start.StartsOne := (initial.run []).startsOne_perform .willing
  have kept : ∀ call ∈ window, call.opens 0 = false := by
    simp only [window, operations, calls, List.forall_mem_cons, Call.opens, acceptsLoad, true_and]
    exact fun _ hcall => absurd hcall List.not_mem_nil
  have hoccasions : positions (isOccasion .passiveFailure 0) window = [2, 3] := by
    have reachable : Reachable start := Reachable.perform ⟨[], rfl⟩ opening
    exact occasions_one reachable hone ((initial.run []).mode_perform opening)
  have hreports := (reports_are_capped [] opening operations 0 a .passiveFailure opened
    hone.actionpoint kept).1
  refine ⟨opened, hone.actionpoint, kept, hoccasions, hreports.trans ?_⟩
  exact congrArg (List.take 1) hoccasions

end Engine

end LimitMonitor
