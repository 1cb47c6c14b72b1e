import LimitMonitor.Proofs.Engine.Counters
import LimitMonitor.Proofs.Engine.Reload
import LimitMonitor.Proofs.Engine.Validity

/-!
# How long a verdict lasts

A message gives a watchpoint a verdict and as many cycles as its definition allows. What a
run does to the record from then on is a matter of one number, the cycles that pass
(`Call.ages`), as long as no call renews the record (`Call.renews`): one cycle is one step
of the closed form `Record.aged` (`age_aged`), and all other calls leave the record alone
(`Reachable.get_run_of_not_renews`).

Main statement: `goes_stale_at_horizon`.
-/

namespace LimitMonitor

/-! ## The countdown -/

namespace Watchpoint

namespace Record

/-- The record after so many cycles, if nothing else happens to it. -/
def aged (r : Record) (cycles : Nat) : Record :=
  { r with
    verdict := if r.countdown = 0 ∨ cycles < r.countdown.toNat then r.verdict else .stale
    countdown := UInt32.ofNat (r.countdown.toNat - cycles) }

theorem toNat_countdown_aged (r : Record) (cycles : Nat) :
    (r.aged cycles).countdown.toNat = r.countdown.toNat - cycles :=
  UInt32.toNat_ofNat_of_lt' (Nat.lt_of_le_of_lt (Nat.sub_le _ _) r.countdown.toNat_lt)

theorem aged_zero (r : Record) : r.aged 0 = r := by
  have hverdict : r.countdown = 0 ∨ 0 < r.countdown.toNat := by
    rcases Nat.eq_zero_or_pos r.countdown.toNat with hzero | hpos
    · exact .inl (UInt32.toNat_inj.mp hzero)
    · exact .inr hpos
  simp [aged, hverdict]

/-- A countdown that has run out stays at zero, and the verdict with it. -/
theorem aged_succ_of_le {r : Record} {cycles : Nat} (h : r.countdown.toNat ≤ cycles) :
    r.aged (cycles + 1) = r.aged cycles := by
  have hover : ¬ cycles < r.countdown.toNat := by omega
  have hover' : ¬ cycles + 1 < r.countdown.toNat := by omega
  have hzero : r.countdown.toNat - cycles = 0 := by omega
  have hzero' : r.countdown.toNat - (cycles + 1) = 0 := by omega
  simp only [aged, hover, hover', hzero, hzero']

/-- A record without a countdown does not age. -/
theorem aged_of_countdown_eq_zero {r : Record} (h : r.countdown = 0) (cycles : Nat) :
    r.aged cycles = r := by
  induction cycles with
  | zero => exact r.aged_zero
  | succ cycles ih =>
    have hle : r.countdown.toNat ≤ cycles := by
      rw [h]
      exact Nat.zero_le cycles
    rw [aged_succ_of_le hle, ih]

/-- **One more cycle.** -/
theorem age_aged (r : Record) (cycles : Nat) : (r.aged cycles).age = r.aged (cycles + 1) := by
  have hcountdown := r.toNat_countdown_aged cycles
  rcases Nat.lt_trichotomy r.countdown.toNat (cycles + 1) with hover | hlast | hrunning
  · -- the countdown has run out before
    have hzero : (r.aged cycles).countdown = 0 := by
      rw [← UInt32.toNat_inj, hcountdown]
      exact Nat.sub_eq_zero_of_le (Nat.le_of_lt_succ hover)
    rw [age, if_pos hzero, aged_succ_of_le (Nat.le_of_lt_succ hover)]
  · -- this is the cycle in which it runs out
    have hone : (r.aged cycles).countdown = 1 := by
      rw [← UInt32.toNat_inj, hcountdown, hlast]
      exact Nat.add_sub_cancel_left cycles 1
    have hpositive : r.countdown ≠ 0 := fun h => by
      rw [h] at hlast
      exact absurd hlast (Nat.succ_ne_zero cycles).symm
    have hnonzero : (r.aged cycles).countdown ≠ 0 := by
      rw [hone]
      decide
    rw [age, if_neg hnonzero, if_pos hone]
    simp [aged, hpositive, hlast]
  · -- it goes on
    have hpositive : (r.aged cycles).countdown ≠ 0 := fun h => by
      rw [h] at hcountdown
      have hzero : (0 : UInt32).toNat = 0 := rfl
      omega
    have hmore : (r.aged cycles).countdown ≠ 1 := fun h => by
      rw [h] at hcountdown
      have hone : (1 : UInt32).toNat = 1 := rfl
      omega
    have hless : cycles < r.countdown.toNat := by omega
    have hnext : (r.aged cycles).countdown - 1 = (r.aged (cycles + 1)).countdown := by
      have hle : (1 : UInt32) ≤ (r.aged cycles).countdown := by
        rw [UInt32.le_iff_toNat_le, hcountdown]
        have hone : (1 : UInt32).toNat = 1 := rfl
        omega
      rw [← UInt32.toNat_inj, UInt32.toNat_sub_of_le _ _ hle, hcountdown, toNat_countdown_aged]
      rfl
    rw [age, if_neg hpositive, if_neg hmore, hnext]
    simp only [aged, hless, hrunning, or_true, if_true]

/-- **An evaluation renews the countdown**, and an error has none. -/
theorem countdown_fold (r : Record) (result : Except Field.Fault Reading) (timestamp : Timestamp)
    (staleAfter : UInt32) :
    (r.fold result timestamp staleAfter).countdown =
      if (r.fold result timestamp staleAfter).verdict = .error then 0 else staleAfter := by
  cases result with
  | ok reading =>
    obtain ⟨verdict, raw⟩ := reading
    cases verdict <;> rfl
  | error fault => cases fault <;> rfl

end Record

end Watchpoint

/-! ## Calls and cycles -/

namespace Call

/-- One cycle passes with a call: for its own sake, for housekeeping, or after a sample
request that asks for it and is carried out. -/
def ages (call : Call) : Bool :=
  match call.operation with
  | .age | .housekeep => true
  | .sample q => call.engine.ages q
  | _ => false

/-- The call renews the record of the watchpoint in a slot, which reads the messages with
an identifier: it is such a message, a reset of the slot, or a load that is accepted. -/
def renews (slot : WatchSlot) (id : MessageId) (call : Call) : Bool :=
  match call.operation with
  | .receive m _ => m.id = id
  | .resetWatchpoints target => WatchSlot.covers target slot
  | operation => call.engine.acceptsLoad operation

theorem acceptsLoad_of_not_renews {slot : WatchSlot} {id : MessageId} {call : Call}
    (h : call.renews slot id = false) : call.engine.acceptsLoad call.operation = false := by
  unfold renews at h
  split at h
  · next heq => rw [heq]; rfl
  · next heq => rw [heq]; rfl
  · exact h

end Call

namespace Engine

open Watchpoint

variable {e : Engine} {slot : WatchSlot} {w : Watchpoint}

/-- A call that does not renew the record of a slot is a cycle for it, or nothing. -/
theorem watchChange_of_not_renews {operation : Operation}
    (hw : e.watchpoints.get slot = some w)
    (h : Call.renews slot w.messageId ⟨e, operation⟩ = false) :
    e.watchChange slot operation = if Call.ages ⟨e, operation⟩ then .age else .keep := by
  cases operation with
  | load watchTable actionTable t =>
    have haccepts : e.acceptsLoad (.load watchTable actionTable t) = false := h
    simp only [watchChange, haccepts, Bool.false_eq_true, if_false]
    rfl
  | receive m p =>
    have hreads : w.messageId ≠ m.id := fun heq => of_decide_eq_false h heq.symm
    simp only [watchChange, hw, hreads, if_false]
    rfl
  | resetWatchpoints target =>
    have hcovers : WatchSlot.covers target slot = false := h
    simp only [watchChange, hcovers, Bool.false_eq_true, if_false]
    rfl
  | sample q => rfl
  | _ => rfl

/-- **A run that does not renew the record of a slot ages it** by its cycles, and does
nothing else to it. -/
theorem Reachable.get_run_of_not_renews (h : Reachable e) (hw : e.watchpoints.get slot = some w)
    (operations : List Operation)
    (hkept : ∀ call ∈ e.calls operations, call.renews slot w.messageId = false) :
    (e.run operations).watchpoints.get slot = some w ∧
      (e.run operations).watchRecords.get slot =
        (e.watchRecords.get slot).aged ((e.calls operations).countP Call.ages) := by
  induction operations using List.reverseRecOn with
  | nil => exact ⟨hw, (Record.aged_zero _).symm⟩
  | append_singleton operations operation ih =>
    rw [calls_concat, List.forall_mem_append, List.forall_mem_singleton] at hkept
    obtain ⟨hbefore, hcall⟩ := hkept
    obtain ⟨hloaded, hrecord⟩ := ih hbefore
    have htables := perform_tables (Call.acceptsLoad_of_not_renews hcall)
    rw [run_concat, calls_concat, List.countP_append, List.countP_singleton]
    refine ⟨by rw [htables.1]; exact hloaded, ?_⟩
    rw [(h.run operations).get_watchRecords_perform operation slot,
      watchChange_of_not_renews hloaded hcall, hrecord]
    cases Call.ages ⟨e.run operations, operation⟩ with
    | true => exact Record.age_aged _ _
    | false => rfl

/-! ## Messages -/

/-- A reading is noted with its verdict. -/
theorem Reachable.verdicts_receive (h : Reachable e) (hw : e.watchpoints.get slot = some w)
    {m : Message} (hreads : w.messageId = m.id) (p : Predicate) {reading : Reading}
    (hresult : (w.evaluate slot m p (e.askedBefore m slot)).result = .ok reading) :
    (e.perform (.receive m p)).engine.verdicts slot = reading.verdict := by
  rw [verdicts, h.get_watchRecords_receive hw hreads, hresult]
  exact Record.verdict_note _ _ _ _ _

/-- So a byte above its reference gives the watchpoint of the table with one entry the
verdict `yes`. -/
theorem Reachable.verdicts_receive_one (h : Reachable e) (hone : e.StartsOne) :
    (e.perform (.receive ⟨⟨0x820⟩, #[9], 100⟩ .unregistered)).engine.verdicts 0 = .yes := by
  let w : Watchpoint := ⟨.uint8, .gt, ⟨0x820⟩, 0, 0xFFFFFFFF, .uint8 5, 2, 0⟩
  have hfield : w.field ⟨⟨0x820⟩, #[9], 100⟩ = .ok 9 := by decide
  have hjudge : w.judge (9 &&& w.mask) = .ok .yes := by decide
  have hresult (asked : List Consultation) :
      (w.evaluate 0 ⟨⟨0x820⟩, #[9], 100⟩ .unregistered asked).result = .ok ⟨.yes, 9⟩ := by
    rw [result_of_field (by decide) hfield, hjudge]
    rfl
  exact h.verdicts_receive hone.watchpoint rfl .unregistered (hresult _)

/-- A request that the engine then carries out finds a failure of the one actionpoint. -/
theorem Reachable.change_sample_one (h : Reachable e) (hone : e.StartsOne)
    (hmode : e.mode ≠ .disabled) :
    let received := (e.perform (.receive ⟨⟨0x820⟩, #[9], 100⟩ .unregistered)).engine
    received.mode = e.mode ∧ received.actionRecords.get 0 = .starting .active ∧
      received.change 0 (.sample ⟨0, 0, false⟩) =
        .sample ⟨.active, 1, 1, 1, 7, 1, Equation.ofCodes [0, Token.equal.code], .info, 0, .empty⟩
          .fail := by
  intro received
  have hyes : received.verdicts 0 = .yes := h.verdicts_receive_one hone
  have hsame : received.mode = e.mode := e.mode_perform _
  have hrecord : received.actionRecords.get 0 = .starting .active :=
    (e.get_perform _ 0).trans hone.record
  have hactionpoint : received.actionpoints.get 0 = some ⟨.active, 1, 1, 1, 7, 1,
      Equation.ofCodes [0, Token.equal.code], .info, 0, .empty⟩ := by
    rw [(perform_tables rfl).2.1]
    exact hone.actionpoint
  have hsamples : received.samples ⟨0, 0, false⟩ 0 = true := by
    rw [samples, hsame]
    simp only [hmode, ne_eq, not_false_iff, decide_true, Bool.true_and]
    decide
  have hsampled : (received.actionRecords.get 0).state.isSampled = true := by
    rw [hrecord]
    rfl
  have houtcome : Actionpoint.outcome ⟨.active, 1, 1, 1, 7, 1,
      Equation.ofCodes [0, Token.equal.code], .info, 0, .empty⟩ received.verdicts = .fail := by
    have hevaluate : Equation.evaluate received.verdicts
        (Equation.ofCodes [0, Token.equal.code]).toList =
          .ok (Outcome.ofVerdict (received.verdicts 0)) := rfl
    rw [Actionpoint.outcome, hevaluate, hyes]
    rfl
  refine ⟨hsame, hrecord, ?_⟩
  rw [change_sample_of_samples hactionpoint hsamples hsampled, houtcome]

/-- A message that a watchpoint reads leaves its record with the whole countdown, or with
none if the verdict is an error. -/
theorem Reachable.countdown_receive (h : Reachable e) (hw : e.watchpoints.get slot = some w)
    {m : Message} (hreads : w.messageId = m.id) (p : Predicate) :
    ((e.perform (.receive m p)).engine.watchRecords.get slot).countdown =
      if (e.perform (.receive m p)).engine.verdicts slot = .error then 0 else w.staleAfter := by
  rw [verdicts, h.get_watchRecords_receive hw hreads]
  exact Record.countdown_fold _ _ _ _

/-- **A verdict goes stale at its horizon.** Take any run, a slot with a watchpoint, a
message that the watchpoint reads, and any run after it in which the record of the slot is
not renewed: no such message, no reset of the slot and no accepted load. Let `cycles` be
the cycles that pass in it. If the message left a verdict other than an error, the verdict
is there for good where the definition sets no horizon, and otherwise for as long as fewer
cycles have passed than it allows; from then on it is `stale`. The countdown is what is
left of the horizon, and nothing else in the record changes. If the message left an error,
the record stays as it is, without a countdown. -/
theorem goes_stale_at_horizon (before after : List Operation) (m : Message) (p : Predicate)
    (slot : WatchSlot) (w : Watchpoint)
    (loaded : (initial.run before).watchpoints.get slot = some w) (reads : w.messageId = m.id)
    (kept : ∀ call ∈ ((initial.run before).perform (.receive m p)).engine.calls after,
      call.renews slot m.id = false) :
    let received := ((initial.run before).perform (.receive m p)).engine
    let noted := received.watchRecords.get slot
    let final := (received.run after).watchRecords.get slot
    let cycles := (received.calls after).countP Call.ages
    (noted.verdict ≠ .error →
      final = { noted with
        verdict := if w.staleAfter = 0 ∨ cycles < w.staleAfter.toNat then noted.verdict else .stale
        countdown := UInt32.ofNat (w.staleAfter.toNat - cycles) }) ∧
    (noted.verdict = .error → final = noted ∧ final.verdict = .error ∧ final.countdown = 0) := by
  intro received noted final cycles
  have reachable : Reachable (initial.run before) := ⟨before, rfl⟩
  have hloaded : received.watchpoints.get slot = some w := by
    have haccepts : (initial.run before).acceptsLoad (.receive m p) = false := rfl
    have htables := perform_tables haccepts
    rw [htables.1]
    exact loaded
  have hcountdown : noted.countdown = if noted.verdict = .error then 0 else w.staleAfter :=
    reachable.countdown_receive loaded reads p
  have hfinal : final = noted.aged cycles :=
    ((reachable.perform _).get_run_of_not_renews hloaded after (reads ▸ kept)).2
  refine ⟨fun hverdict => ?_, fun hverdict => ?_⟩
  · rw [if_neg hverdict] at hcountdown
    rw [hfinal, Record.aged, hcountdown]
  · rw [if_pos hverdict] at hcountdown
    have hsame : final = noted := hfinal.trans (Record.aged_of_countdown_eq_zero hcountdown cycles)
    rw [hsame]
    exact ⟨rfl, hverdict, hcountdown⟩

/-- A verdict `yes` with two cycles to live. Of six operations that could let a cycle pass
or renew it, two do the first and none the second: a request meets the disabled engine, one
has an empty range, a reset names another slot, and a message has no reader. -/
theorem goes_stale_at_horizon_one :
    let w : Watchpoint := ⟨.uint8, .gt, ⟨0x820⟩, 0, 0xFFFFFFFF, .uint8 5, 2, 0⟩
    let before : List Operation := [.load oneWatchpoint oneActionpoint .willing]
    let m : Message := ⟨⟨0x820⟩, #[9], 100⟩
    let after : List Operation :=
      [.age, .setMode .disabled, .sample ⟨0, 0, true⟩, .setMode .passive, .sample ⟨5, 3, true⟩,
        .resetWatchpoints 1, .receive ⟨⟨0x821⟩, #[9], 200⟩ .unregistered, .housekeep]
    let received := ((initial.run before).perform (.receive m .unregistered)).engine
    (initial.run before).watchpoints.get 0 = some w ∧ w.messageId = m.id ∧
    (∀ call ∈ received.calls after, call.renews 0 m.id = false) ∧
    (received.calls after).countP Call.ages = 2 ∧
    received.verdicts 0 = .yes ∧ (received.run after).verdicts 0 = .stale := by
  intro w before m after received
  have hone : (initial.run before).StartsOne := by
    rw [run_load_of_isOk (isOk_load_one initial .willing)]
    exact initial.startsOne_installed
  have loaded : (initial.run before).watchpoints.get 0 = some w := hone.watchpoint
  have reads : w.messageId = m.id := rfl
  have kept : ∀ call ∈ received.calls after, call.renews 0 m.id = false := by
    simp only [after, calls, List.forall_mem_cons]
    exact ⟨rfl, rfl, rfl, rfl, rfl, rfl, rfl, rfl, fun _ hcall => absurd hcall List.not_mem_nil⟩
  have hcycles : (received.calls after).countP Call.ages = 2 := rfl
  have hnoted : received.verdicts 0 = .yes := Reachable.verdicts_receive_one ⟨before, rfl⟩ hone
  have hstale := (goes_stale_at_horizon before after m .unregistered 0 w loaded rfl kept).1
    (fun herror => by rw [verdicts] at hnoted; rw [hnoted] at herror; cases herror)
  refine ⟨loaded, rfl, kept, hcycles, hnoted, ?_⟩
  rw [verdicts, hstale, hcycles]
  rfl

end Engine

end LimitMonitor
