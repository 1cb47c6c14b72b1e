import LimitMonitor.Proofs.Watchpoint.Staleness

/-!
# What the statistics of a watchpoint tell

The record of a watchpoint is updated in four ways: a verdict is noted, the slot cannot be
judged, a cycle passes, or the record is cleared (`Update`). Its statistics are numbers and
items of the history since it was last cleared. Some of them depend on the verdict that
stood when another was noted, and cycles can change that verdict without a trace in the
statistics, so it is defined from the history too (`standing`).

An onset sets the verdicts `yes` in a row to one, and does not add one to them. That is the
same only because none were in the row while the verdict was `no`
(`yesRun_eq_zero_of_no`).

Main statement: `statistics_tell_history`. For the runs of an engine, see
`Engine.get_watchRecords_run`.
-/

namespace LimitMonitor

namespace Watchpoint

/-! ## Updates -/

/-- What can happen to the record of a watchpoint. -/
inductive Update where
  /-- A verdict on a field is noted, with the horizon of the watchpoint. -/
  | note (verdict : Verdict) (raw : UInt32) (timestamp : Timestamp) (staleAfter : UInt32)
  /-- The slot could not be judged. -/
  | fault
  /-- One cycle passes. -/
  | age
  /-- The record is cleared. -/
  | clear

namespace Update

/-- The record after an update. -/
def apply (r : Record) : Update → Record
  | note verdict raw timestamp staleAfter => r.note verdict raw timestamp staleAfter
  | fault => r.fault
  | age => r.age
  | clear => .initial

/-- A verdict is noted. -/
def isNote : Update → Bool
  | note _ _ _ _ => true
  | _ => false

/-- This verdict is noted. -/
def notes (v : Verdict) : Update → Bool
  | note verdict _ _ _ => verdict = v
  | _ => false

/-- A cycle passes. -/
def isAge : Update → Bool
  | age => true
  | _ => false

/-- The record is cleared. -/
def isClear : Update → Bool
  | clear => true
  | _ => false

end Update

/-- The record after some updates of a fresh one. -/
def Record.after (updates : List Update) : Record := updates.foldl Update.apply .initial

/-- The updates since the record was last cleared. -/
def sinceClear (updates : List Update) : List Update := updates.rtakeWhile fun u => !u.isClear

theorem Record.after_concat (updates : List Update) (u : Update) :
    Record.after (updates ++ [u]) = u.apply (Record.after updates) := by
  rw [after, List.foldl_append]
  rfl

theorem sinceClear_concat (updates : List Update) (u : Update) :
    sinceClear (updates ++ [u]) = if u.isClear then [] else sinceClear updates ++ [u] := by
  rw [sinceClear, List.rtakeWhile_concat]
  cases u.isClear <;> rfl

/-- **A cleared record does not remember** what was before. -/
theorem Record.after_sinceClear (updates : List Update) :
    Record.after (sinceClear updates) = Record.after updates := by
  induction updates using List.reverseRecOn with
  | nil => rfl
  | append_singleton updates u ih =>
    rw [sinceClear_concat, after_concat]
    cases u with
    | clear => rfl
    | note _ _ _ _ | fault | age =>
      rw [← ih]
      exact after_concat _ _

theorem not_isClear_of_mem_sinceClear {updates : List Update} {u : Update}
    (h : u ∈ sinceClear updates) : u.isClear = false := by
  have hall := List.mem_rtakeWhile_imp h
  simpa using hall

/-! ## The verdict that stands -/

/-- **The verdict that stands after a history**: that of the last update which is no cycle,
unless as many cycles have passed since as its horizon allows. -/
def standing (history : List Update) : Verdict :=
  let cycles := (history.rtakeWhile Update.isAge).length
  match (history.rdropWhile Update.isAge).getLast? with
  | some (.note verdict _ _ staleAfter) =>
    if verdict = .error ∨ staleAfter = 0 ∨ cycles < staleAfter.toNat then verdict else .stale
  | some .fault => .error
  | _ => .stale

/-- The cycles at the end of a history age the record that they find. -/
theorem Record.after_eq_aged (history : List Update) :
    Record.after history = (Record.after (history.rdropWhile Update.isAge)).aged
      (history.rtakeWhile Update.isAge).length := by
  induction history using List.reverseRecOn with
  | nil => exact (aged_zero _).symm
  | append_singleton history u ih =>
    cases u with
    | age =>
      rw [List.rdropWhile_concat_pos _ _ _ rfl, List.rtakeWhile_concat_pos _ _ _ rfl,
        List.length_append, List.length_singleton, ← age_aged, ← ih, after_concat]
      rfl
    | note _ _ _ _ | fault | clear =>
      rw [List.rdropWhile_concat_neg _ _ _ Bool.false_ne_true,
        List.rtakeWhile_concat_neg _ _ _ Bool.false_ne_true]
      exact (aged_zero _).symm

/-- **The verdict in the record is the one that stands.** -/
theorem Record.verdict_after (history : List Update) :
    (Record.after history).verdict = standing history := by
  have hlast := history.rdropWhile_last_not Update.isAge
  rw [after_eq_aged, standing, aged]
  rcases List.eq_nil_or_concat (history.rdropWhile Update.isAge) with hnil | ⟨before, u, hconcat⟩
  · rw [hnil]
    rfl
  · rw [List.concat_eq_append] at hconcat
    simp only [hconcat, List.getLast?_append, List.getLast?_singleton, Option.some_or, after_concat]
    cases u with
    | note verdict raw timestamp staleAfter =>
      have hcountdown : ((Record.after before).note verdict raw timestamp staleAfter).countdown =
          if verdict = .error then 0 else staleAfter := by
        cases verdict <;> rfl
      simp only [Update.apply, verdict_note, hcountdown]
      by_cases herror : verdict = .error
      · simp [herror]
      · simp only [herror, if_false, false_or]
    | fault => rfl
    | age =>
      have hnotAge := hlast (by simp [hconcat])
      simp [hconcat, Update.isAge] at hnotAge
    | clear => rfl

/-- A cycle leaves the verdict as it is, or makes it stale. -/
theorem Record.verdict_age (r : Record) : r.age.verdict = r.verdict ∨ r.age.verdict = .stale := by
  unfold age
  split
  · exact .inl rfl
  · split
    · exact .inr rfl
    · exact .inl rfl

/-! ## Turns -/

/-- The field and the time of an update that notes one verdict while another stands. -/
def turn? (before after : Verdict) (history : List Update) : Update → Option Transition
  | .note verdict raw timestamp _ =>
    if standing history = before ∧ verdict = after then some ⟨raw, timestamp⟩ else none
  | _ => none

/-- **The turns of a history** from one verdict to another, each with its field and
time. -/
def turns (before after : Verdict) (history : List Update) : List Transition :=
  (List.range history.length).filterMap fun i =>
    history[i]?.bind (turn? before after (history.take i))

theorem turns_concat (before after : Verdict) (history : List Update) (u : Update) :
    turns before after (history ++ [u]) =
      turns before after history ++ (turn? before after history u).toList := by
  have hbefore : ∀ i ∈ List.range history.length,
      ((history ++ [u])[i]?.bind (turn? before after ((history ++ [u]).take i))) =
        history[i]?.bind (turn? before after (history.take i)) := by
    intro i hi
    have hlt : i < history.length := List.mem_range.mp hi
    rw [List.getElem?_append_left hlt, List.take_append_of_le_length (Nat.le_of_lt hlt)]
  unfold turns
  rw [List.length_append, List.length_singleton, List.range_succ, List.filterMap_append,
    List.filterMap_congr hbefore]
  cases hturn : turn? before after history u <;> simp [hturn]

/-- The verdicts `yes` since the last `no`. -/
def yesRun (history : List Update) : Nat :=
  (history.rtakeWhile fun u => !u.notes .no).countP (Update.notes .yes)

theorem yesRun_concat (history : List Update) (u : Update) :
    yesRun (history ++ [u]) =
      if u.notes .no then 0 else yesRun history + if u.notes .yes then 1 else 0 := by
  unfold yesRun
  cases hno : u.notes .no with
  | true => simp [hno]
  | false => simp [hno, List.countP_cons]

/-- **While the verdict is `no`, none are in the row.** -/
theorem yesRun_eq_zero_of_no {history : List Update}
    (h : (Record.after history).verdict = .no) : yesRun history = 0 := by
  induction history using List.reverseRecOn with
  | nil => rfl
  | append_singleton history u ih =>
    rw [Record.after_concat] at h
    rw [yesRun_concat]
    cases u with
    | note verdict raw timestamp staleAfter =>
      have hverdict : verdict = .no := (Record.verdict_note _ _ _ _ _).symm.trans h
      simp [Update.notes, hverdict]
    | age =>
      rcases (Record.after history).verdict_age with hsame | hstale
      · exact ih (hsame.symm.trans h)
      · exact absurd (hstale.symm.trans h) (by decide)
    | fault | clear => cases h

/-! ## Statistics -/

/-- The statistics of a record tell a history. -/
structure Record.Tells (history : List Update) (r : Record) : Prop where
  evaluations : r.evaluations.Counts (history.countP Update.isNote)
  positives : r.positives.Counts (history.countP (Update.notes .yes))
  streak : r.streak.Counts (yesRun history)
  onsets : r.onsets.Counts (turns .no .yes history).length
  lastOnset : r.lastOnset = (turns .no .yes history).getLast?.getD .none
  lastRelease : r.lastRelease = (turns .yes .no history).getLast?.getD .none

/-- What a noted verdict does to each of them. -/
theorem Record.statistics_note (r : Record) (verdict : Verdict) (raw : UInt32)
    (timestamp : Timestamp) (staleAfter : UInt32) :
    let r' := r.note verdict raw timestamp staleAfter
    r'.evaluations = r.evaluations.next ∧
      r'.positives = (if verdict = .yes then r.positives.next else r.positives) ∧
      r'.onsets = (if r.verdict = .no ∧ verdict = .yes then r.onsets.next else r.onsets) ∧
      r'.lastOnset =
        (if r.verdict = .no ∧ verdict = .yes then ⟨raw, timestamp⟩ else r.lastOnset) ∧
      r'.lastRelease =
        if r.verdict = .yes ∧ verdict = .no then ⟨raw, timestamp⟩ else r.lastRelease := by
  cases verdict with
  | yes => by_cases hno : r.verdict = .no <;> simp [note, hno]
  | no => by_cases hyes : r.verdict = .yes <;> simp [note, hyes]
  | stale => simp [note]
  | error => simp [note, fault]

/-- Verdicts `yes` follow each other in the row, and an onset starts it. -/
theorem Record.streak_note (r : Record) (verdict : Verdict) (raw : UInt32)
    (timestamp : Timestamp) (staleAfter : UInt32) :
    (r.note verdict raw timestamp staleAfter).streak =
      match verdict with
      | .yes => if r.verdict = .no then .one else r.streak.next
      | .no => .zero
      | .stale | .error => r.streak := by
  cases verdict with
  | yes => by_cases hno : r.verdict = .no <;> simp [note, hno]
  | no => rfl
  | stale => rfl
  | error => rfl

/-- **A noted verdict takes its place in the statistics.** -/
theorem Record.Tells.note {history : List Update} (h : (Record.after history).Tells history)
    (verdict : Verdict) (raw : UInt32) (timestamp : Timestamp) (staleAfter : UInt32) :
    ((Record.after history).note verdict raw timestamp staleAfter).Tells
      (history ++ [.note verdict raw timestamp staleAfter]) := by
  obtain ⟨hevaluations, hpositives, honsets, hlastOnset, hlastRelease⟩ :=
    (Record.after history).statistics_note verdict raw timestamp staleAfter
  have hstreak := (Record.after history).streak_note verdict raw timestamp staleAfter
  rw [Record.verdict_after] at honsets hlastOnset hlastRelease
  refine ⟨?_, ?_, ?_, ?_, ?_, ?_⟩
  · rw [hevaluations, List.countP_append]
    exact h.evaluations.next
  · rw [hpositives, List.countP_append, List.countP_singleton]
    by_cases hyes : verdict = .yes
    · simpa only [hyes, Update.notes, decide_true, if_true] using h.positives.next
    · simpa only [hyes, Update.notes, decide_false, Bool.false_eq_true, if_false, Nat.add_zero]
        using h.positives
  · rw [hstreak, yesRun_concat]
    cases verdict with
    | yes =>
      by_cases hno : (Record.after history).verdict = .no
      · -- the row is empty, so that one is the same as one more
        have hzero := yesRun_eq_zero_of_no hno
        simp only [hno, if_true, hzero]
        exact Counter.counts_zero.next
      · simp only [hno, if_false]
        exact h.streak.next
    | no => exact Counter.counts_zero
    | stale | error => exact h.streak
  · rw [honsets, turns_concat, turn?, List.length_append]
    split
    · exact h.onsets.next
    · exact h.onsets
  · rw [hlastOnset, turns_concat, turn?]
    split
    · simp
    · simpa using h.lastOnset
  · rw [hlastRelease, turns_concat, turn?]
    split
    · simp
    · simpa using h.lastRelease

/-- The statistics of a history do not show an update that notes nothing. -/
theorem Record.Tells.concat {history : List Update} {r : Record} (h : r.Tells history)
    {u : Update} (hu : u.isNote = false) : r.Tells (history ++ [u]) := by
  have hnotes (v : Verdict) : u.notes v = false := by
    cases u with
    | note => cases hu
    | _ => rfl
  have hturns (before after : Verdict) :
      turns before after (history ++ [u]) = turns before after history := by
    have hturn : turn? before after history u = none := by
      cases u with
      | note => cases hu
      | _ => rfl
    rw [turns_concat, hturn, Option.toList_none, List.append_nil]
  refine ⟨?_, ?_, ?_, ?_, ?_, ?_⟩
  · simpa [List.countP_append, hu] using h.evaluations
  · simpa [List.countP_append, hnotes] using h.positives
  · simpa [yesRun_concat, hnotes] using h.streak
  · rw [hturns]
    exact h.onsets
  · rw [hturns]
    exact h.lastOnset
  · rw [hturns]
    exact h.lastRelease

theorem Record.Tells.fault {history : List Update} {r : Record} (h : r.Tells history) :
    r.fault.Tells history :=
  ⟨h.evaluations, h.positives, h.streak, h.onsets, h.lastOnset, h.lastRelease⟩

theorem Record.Tells.age {history : List Update} {r : Record} (h : r.Tells history) :
    r.age.Tells history := by
  unfold Record.age
  split
  · exact h
  · split
    · exact ⟨h.evaluations, h.positives, h.streak, h.onsets, h.lastOnset, h.lastRelease⟩
    · exact ⟨h.evaluations, h.positives, h.streak, h.onsets, h.lastOnset, h.lastRelease⟩

/-- **The statistics tell the history**, from a fresh record on. -/
theorem Record.tells_after {history : List Update} (hkept : ∀ u ∈ history, u.isClear = false) :
    (Record.after history).Tells history := by
  induction history using List.reverseRecOn with
  | nil =>
    exact ⟨Counter.counts_zero, Counter.counts_zero, Counter.counts_zero, Counter.counts_zero,
      rfl, rfl⟩
  | append_singleton history u ih =>
    rw [List.forall_mem_append, List.forall_mem_singleton] at hkept
    obtain ⟨hbefore, hlast⟩ := hkept
    have htells := ih hbefore
    rw [after_concat]
    cases u with
    | note verdict raw timestamp staleAfter => exact htells.note verdict raw timestamp staleAfter
    | fault => exact (htells.concat rfl).fault
    | age => exact (htells.concat rfl).age
    | clear => cases hlast

/-- **The statistics of a watchpoint tell its history.** Take any updates of a fresh record,
and let `history` be those since it was last cleared. The record shows the verdict that
stands. It has counted the verdicts that were noted, errors included, but no slot that could
not be judged; the verdicts `yes`; the verdicts `yes` since the last `no`, which errors,
stale verdicts and cycles do not interrupt; and the turns from `no` to `yes`: every count up
to the greatest value of a counter. It keeps the field and the time of the last turn from
`no` to `yes`, and of the last turn from `yes` to `no`, or none if there was none. -/
theorem statistics_tell_history (updates : List Update) :
    let r := Record.after updates
    let history := sinceClear updates
    r.verdict = standing history ∧
      r.evaluations.toNat = min (history.countP Update.isNote) 0xFFFFFFFF ∧
      r.positives.toNat = min (history.countP (Update.notes .yes)) 0xFFFFFFFF ∧
      r.streak.toNat = min ((history.rtakeWhile fun u => !u.notes .no).countP
        (Update.notes .yes)) 0xFFFFFFFF ∧
      r.onsets.toNat = min (turns .no .yes history).length 0xFFFFFFFF ∧
      r.lastOnset = (turns .no .yes history).getLast?.getD .none ∧
      r.lastRelease = (turns .yes .no history).getLast?.getD .none := by
  intro r history
  have hafter : Record.after history = r := Record.after_sinceClear updates
  have htells : r.Tells history := by
    rw [← hafter]
    exact Record.tells_after fun u hu => not_isClear_of_mem_sinceClear hu
  refine ⟨?_, htells.evaluations, htells.positives, htells.streak, htells.onsets,
    htells.lastOnset, htells.lastRelease⟩
  rw [← hafter]
  exact Record.verdict_after history

/-! ## Runs -/

/-- What a change of the record updates in it. -/
def Change.update? : Change → Option Update
  | keep => none
  | load | clear => some .clear
  | age => some .age
  | note (.ok reading) timestamp staleAfter =>
    some (.note reading.verdict reading.raw timestamp staleAfter)
  | note (.error (.pastEnd _ _ _)) _ _ => some .fault
  | note (.error _) timestamp _ => some (.note .error 0 timestamp 0)

theorem Change.apply_eq (r : Record) (c : Change) :
    c.apply r = (c.update?.elim r fun u => u.apply r) := by
  cases c with
  | note result timestamp staleAfter =>
    cases result with
    | ok reading => rfl
    | error fault => cases fault <;> rfl
  | _ => rfl

end Watchpoint

namespace Engine

open Watchpoint

/-- The updates of the record of a watchpoint slot by a run. -/
def watchUpdates (e : Engine) (slot : WatchSlot) (operations : List Operation) : List Update :=
  (e.calls operations).filterMap fun call =>
    (call.engine.watchChange slot call.operation).update?

theorem watchUpdates_concat (e : Engine) (slot : WatchSlot) (operations : List Operation)
    (operation : Operation) : e.watchUpdates slot (operations ++ [operation]) =
      e.watchUpdates slot operations ++
        ((e.run operations).watchChange slot operation).update?.toList := by
  unfold watchUpdates
  rw [calls_concat, List.filterMap_append]
  cases hupdate : ((e.run operations).watchChange slot operation).update? <;> simp [hupdate]

/-- **The record of a watchpoint slot is that of the updates by the run**, so its statistics
tell them. -/
theorem get_watchRecords_run (slot : WatchSlot) (operations : List Operation) :
    (initial.run operations).watchRecords.get slot =
      Record.after (initial.watchUpdates slot operations) := by
  induction operations using List.reverseRecOn with
  | nil => simp [initial, run, watchUpdates, calls, Record.after]
  | append_singleton operations operation ih =>
    have reachable : Reachable (initial.run operations) := ⟨operations, rfl⟩
    rw [run_concat, reachable.get_watchRecords_perform, Change.apply_eq, ih, watchUpdates_concat]
    cases ((initial.run operations).watchChange slot operation).update? with
    | none => simp
    | some u => exact (Record.after_concat _ u).symm

end Engine

end LimitMonitor
