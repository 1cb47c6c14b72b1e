import LimitMonitor.Proofs.Watchpoint.Staleness

/-!
# The order of messages

Two messages with different identifiers have no reader in common, so no slot is written by
both. A slot is judged by its watchpoint, by the message, and by its own record
(`scanRecord_congr`), and what is said of it by the first two alone, so the message that
comes first takes nothing away from the one that comes second. The one field that both
may write is the counter of messages, and it steps as often in either order.

Main statement: `messages_commute`. It asks nothing of the two identifiers but that they
differ: they may share a bucket of the index. And it asks nothing of the predicates: what
they remember while one message is processed is part of that message.
-/

namespace LimitMonitor

namespace Engine

variable {e e' : Engine} {m m' : Message} {slot : WatchSlot}

/-! ## What a message reads -/

/-- A slot reads one message only. -/
theorem not_mem_readers_of_ne (hids : m.id ≠ m'.id) (hslot : slot ∈ e.readers m.id) :
    slot ∉ e.readers m'.id := by
  intro hslot'
  obtain ⟨w, hw, hreads⟩ := mem_readers.mp hslot
  obtain ⟨w', hw', hreads'⟩ := mem_readers.mp hslot'
  obtain rfl : w = w' := Option.some.inj (hw.symm.trans hw')
  exact hids (hreads.symm.trans hreads')

section Watchpoints

variable (hwatchpoints : e'.watchpoints = e.watchpoints)
include hwatchpoints

/-- Who reads a message is a matter of the watchpoints. -/
theorem readers_eq (id : MessageId) : e'.readers id = e.readers id := by
  rw [readers, readers, hwatchpoints]

/-- So is what the predicate is asked. -/
theorem askedBefore_congr : e'.question? m = e.question? m ∧
    e'.askedBefore m = e.askedBefore m := by
  have hquestion : e'.question? m = e.question? m := by
    funext slot
    rw [question?, question?, hwatchpoints]
  refine ⟨hquestion, ?_⟩
  funext slot
  rw [askedBefore, askedBefore, readers_eq hwatchpoints, hquestion]

/-- **The record that a message leaves in a slot** is a matter of the watchpoints and of
the record that was there. -/
theorem scanRecord_congr (hrecord : e'.watchRecords.get slot = e.watchRecords.get slot)
    (p : Predicate) : e'.scanRecord m p slot = e.scanRecord m p slot := by
  rw [scanRecord, scanRecord, hwatchpoints, hrecord, (askedBefore_congr hwatchpoints).2]

/-- **What a message does to the world** is a matter of the watchpoints alone. -/
theorem trace_scan_congr (p : Predicate) : (e'.scan m p).trace = (e.scan m p).trace := by
  obtain ⟨hquestion, hasked⟩ := askedBefore_congr (m := m) hwatchpoints
  have htrace : e'.scanTrace m p = e.scanTrace m p := by
    funext slot
    rw [scanTrace, scanTrace, finding, finding, hquestion, hasked, hwatchpoints]
  unfold scan
  rw [readers_eq hwatchpoints, htrace]
  split <;> rfl

end Watchpoints

/-! ## What a message writes -/

/-- **A message writes the records of its readers and steps one counter.** If it has no
reader, both are left as they are. -/
theorem Reachable.engine_receive (h : Reachable e) (m : Message) (p : Predicate) :
    (e.receive m p).engine =
      { e with
        counters := { e.counters with
          messages := if e.readers m.id = [] then e.counters.messages
            else e.counters.messages.next }
        watchRecords := Vector.ofFn (e.scanRecord m p) } := by
  rw [h.receive_eq, scan]
  by_cases hnone : e.readers m.id = []
  · have hrecords : Vector.ofFn (e.scanRecord m p) = e.watchRecords := by
      refine Slots.ext fun slot => ?_
      have hslot : slot ∉ e.readers m.id := by
        rw [hnone]
        exact List.not_mem_nil
      rw [Slots.get_ofFn, scanRecord_of_not_mem hslot]
    rw [if_pos hnone, if_pos hnone, hrecords]
  · rw [if_neg hnone, if_neg hnone]

/-- **The second of two messages** judges its readers as if it were the first, and leaves
the others as the first one left them. -/
theorem scanRecord_after (hids : m.id ≠ m'.id) (h : Reachable e) (p p' : Predicate) :
    (e.receive m p).engine.scanRecord m' p' slot =
      if slot ∈ e.readers m'.id then e.scanRecord m' p' slot else e.scanRecord m p slot := by
  have hwatchpoints : (e.receive m p).engine.watchpoints = e.watchpoints := by
    rw [h.engine_receive]
  have hrecord : (e.receive m p).engine.watchRecords.get slot = e.scanRecord m p slot := by
    rw [h.engine_receive, Slots.get_ofFn]
  by_cases hslot : slot ∈ e.readers m'.id
  · have hother : slot ∉ e.readers m.id := not_mem_readers_of_ne hids.symm hslot
    rw [if_pos hslot]
    rw [scanRecord_of_not_mem hother] at hrecord
    exact scanRecord_congr hwatchpoints hrecord p'
  · rw [if_neg hslot]
    rw [← readers_eq hwatchpoints] at hslot
    rw [scanRecord_of_not_mem hslot, hrecord]

/-- So the records after both are the same in either order. -/
theorem scanRecord_comm (hids : m.id ≠ m'.id) (h : Reachable e) (p p' : Predicate) :
    (e.receive m p).engine.scanRecord m' p' slot =
      (e.receive m' p').engine.scanRecord m p slot := by
  rw [scanRecord_after hids h p p', scanRecord_after hids.symm h p' p]
  by_cases hslot : slot ∈ e.readers m.id
  · rw [if_neg (not_mem_readers_of_ne hids hslot), if_pos hslot]
  · by_cases hslot' : slot ∈ e.readers m'.id
    · rw [if_pos hslot', if_neg hslot]
    · rw [if_neg hslot', if_neg hslot, scanRecord_of_not_mem hslot, scanRecord_of_not_mem hslot']

/-! ## Two messages -/

/-- The watchpoint table with two entries, on messages whose identifiers share a bucket. -/
def twoWatchpoints : WatchTable :=
  Vector.ofFn fun slot =>
    if slot.val = 0 then (Watchpoint.Definition.watching .uint8 .gt 0x820 0).withReference 5
    else if slot.val = 1 then (Watchpoint.Definition.watching .uint8 .gt 0x920 0).withReference 5
    else .unused

theorem isOk_load_two (e : Engine) (t : Transport) :
    (e.load twoWatchpoints oneActionpoint t).answer.isOk = true := by
  obtain ⟨-, hactions⟩ := e.isOk_load_iff.mp (e.isOk_load_one t)
  refine e.isOk_load_iff.mpr ⟨fun slot => ?_, hactions⟩
  rw [twoWatchpoints, Slots.get_ofFn]
  split
  · decide
  · split <;> decide

/-- A watchpoint that reads the last of two messages has the verdict of its reading. -/
theorem Reachable.verdicts_last (h : Reachable e) {w : Watchpoint}
    (hw : e.watchpoints.get slot = some w) (hreads : w.messageId = m.id) (p p' : Predicate)
    {reading : Watchpoint.Reading}
    (hresult : ∀ asked, (w.evaluate slot m p asked).result = .ok reading) :
    ((e.receive m' p').engine.receive m p).engine.verdicts slot = reading.verdict := by
  have hkept : (e.receive m' p').engine.watchpoints.get slot = some w := by
    rw [h.engine_receive]
    exact hw
  exact (h.perform (.receive m' p')).verdicts_receive hkept hreads p (hresult _)

/-- **Messages with different identifiers commute.** Take any run, and two messages with
different identifiers, of any content and any times, each with any predicate. The engine is
the same whichever of them it receives first, and each of them does the same to the world
in both orders: the same notifications, log entries and questions, one after the other. -/
theorem messages_commute (operations : List Operation) (m m' : Message) (p p' : Predicate)
    (hids : m.id ≠ m'.id) :
    let e := initial.run operations
    let first := e.receive m p
    let second := first.engine.receive m' p'
    let first' := e.receive m' p'
    let second' := first'.engine.receive m p
    second.engine = second'.engine ∧
    second.trace = first'.trace ∧ second'.trace = first.trace := by
  intro e first second first' second'
  have reachable : Reachable e := ⟨operations, rfl⟩
  have hfirst : Reachable first.engine := reachable.perform (.receive m p)
  have hfirst' : Reachable first'.engine := reachable.perform (.receive m' p')
  have hwatchpoints : first.engine.watchpoints = e.watchpoints := by
    rw [reachable.engine_receive]
  have hwatchpoints' : first'.engine.watchpoints = e.watchpoints := by
    rw [reachable.engine_receive]
  refine ⟨?_, ?_, ?_⟩
  · have hrecords : first.engine.scanRecord m' p' = first'.engine.scanRecord m p := by
      funext slot
      exact scanRecord_comm hids reachable p p'
    have hsecond : second.engine = _ := hfirst.engine_receive m' p'
    have hsecond' : second'.engine = _ := hfirst'.engine_receive m p
    rw [hsecond, hsecond', hrecords, readers_eq hwatchpoints, readers_eq hwatchpoints',
      reachable.engine_receive, reachable.engine_receive]
    -- the counter of messages steps once for each of the two that has a reader
    by_cases hnone : e.readers m.id = []
    · simp only [hnone, if_true]
    · by_cases hnone' : e.readers m'.id = []
      · simp only [hnone', if_true]
      · simp only [hnone, hnone', if_false]
  · calc second.trace
        = (first.engine.scan m' p').trace := congrArg Step.trace (hfirst.receive_eq m' p')
      _ = (e.scan m' p').trace := trace_scan_congr hwatchpoints p'
      _ = first'.trace := congrArg Step.trace (reachable.receive_eq m' p').symm
  · calc second'.trace
        = (first'.engine.scan m p).trace := congrArg Step.trace (hfirst'.receive_eq m p)
      _ = (e.scan m p).trace := trace_scan_congr hwatchpoints' p
      _ = first.trace := congrArg Step.trace (reachable.receive_eq m p).symm

/-- Two messages that share a bucket, each with a reader. One verdict is read off the order
in which its message comes last, and the other off the other order. -/
theorem messages_commute_two :
    let operations : List Operation := [.load twoWatchpoints oneActionpoint .willing]
    let m : Message := ⟨⟨0x820⟩, #[9], 100⟩
    let m' : Message := ⟨⟨0x920⟩, #[1], 200⟩
    let e := initial.run operations
    let final := ((e.receive m .unregistered).engine.receive m' .unregistered).engine
    DispatchIndex.bucket m.id = DispatchIndex.bucket m'.id ∧ m.id ≠ m'.id ∧
    final = ((e.receive m' .unregistered).engine.receive m .unregistered).engine ∧
    final.verdicts 0 = .yes ∧ final.verdicts 1 = .no := by
  intro operations m m' e final
  let w : Watchpoint := ⟨.uint8, .gt, ⟨0x820⟩, 0, 0xFFFFFFFF, .uint8 5, 0, 0⟩
  let w' : Watchpoint := ⟨.uint8, .gt, ⟨0x920⟩, 0, 0xFFFFFFFF, .uint8 5, 0, 0⟩
  have hids : m.id ≠ m'.id := by decide
  have hcommute : final = ((e.receive m' .unregistered).engine.receive m .unregistered).engine :=
    (messages_commute operations m m' .unregistered .unregistered hids).1
  have hinstalled : e = initial.installed twoWatchpoints oneActionpoint :=
    run_load_of_isOk (isOk_load_two initial .willing)
  have reachable : Reachable e := ⟨operations, rfl⟩
  have loaded : e.watchpoints.get 0 = some w ∧ e.watchpoints.get 1 = some w' := by
    rw [hinstalled, installed, install, twoWatchpoints, Slots.get_map, Slots.get_map,
      Slots.get_ofFn, Slots.get_ofFn]
    exact ⟨rfl, rfl⟩
  have hyes (asked : List Consultation) :
      (w.evaluate 0 m .unregistered asked).result = .ok ⟨.yes, 9⟩ := by
    have hjudge : w.judge (9 &&& w.mask) = .ok .yes := by decide
    rw [Watchpoint.result_of_field (by decide) (show w.field m = .ok 9 by decide), hjudge]
    rfl
  have hno (asked : List Consultation) :
      (w'.evaluate 1 m' .unregistered asked).result = .ok ⟨.no, 1⟩ := by
    have hjudge : w'.judge (1 &&& w'.mask) = .ok .no := by decide
    rw [Watchpoint.result_of_field (by decide) (show w'.field m' = .ok 1 by decide), hjudge]
    rfl
  refine ⟨by decide, hids, hcommute, ?_, reachable.verdicts_last loaded.2 rfl _ _ hno⟩
  rw [hcommute]
  exact reachable.verdicts_last loaded.1 rfl _ _ hyes

end Engine

end LimitMonitor
