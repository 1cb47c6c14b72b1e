import LimitMonitor.Proofs.Engine.Sampling
import LimitMonitor.Proofs.Reception.Scan

/-!
# What an operation does to one watchpoint

Seen from one slot of the watchpoint table, an operation is one of five changes of its
record: `Engine.watchChange` says which, and `Watchpoint.Change.apply` says what it makes
of the record. `Reachable.get_watchRecords_perform` holds every operation to that
account. Sampling enters it only where the request asks for aging and is carried out
(`ages`).
-/

namespace LimitMonitor

namespace WatchSlot

/-- A reset with this target names the slot. -/
def covers (target : UInt16) (slot : WatchSlot) : Bool :=
  target = everySlot || target = slotNumber slot

end WatchSlot

namespace Watchpoint

/-- What an operation does to the record of one watchpoint slot. -/
inductive Change where
  /-- Nothing. -/
  | keep
  /-- An accepted load fills the slot anew. -/
  | load
  /-- The record is cleared. -/
  | clear
  /-- One cycle passes. -/
  | age
  /-- The watchpoint was evaluated on a message. -/
  | note (result : Except Field.Fault Reading) (timestamp : Timestamp) (staleAfter : UInt32)

/-- The record after a change. -/
def Change.apply (r : Record) : Change → Record
  | keep => r
  | load | clear => .initial
  | age => r.age
  | note result timestamp staleAfter => r.fold result timestamp staleAfter

end Watchpoint

namespace Engine

open Watchpoint

/-- A request lets a cycle pass: it is carried out, and it asks for that. -/
def ages (e : Engine) (q : Request) : Bool := e.carriesOut q && q.aging

/-- What an operation does to the record of a watchpoint slot. -/
def watchChange (e : Engine) (slot : WatchSlot) : Operation → Change
  | .load watchTable actionTable t =>
    if e.acceptsLoad (.load watchTable actionTable t) then .load else .keep
  | .receive m p =>
    match e.watchpoints.get slot with
    | some w =>
      if w.messageId = m.id then
        .note (w.evaluate slot m p (e.askedBefore m slot)).result m.timestamp w.staleAfter
      else .keep
    | none => .keep
  | .sample q => if e.ages q then .age else .keep
  | .age | .housekeep => .age
  | .resetWatchpoints target => if WatchSlot.covers target slot then .clear else .keep
  | _ => .keep

variable (e : Engine) (slot : WatchSlot)

/-- Only a message that the watchpoint in a slot reads is noted in its record, with the
horizon of that watchpoint. -/
theorem receive_of_watchChange {slot : WatchSlot} {operation : Operation}
    {result : Except Field.Fault Reading} {timestamp : Timestamp} {staleAfter : UInt32}
    (h : e.watchChange slot operation = .note result timestamp staleAfter) :
    ∃ m p w, operation = .receive m p ∧ e.watchpoints.get slot = some w ∧
      w.messageId = m.id ∧ w.staleAfter = staleAfter := by
  cases operation with
  | receive m p =>
    simp only [watchChange] at h
    split at h
    · next w hw =>
      split at h
      · next hreads =>
        cases h
        exact ⟨m, p, w, rfl, hw, hreads, rfl⟩
      · cases h
    · cases h
  | load _ _ _ | sample _ | resetWatchpoints _ =>
    simp only [watchChange] at h
    split at h <;> cases h
  | _ => cases h

/-! ## Samples, commands and resets -/

theorem watchRecords_sample (q : Request) :
    (e.sample q).engine.watchRecords =
      if e.ages q then e.watchRecords.map (·.age) else e.watchRecords := by
  by_cases h : e.mode = .disabled ∨ ∀ range, q.scope ≠ .slots range
  · rw [(sample_of_not_slots h).1, ages, carriesOut_of_not_slots h]
    rfl
  · simp only [not_or, not_forall, not_not] at h
    obtain ⟨hmode, range, hscope⟩ := h
    rw [ages, carriesOut_of_slots hmode hscope]
    unfold sample
    cases hactive : e.mode with
    | disabled => exact absurd hactive hmode
    | active | passive =>
      simp only [hscope]
      cases q.aging <;> rfl

/-- A command to actionpoints leaves the watchpoints alone. -/
theorem watchRecords_setState (target : UInt16) (state : Actionpoint.State) :
    (e.setState target state).engine.watchRecords = e.watchRecords := by
  unfold setState
  repeat' split
  all_goals rfl

theorem watchRecords_switchOff (target : UInt16) :
    (e.switchOff target).engine.watchRecords = e.watchRecords := by
  unfold switchOff
  repeat' split
  all_goals rfl

theorem watchRecords_resetActionpoints (target : UInt16) :
    (e.resetActionpoints target).engine.watchRecords = e.watchRecords := by
  unfold resetActionpoints
  repeat' split
  all_goals rfl

theorem get_resetWatchpoints (target : UInt16) :
    (e.resetWatchpoints target).engine.watchRecords.get slot =
      if WatchSlot.covers target slot then .initial else e.watchRecords.get slot := by
  unfold resetWatchpoints WatchSlot.covers
  by_cases hall : target = everySlot
  · simp [hall]
  · simp only [hall, if_false, decide_false, Bool.false_or, decide_eq_true_eq]
    cases hi : WatchSlot.ofNumber? target with
    | none =>
      have hne : target ≠ slotNumber slot := fun h => by
        rw [WatchSlot.ofNumber?_eq_some.mpr h] at hi
        cases hi
      rw [if_neg hne]
    | some i =>
      obtain rfl := WatchSlot.ofNumber?_eq_some.mp hi
      simp only [Slots.get_set, WatchSlot.slotNumber_inj]

/-! ## Operations -/

/-- The record that the scan leaves in a slot is that of its change. -/
theorem scanRecord_eq_apply (m : Message) (p : Predicate) :
    e.scanRecord m p slot =
      (e.watchChange slot (.receive m p)).apply (e.watchRecords.get slot) := by
  unfold scanRecord watchChange
  cases e.watchpoints.get slot with
  | none => rfl
  | some w =>
    simp only
    split
    · rw [Change.apply]
      cases (w.evaluate slot m p (e.askedBefore m slot)).result with
      | ok reading => rfl
      | error fault => cases fault <;> rfl
    · rfl

variable {e} in
/-- **Every operation does to a watchpoint slot what its change says**, in every
reachable state. -/
theorem Reachable.get_watchRecords_perform (h : Reachable e) (operation : Operation)
    (slot : WatchSlot) :
    (e.perform operation).engine.watchRecords.get slot =
      (e.watchChange slot operation).apply (e.watchRecords.get slot) := by
  cases operation with
  | load watchTable actionTable t =>
    have hframe : (e.perform (.load watchTable actionTable t)).engine =
      (e.load watchTable actionTable t).engine := rfl
    rw [hframe, engine_load, watchChange, acceptsLoad]
    split
    · simp [installed, install, Change.apply]
    · rfl
  | receive m p =>
    have hframe : (e.perform (.receive m p)).engine = (e.receive m p).engine := rfl
    rw [hframe, h.receive_eq, ← scanRecord_eq_apply, scan]
    split
    · next hnone => rw [scanRecord_of_not_mem (by rw [hnone]; exact List.not_mem_nil)]
    · exact Slots.get_ofFn _ _
  | sample q =>
    have hframe : (e.perform (.sample q)).engine = (e.sample q).engine := rfl
    rw [hframe, watchRecords_sample, watchChange]
    split
    · simp [Change.apply]
    · rfl
  | age | housekeep => exact Slots.get_map _ _ _
  | resetWatchpoints target =>
    have hframe : (e.perform (.resetWatchpoints target)).engine =
      (e.resetWatchpoints target).engine := rfl
    rw [hframe, get_resetWatchpoints, watchChange]
    split <;> rfl
  | setState target state =>
    exact congrArg (Vector.get · slot) (e.watchRecords_setState target state)
  | switchOff target =>
    exact congrArg (Vector.get · slot) (e.watchRecords_switchOff target)
  | resetActionpoints target =>
    exact congrArg (Vector.get · slot) (e.watchRecords_resetActionpoints target)
  | setMode _ | resetCounters | snapshot => rfl

variable {e} {slot} in
/-- **A message is folded into the record of every watchpoint that reads it.** -/
theorem Reachable.get_watchRecords_receive (h : Reachable e) {w : Watchpoint}
    (hw : e.watchpoints.get slot = some w) {m : Message} (hreads : w.messageId = m.id)
    (p : Predicate) :
    (e.perform (.receive m p)).engine.watchRecords.get slot =
      (e.watchRecords.get slot).fold (w.evaluate slot m p (e.askedBefore m slot)).result
        m.timestamp w.staleAfter := by
  have hchange : e.watchChange slot (.receive m p) =
      .note (w.evaluate slot m p (e.askedBefore m slot)).result m.timestamp w.staleAfter := by
    simp only [watchChange, hw, hreads, if_true]
  rw [h.get_watchRecords_perform, hchange, Change.apply]

end Engine

end LimitMonitor
