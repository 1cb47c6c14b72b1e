import LimitMonitor.Proofs.Engine.Change
import LimitMonitor.Proofs.Table.Report

/-!
# Refused calls

A call that is refused leaves the engine as it was and asks nothing of the transport. For
most calls the refusal comes before anything is done. A command to every slot goes on
after it has moved some of them, but it passes over the slots that would refuse it, so
it is never refused on the way (`setState_of_refused`). A refused load has announced both
tables (`load_of_refused`).

Main statement: `refused_is_atomic`.
-/

namespace LimitMonitor

/-- The event is a call of the transport. -/
def Event.callsTransport : Event → Bool
  | subscribe _ | unsubscribe _ | respond _ => true
  | notify _ | consult _ | log _ => false

/-- Why a call was refused, if it was. -/
def Reply.refusal? : Reply → Option Refusal
  | loaded (.error refusal) | completed (.error refusal) => some refusal
  | _ => none

namespace Engine

variable {e : Engine} {refusal : Refusal}

/-! ## Loads -/

/-- **A refused load** has announced both tables, the watchpoints first, and is refused
for the first bad entry, which is one of the watchpoint table if that has any. -/
theorem load_of_refused {watchTable : WatchTable} {actionTable : ActionTable} {t : Transport}
    (h : (e.load watchTable actionTable t).answer = .error refusal) :
    ∃ table, (e.load watchTable actionTable t).engine = e ∧
      (e.load watchTable actionTable t).trace =
        [.notify ((TableReport.ofWatchpoints watchTable.toList).notification .watchpoints),
          .notify ((TableReport.ofActionpoints actionTable.toList).notification .actionpoints),
          .log (.tableRejected table refusal)] ∧
      ((∃ slot defect, TableReport.FailsFirst Watchpoint.decode watchTable slot defect ∧
          refusal = .tableRejected .watchpoints (slotNumber slot) defect) ∨
        (∀ slot, (Watchpoint.decode (watchTable.get slot)).isOk = true) ∧
          ∃ slot defect, TableReport.FailsFirst Actionpoint.decode actionTable slot defect ∧
            refusal = .tableRejected .actionpoints (slotNumber slot) defect) := by
  have hwatch := TableReport.verdict_ofTable Watchpoint.decode watchTable .watchpoints
  have haction := TableReport.verdict_ofTable Actionpoint.decode actionTable .actionpoints
  simp only [load, TableReport.ofWatchpoints, TableReport.ofActionpoints] at h ⊢
  split at h
  · next watchRefusal hverdict =>
    obtain rfl := Except.error.inj h
    rw [hverdict] at hwatch
    exact ⟨.watchpoints, rfl, rfl, .inl hwatch⟩
  · next watchTally hverdict =>
    rw [hverdict] at hwatch
    split at h
    · next actionRefusal hverdict' =>
      obtain rfl := Except.error.inj h
      rw [hverdict'] at haction
      exact ⟨.actionpoints, rfl, rfl, .inr ⟨hwatch, haction⟩⟩
    · cases h

/-! ## Samples and commands -/

theorem sample_of_refused {q : Request} (h : (e.sample q).answer = .error refusal) :
    (e.sample q).engine = e ∧
      (e.sample q).trace = [.notify (.sampleOutOfRange q.first q.last)] := by
  unfold sample at h ⊢
  cases hmode : e.mode with
  | disabled => simp [hmode] at h
  | active | passive =>
    cases hscope : q.scope with
    | outside => exact ⟨rfl, rfl⟩
    | nothing | slots range => simp [hmode, hscope] at h

/-- **A command is refused before it moves any actionpoint.** A command to every slot
passes over those that admit none. -/
theorem setState_of_refused {target : UInt16} {state : Actionpoint.State}
    (h : (e.setState target state).answer = .error refusal) :
    (e.setState target state).engine = e ∧ (e.setState target state).trace = [] := by
  unfold setState at h ⊢
  split at h
  · next hstate => simp only [hstate, if_true, and_self]
  · next hstate =>
    simp only [hstate, Bool.false_eq_true, if_false]
    split at h
    · have hok := (commandEach_spec (by simpa using hstate) ActionSlot.nodup_all e.actionRecords).1
      exact absurd (hok.symm.trans h) (by simp)
    · next hall =>
      simp only [hall, if_false]
      split at h
      · exact ⟨rfl, rfl⟩
      · split at h
        · exact ⟨rfl, rfl⟩
        · cases h

theorem switchOff_of_refused {target : UInt16} (h : (e.switchOff target).answer = .error refusal) :
    (e.switchOff target).engine = e ∧ (e.switchOff target).trace = [] := by
  unfold switchOff at h ⊢
  split at h
  · exact ⟨rfl, rfl⟩
  · split at h
    · exact ⟨rfl, rfl⟩
    · cases h

theorem resetActionpoints_of_refused {target : UInt16}
    (h : (e.resetActionpoints target).answer = .error refusal) :
    (e.resetActionpoints target).engine = e ∧ (e.resetActionpoints target).trace = [] := by
  unfold resetActionpoints at h ⊢
  split at h
  · cases h
  · next hall =>
    simp only [hall, if_false]
    split at h
    · exact ⟨rfl, rfl⟩
    · cases h

theorem resetWatchpoints_of_refused {target : UInt16}
    (h : (e.resetWatchpoints target).answer = .error refusal) :
    (e.resetWatchpoints target).engine = e ∧ (e.resetWatchpoints target).trace = [] := by
  unfold resetWatchpoints at h ⊢
  split at h
  · cases h
  · next hall =>
    simp only [hall, if_false]
    split at h
    · exact ⟨rfl, rfl⟩
    · cases h

/-! ## Operations -/

theorem answer_of_completed {result : Except Refusal Unit}
    (h : (Reply.completed result).refusal? = some refusal) : result = .error refusal := by
  cases result with
  | ok _ => cases h
  | error other => exact congrArg Except.error (Option.some.inj h)

theorem answer_of_loaded {result : Except Refusal LoadReport}
    (h : (Reply.loaded result).refusal? = some refusal) : result = .error refusal := by
  cases result with
  | ok _ => cases h
  | error other => exact congrArg Except.error (Option.some.inj h)

/-- **A refused call changes nothing and asks nothing of the transport.** -/
theorem perform_of_refused (operation : Operation)
    (h : (e.perform operation).answer.refusal? = some refusal) :
    (e.perform operation).engine = e ∧
      ∀ event ∈ (e.perform operation).trace, event.callsTransport = false := by
  have quiet {trace : Trace} (hnone : trace = []) :
      ∀ event ∈ trace, event.callsTransport = false := by
    rw [hnone]
    exact fun event hevent => absurd hevent List.not_mem_nil
  cases operation with
  | load watchTable actionTable t =>
    obtain ⟨table, hengine, htrace, -⟩ := load_of_refused (answer_of_loaded h)
    have hperform : (e.perform (.load watchTable actionTable t)).trace =
      (e.load watchTable actionTable t).trace := rfl
    refine ⟨hengine, ?_⟩
    rw [hperform, htrace]
    simp [Event.callsTransport]
  | sample q =>
    obtain ⟨hengine, htrace⟩ := sample_of_refused (answer_of_completed h)
    have hperform : (e.perform (.sample q)).trace = (e.sample q).trace := rfl
    refine ⟨hengine, ?_⟩
    rw [hperform, htrace]
    simp [Event.callsTransport]
  | setState target state =>
    obtain ⟨hengine, htrace⟩ := setState_of_refused (answer_of_completed h)
    exact ⟨hengine, quiet htrace⟩
  | switchOff target =>
    obtain ⟨hengine, htrace⟩ := switchOff_of_refused (answer_of_completed h)
    exact ⟨hengine, quiet htrace⟩
  | resetActionpoints target =>
    obtain ⟨hengine, htrace⟩ := resetActionpoints_of_refused (answer_of_completed h)
    exact ⟨hengine, quiet htrace⟩
  | resetWatchpoints target =>
    obtain ⟨hengine, htrace⟩ := resetWatchpoints_of_refused (answer_of_completed h)
    exact ⟨hengine, quiet htrace⟩
  | receive _ _ | age | setMode _ | resetCounters | housekeep | snapshot => cases h

/-- **A refused call is as if it had not been made.** In every state, whatever a call is
refused for, the whole engine is what it was before, and the transport was not called. A
refused load tells operators of both tables and of nothing else, the watchpoint table
first: of each whether it is accepted, or which entry fails first. It is refused for the first
watchpoint definition that fails its checks, and if there is none, for the first such
actionpoint definition. -/
theorem refused_is_atomic (e : Engine) :
    (∀ operation refusal, (e.perform operation).answer.refusal? = some refusal →
      (e.perform operation).engine = e ∧
      ∀ event ∈ (e.perform operation).trace, event.callsTransport = false) ∧
    ∀ watchTable actionTable t refusal,
      (e.load watchTable actionTable t).answer = .error refusal →
        (∃ watch action,
          Trace.notifications (e.load watchTable actionTable t).trace = [watch, action] ∧
          (TableReport.ofWatchpoints watchTable.toList).Announces .watchpoints watch ∧
          (TableReport.ofActionpoints actionTable.toList).Announces .actionpoints action) ∧
        ((∃ slot defect, TableReport.FailsFirst Watchpoint.decode watchTable slot defect ∧
            refusal = .tableRejected .watchpoints (slotNumber slot) defect) ∨
          (∀ slot, (Watchpoint.decode (watchTable.get slot)).isOk = true) ∧
            ∃ slot defect, TableReport.FailsFirst Actionpoint.decode actionTable slot defect ∧
              refusal = .tableRejected .actionpoints (slotNumber slot) defect) := by
  refine ⟨fun operation refusal h => perform_of_refused operation h,
    fun watchTable actionTable t refusal h => ?_⟩
  obtain ⟨table, -, htrace, hfirst⟩ := load_of_refused h
  refine ⟨⟨_, _, ?_, TableReport.announces_notification _ _,
    TableReport.announces_notification _ _⟩, hfirst⟩
  rw [htrace]
  rfl

end Engine

end LimitMonitor
