import LimitMonitor.Engine.Operation
import LimitMonitor.Proofs.Actionpoint.Response

/-!
# Where events come from

Every event stems from one kind of call: what is said about tables and
registrations from a load, what is said about fields from a message, what is said
about actionpoints from a sample request. `perform_origin` holds this of every
operation in every state, so a theorem about one kind of event has only one
operation to look into.
-/

namespace LimitMonitor

/-- The kinds of calls that leave a trace. -/
inductive Origin where
  | load
  | receive
  | sample
  | setMode
deriving DecidableEq

namespace Notification

/-- The kind of call that reports this. -/
def origin : Notification → Origin
  | tableAccepted _ _ | tableRejected _ _ _ _ | subscribeFailed _ _ | unsubscribeFailed _ _ => .load
  | unreferencedMessage _ | undefinedFormat _ _ | undefinedRelation _ _ | fieldPastEnd _ _ _ _ _
  | notANumber _ _ => .receive
  | illegalEquation _ _ | actionError _ | passToFail _ | failToPass _ | failedWhilePassive _ _ _
  | responseSuppressed _ _ _ | responseIssued _ _ _ _ _ _ | sampleOutOfRange _ _ => .sample

end Notification

namespace LogEntry

/-- The kind of call that writes this. -/
def origin : LogEntry → Origin
  | tableRejected _ _ | tablesLoaded _ _ | subscribeFailed _ _ | unsubscribeFailed _ _
  | indexRebuilt _ _ _ => .load
  | unreferencedMessage _ | noPredicate _ | undefinedFormat _ _ | undefinedRelation _ _
  | fieldPastEnd _ _ _ _ _ | notANumber _ _ => .receive
  | illegalEquation _ _ | responseRequested _ _ => .sample
  | modeChanged _ _ => .setMode

end LogEntry

namespace Event

/-- The kind of call that does this. -/
def origin : Event → Origin
  | notify notification => notification.origin
  | subscribe _ | unsubscribe _ => .load
  | respond _ => .sample
  | consult _ => .receive
  | log entry => entry.origin

end Event

namespace Operation

/-- The kind of call that an operation is, if it can leave a trace. -/
def origin? : Operation → Option Origin
  | load _ _ _ => some .load
  | receive _ _ => some .receive
  | sample _ => some .sample
  | setMode _ => some .setMode
  | _ => none

end Operation

namespace Trace

/-- Every event of a trace stems from one kind of call. -/
def StemsFrom (trace : Trace) (origin : Origin) : Prop := ∀ event ∈ trace, event.origin = origin

variable {origin : Origin}

theorem stemsFrom_nil : StemsFrom [] origin := fun _ h => absurd h List.not_mem_nil

theorem stemsFrom_cons {event : Event} {trace : Trace} :
    StemsFrom (event :: trace) origin ↔ event.origin = origin ∧ StemsFrom trace origin :=
  List.forall_mem_cons

theorem stemsFrom_append {first second : Trace} :
    StemsFrom (first ++ second) origin ↔ StemsFrom first origin ∧ StemsFrom second origin :=
  List.forall_mem_append

theorem stemsFrom_flatMap {α : Type} {items : List α} {f : α → Trace}
    (h : ∀ item ∈ items, StemsFrom (f item) origin) : StemsFrom (items.flatMap f) origin := by
  intro event hevent
  obtain ⟨item, hitem, hf⟩ := List.mem_flatMap.mp hevent
  exact h item hitem event hf

/-- A trace that one step of a loop keeps to a kind of call is of that kind after
the loop. -/
theorem stemsFrom_foldl {α β : Type} (traceOf : β → Trace) {f : β → α → β}
    (step : ∀ s item, StemsFrom (traceOf s) origin → StemsFrom (traceOf (f s item)) origin)
    (items : List α) (s : β) (h : StemsFrom (traceOf s) origin) :
    StemsFrom (traceOf (items.foldl f s)) origin := by
  induction items generalizing s with
  | nil => exact h
  | cons item rest ih => exact ih _ (step s item h)

end Trace

open Trace

/-! ## Loads -/

theorem TableReport.notification_origin (r : TableReport) (table : Table) :
    (r.notification table).origin = .load := by
  unfold notification
  split <;> rfl

namespace Transport

theorem stemsFrom_withdraw (t : Transport) (id : MessageId) : StemsFrom (t.withdraw id) .load := by
  unfold withdraw
  split <;> simp [StemsFrom, Event.origin, LogEntry.origin, Notification.origin]

theorem stemsFrom_register (t : Transport) (id : MessageId) : StemsFrom (t.register id) .load := by
  unfold register
  split <;> simp [StemsFrom, Event.origin, LogEntry.origin, Notification.origin]

end Transport

theorem DispatchIndex.stemsFrom_handover (before after : DispatchIndex) (t : Transport) :
    StemsFrom (before.handover after t) .load := by
  simp only [handover, stemsFrom_append, stemsFrom_cons]
  refine ⟨⟨?_, ?_⟩, rfl, stemsFrom_nil⟩
  · exact stemsFrom_flatMap fun id _ => t.stemsFrom_withdraw id
  · exact stemsFrom_flatMap fun id _ => t.stemsFrom_register id

theorem Engine.stemsFrom_load (e : Engine) (watchTable : WatchTable) (actionTable : ActionTable)
    (t : Transport) : StemsFrom (e.load watchTable actionTable t).trace .load := by
  have announced : StemsFrom
      [.notify ((TableReport.ofWatchpoints watchTable.toList).notification .watchpoints),
        .notify ((TableReport.ofActionpoints actionTable.toList).notification .actionpoints)]
      .load := by
    simp [StemsFrom, Event.origin, TableReport.notification_origin]
  simp only [load]
  split
  · exact stemsFrom_append.mpr ⟨announced, by simp [StemsFrom, Event.origin, LogEntry.origin]⟩
  · split
    · exact stemsFrom_append.mpr ⟨announced, by simp [StemsFrom, Event.origin, LogEntry.origin]⟩
    · refine stemsFrom_append.mpr ⟨stemsFrom_append.mpr ⟨announced, ?_⟩, ?_⟩
      · exact DispatchIndex.stemsFrom_handover _ _ _
      · simp [StemsFrom, Event.origin, LogEntry.origin]

/-! ## Messages -/

theorem Predicate.stemsFrom_trace (p : Predicate) (question : Consultation) :
    StemsFrom (p.trace question) .receive := by
  cases p <;> simp [trace, StemsFrom, Event.origin, LogEntry.origin]

theorem Watchpoint.stemsFrom_faultTrace (slot : WatchSlot) (m : Message) (fault : Field.Fault) :
    StemsFrom (faultTrace slot m fault) .receive := by
  cases fault <;>
    simp [faultTrace, StemsFrom, Event.origin, LogEntry.origin, Notification.origin]

theorem Watchpoint.Evaluation.stemsFrom_trace (v : Evaluation) (slot : WatchSlot) (m : Message)
    (p : Predicate) : StemsFrom (v.trace slot m p) .receive := by
  refine stemsFrom_append.mpr ⟨stemsFrom_flatMap fun question _ => p.stemsFrom_trace question, ?_⟩
  split
  · exact stemsFrom_nil
  · exact stemsFrom_faultTrace slot m _

theorem Engine.stemsFrom_receive (e : Engine) (m : Message) (p : Predicate) :
    StemsFrom (e.receive m p).trace .receive := by
  unfold receive
  split
  · simp [StemsFrom, Event.origin, LogEntry.origin, Notification.origin]
  · refine stemsFrom_foldl Reception.trace (fun s slot h => ?_) _ _ stemsFrom_nil
    unfold Reception.visit
    split
    · exact h
    · exact stemsFrom_append.mpr ⟨h, Watchpoint.Evaluation.stemsFrom_trace _ slot m p⟩

/-! ## Samples -/

theorem Actionpoint.stemsFrom_sample (a : Actionpoint) (slot : ActionSlot) (mode : Mode)
    (verdicts : WatchSlot → Verdict) (r : Record) :
    StemsFrom (a.sample slot mode verdicts r).trace .sample := by
  intro event hevent
  cases a.emits_sample slot mode r verdicts event hevent <;> rfl

namespace Engine

theorem stemsFrom_sample (e : Engine) (q : Request) : StemsFrom (e.sample q).trace .sample := by
  have loop (slots : List ActionSlot) : StemsFrom (e.sampleSlots slots).2 .sample := by
    refine stemsFrom_foldl Sampling.trace (fun s slot h => ?_) _ _ stemsFrom_nil
    unfold Sampling.visit
    split
    · exact h
    · exact stemsFrom_append.mpr ⟨h, Actionpoint.stemsFrom_sample _ slot _ _ _⟩
  unfold sample
  split
  · exact stemsFrom_nil
  all_goals
    split
    · exact stemsFrom_nil
    · exact stemsFrom_cons.mpr ⟨rfl, stemsFrom_nil⟩
    · exact loop _

/-! ## Operations -/

/-- **Every event of an operation stems from calls of its kind**, in every state. -/
theorem perform_origin (e : Engine) (operation : Operation) :
    ∀ event ∈ (e.perform operation).trace, operation.origin? = some event.origin := by
  have of {origin : Origin} (hop : operation.origin? = some origin)
      (h : StemsFrom (e.perform operation).trace origin) :
      ∀ event ∈ (e.perform operation).trace, operation.origin? = some event.origin :=
    fun event hevent => by rw [hop, h event hevent]
  cases operation with
  | load watchTable actionTable t => exact of rfl (e.stemsFrom_load watchTable actionTable t)
  | receive m p => exact of rfl (e.stemsFrom_receive m p)
  | sample q => exact of rfl (e.stemsFrom_sample q)
  | setMode mode =>
    refine of rfl ?_
    simp only [perform, Step.reply, Engine.setMode]
    split
    · exact stemsFrom_nil
    · exact stemsFrom_cons.mpr ⟨rfl, stemsFrom_nil⟩
  | setState target state =>
    simp only [perform, Step.reply, setState]
    repeat' split
    all_goals exact fun _ h => absurd h List.not_mem_nil
  | switchOff target =>
    simp only [perform, Step.reply, switchOff]
    repeat' split
    all_goals exact fun _ h => absurd h List.not_mem_nil
  | resetActionpoints target =>
    simp only [perform, Step.reply, resetActionpoints]
    repeat' split
    all_goals exact fun _ h => absurd h List.not_mem_nil
  | resetWatchpoints target =>
    simp only [perform, Step.reply, resetWatchpoints]
    repeat' split
    all_goals exact fun _ h => absurd h List.not_mem_nil
  | age | resetCounters | housekeep | snapshot => exact fun _ h => absurd h List.not_mem_nil

end Engine

end LimitMonitor
