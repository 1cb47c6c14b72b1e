import LimitMonitor.Proofs.Engine.History
import LimitMonitor.Proofs.Engine.Refusal

/-!
# Registrations follow the table

The transport is told of an accepted load in two rounds: every message of the old index
is withdrawn, then every message of the new table is registered (`delivered_load`). The
old index lists the messages that the last accepted load registered
(`registered_eq`), whatever was called, refused or answered in between, so the rounds
of successive loads fit together. If the transport refuses nothing, what it holds after any
run is what the loaded table reads (`outstanding_eq`).

Main statement: `registrations_follow_tables`.
-/

namespace LimitMonitor

namespace Event

/-- The event registers a message or withdraws one. -/
def isRegistration : Event → Bool
  | subscribe _ | unsubscribe _ => true
  | _ => false

/-- The message that an event registers. -/
def subscribed? : Event → Option MessageId
  | subscribe id => some id
  | _ => none

end Event

/-- The messages that a trace registers, in order. -/
def Trace.subscribed (trace : Trace) : List MessageId := trace.filterMap Event.subscribed?

namespace Transport

variable (t : Transport)

/-- What the sink and the transport see of the withdrawal of one message: the call, and
right after it the report of its failure, if it fails. -/
def withdrawal (id : MessageId) : Trace :=
  .unsubscribe id ::
    (t.unsubscribe id).toList.map fun status => .notify (.unsubscribeFailed id status)

/-- What the sink and the transport see of the registration of one message. -/
def registration (id : MessageId) : Trace :=
  .subscribe id :: (t.subscribe id).toList.map fun status => .notify (.subscribeFailed id status)

/-- The transport refuses nothing. -/
def IsWilling : Prop := ∀ id, t.subscribe id = none ∧ t.unsubscribe id = none

/-- The registrations that a transport holds after an event, given those that it held
before. What it refuses changes nothing. -/
def hold (held : List MessageId) : Event → List MessageId
  | .subscribe id => if (t.subscribe id).isNone then held ++ [id] else held
  | .unsubscribe id => if (t.unsubscribe id).isNone then held.erase id else held
  | _ => held

/-! ## One message -/

theorem filter_withdraw (id : MessageId) :
    (t.withdraw id).filter Event.isDelivered = t.withdrawal id := by
  unfold withdraw withdrawal
  cases t.unsubscribe id <;> rfl

theorem filter_register (id : MessageId) :
    (t.register id).filter Event.isDelivered = t.registration id := by
  unfold register registration
  cases t.subscribe id <;> rfl

theorem subscribed_withdraw (id : MessageId) : Trace.subscribed (t.withdraw id) = [] := by
  unfold withdraw
  cases t.unsubscribe id <;> rfl

theorem subscribed_register (id : MessageId) : Trace.subscribed (t.register id) = [id] := by
  unfold register
  cases t.subscribe id <;> rfl

/-! ## Rounds -/

variable {t}

/-- **A round of withdrawals** takes what it withdraws off a willing transport. -/
theorem foldl_hold_withdraw (ht : t.IsWilling) (ids rest : List MessageId) :
    (ids.flatMap t.withdraw).foldl t.hold (ids ++ rest) = rest := by
  induction ids with
  | nil => rfl
  | cons id ids ih =>
    have hone : t.withdraw id = [.unsubscribe id] := by rw [withdraw, (ht id).2]
    rw [List.flatMap_cons, hone, List.singleton_append, List.foldl_cons, hold, (ht id).2,
      Option.isNone_none, if_pos rfl, List.cons_append, List.erase_cons_head]
    exact ih

/-- **A round of registrations** adds what it registers. -/
theorem foldl_hold_register (ht : t.IsWilling) (ids held : List MessageId) :
    (ids.flatMap t.register).foldl t.hold held = held ++ ids := by
  induction ids generalizing held with
  | nil => exact (List.append_nil held).symm
  | cons id ids ih =>
    have hone : t.register id = [.subscribe id] := by rw [register, (ht id).1]
    rw [List.flatMap_cons, hone, List.singleton_append, List.foldl_cons, hold, (ht id).1,
      Option.isNone_none, if_pos rfl, ih, List.append_assoc]
    rfl

end Transport

namespace Engine

/-! ## Loads -/

/-- The messages that the slots of a table read, each once, in the order of first
reference. -/
def distinctIds (ids : List (Option MessageId)) : List MessageId := ids.reduceOption.eraseDups

/-- The messages that a definition table reads. -/
def messagesOf (watchTable : WatchTable) : List MessageId :=
  distinctIds (watchTable.toList.map fun d =>
    (entryOf (Watchpoint.decode d)).map (·.messageId))

/-- What a load tells operators of its tables. -/
def announcement (watchTable : WatchTable) (actionTable : ActionTable) : Trace :=
  [.notify ((TableReport.ofWatchpoints watchTable.toList).notification .watchpoints),
    .notify ((TableReport.ofActionpoints actionTable.toList).notification .actionpoints)]

variable {e : Engine} {watchTable : WatchTable} {actionTable : ActionTable} {t : Transport}

/-- The index of a table lists its distinct messages. -/
theorem messageIds_ofTable_messageIds (e : Engine) :
    (DispatchIndex.ofTable e.messageIds).messageIds = distinctIds e.messageIds := by
  have hlength : e.messageIds.length ≤ watchCapacity := by simp [messageIds]
  rw [DispatchIndex.messageIds_ofTable, List.take_of_length_le hlength, distinctIds]

theorem nodup_distinctIds (e : Engine) : (distinctIds e.messageIds).Nodup := by
  rw [← messageIds_ofTable_messageIds]
  exact (DispatchIndex.indexes_ofTable e.messageIds).distinct

theorem distinctIds_install (e : Engine) (watchTable : WatchTable) (actionTable : ActionTable) :
    distinctIds (e.install watchTable actionTable).messageIds = messagesOf watchTable := by
  rw [messagesOf, messageIds, install, Vector.toList_map, List.map_map]
  rfl

/-- **The trace of an accepted load.** -/
theorem trace_load_of_isOk (accepted : (e.load watchTable actionTable t).answer.isOk = true) :
    ∃ watchpoints actionpoints, (e.load watchTable actionTable t).trace =
      announcement watchTable actionTable ++
        e.index.handover (e.installed watchTable actionTable).index t ++
        [.log (.tablesLoaded watchpoints actionpoints)] := by
  simp only [load] at accepted ⊢
  split at accepted
  · cases accepted
  · split at accepted
    · cases accepted
    · exact ⟨_, _, rfl⟩

theorem messageIds_index_installed (e : Engine) (watchTable : WatchTable)
    (actionTable : ActionTable) :
    (e.installed watchTable actionTable).index.messageIds = messagesOf watchTable := by
  rw [← e.distinctIds_install watchTable actionTable, ← messageIds_ofTable_messageIds]
  rfl

/-- **What the sink and the transport see of an accepted load**: both reports, a round of
withdrawals for the old index, a round of registrations for the new table. -/
theorem delivered_load (accepted : (e.load watchTable actionTable t).answer.isOk = true) :
    (e.load watchTable actionTable t).trace.filter Event.isDelivered =
      announcement watchTable actionTable ++ e.index.messageIds.flatMap t.withdrawal ++
        (messagesOf watchTable).flatMap t.registration := by
  obtain ⟨watchpoints, actionpoints, htrace⟩ := trace_load_of_isOk accepted
  have hannouncement : (announcement watchTable actionTable).filter Event.isDelivered =
    announcement watchTable actionTable := rfl
  simp only [htrace, DispatchIndex.handover, List.filter_append, List.filter_flatMap,
    t.filter_withdraw, t.filter_register, hannouncement, messageIds_index_installed]
  simp [Event.isDelivered]

/-- The messages that an accepted load registers. -/
theorem subscribed_load (accepted : (e.load watchTable actionTable t).answer.isOk = true) :
    Trace.subscribed (e.load watchTable actionTable t).trace = messagesOf watchTable := by
  obtain ⟨watchpoints, actionpoints, htrace⟩ := trace_load_of_isOk accepted
  have hnone (ids : List MessageId) : Trace.subscribed (ids.flatMap t.withdraw) = [] := by
    rw [Trace.subscribed, List.filterMap_flatMap, List.flatMap_eq_nil_iff]
    exact fun id _ => t.subscribed_withdraw id
  have hall (ids : List MessageId) : Trace.subscribed (ids.flatMap t.register) = ids := by
    rw [Trace.subscribed, List.filterMap_flatMap]
    exact (List.flatMap_congr fun id _ => t.subscribed_register id).trans (List.flatMap_singleton' ids)
  have happend (first second : Trace) :
      Trace.subscribed (first ++ second) = Trace.subscribed first ++ Trace.subscribed second :=
    List.filterMap_append
  have hannouncement : Trace.subscribed (announcement watchTable actionTable) = [] := rfl
  have hlog (entry : LogEntry) : Trace.subscribed [.log entry] = [] := rfl
  simp only [htrace, DispatchIndex.handover, happend, hnone, hall, hannouncement, hlog,
    messageIds_index_installed, List.nil_append, List.append_nil]

/-- A refused load neither registers nor withdraws. -/
theorem isRegistration_load_of_refused {refusal : Refusal}
    (h : (e.load watchTable actionTable t).answer = .error refusal) :
    ∀ event ∈ (e.load watchTable actionTable t).trace, event.isRegistration = false := by
  obtain ⟨table, -, htrace, -⟩ := load_of_refused h
  rw [htrace]
  simp [Event.isRegistration]

/-! ## Runs -/

/-- The messages that the last accepted load of a run registers; none if there is no
accepted load. -/
def registered (operations : List Operation) : List MessageId :=
  match ((initial.calls operations).filter fun call =>
      call.engine.acceptsLoad call.operation).getLast? with
  | some call => call.trace.subscribed
  | none => []

/-- **The index lists the messages that the last accepted load registered**, after every
run. -/
theorem registered_eq (operations : List Operation) :
    registered operations = (initial.run operations).index.messageIds := by
  induction operations using List.reverseRecOn with
  | nil => rfl
  | append_singleton operations operation ih =>
    rw [run_concat, registered, calls_concat, List.filter_append, List.filter_singleton]
    cases haccepts : (initial.run operations).acceptsLoad operation with
    | false =>
      rw [cond_false, List.append_nil, (perform_tables haccepts).2.2, ← ih]
      rfl
    | true =>
      rw [cond_true, List.getLast?_concat]
      cases operation with
      | load watchTable actionTable t =>
        have hengine : ((initial.run operations).perform (.load watchTable actionTable t)).engine =
            (initial.run operations).installed watchTable actionTable := by
          refine (engine_load _ watchTable actionTable t).trans (if_pos haccepts)
        rw [hengine, messageIds_index_installed]
        exact subscribed_load haccepts
      | _ => cases haccepts

end Engine

/-- The registrations that the transports hold after a call, given those that they held
before. -/
def Call.hold (held : List MessageId) (call : Call) : List MessageId :=
  match call.operation with
  | .load _ _ t => call.trace.foldl t.hold held
  | _ => held

namespace Engine

/-- The registrations that are outstanding after a run. -/
def outstanding (operations : List Operation) : List MessageId :=
  (initial.calls operations).foldl Call.hold []

/-- Every load of a run goes over a transport that refuses nothing. -/
def LoadsWillingly (operations : List Operation) : Prop :=
  ∀ watchTable actionTable t, Operation.load watchTable actionTable t ∈ operations → t.IsWilling

variable {e : Engine} {watchTable : WatchTable} {actionTable : ActionTable} {t : Transport}

/-- A load over a willing transport that holds the messages of the old index leaves it
with those of the new one. -/
theorem foldl_hold_load (ht : t.IsWilling) :
    (e.load watchTable actionTable t).trace.foldl t.hold e.index.messageIds =
      (e.load watchTable actionTable t).engine.index.messageIds := by
  cases haccepted : (e.load watchTable actionTable t).answer.isOk with
  | true =>
    obtain ⟨watchpoints, actionpoints, htrace⟩ := trace_load_of_isOk haccepted
    have hwithdrawn := Transport.foldl_hold_withdraw ht e.index.messageIds []
    rw [List.append_nil] at hwithdrawn
    rw [engine_load, if_pos haccepted, htrace, DispatchIndex.handover]
    simp only [List.foldl_append, announcement, List.foldl_cons, List.foldl_nil, Transport.hold,
      hwithdrawn, Transport.foldl_hold_register ht, List.nil_append]
  | false =>
    cases hanswer : (e.load watchTable actionTable t).answer with
    | ok report => rw [hanswer] at haccepted; cases haccepted
    | error refusal =>
      obtain ⟨table, hengine, htrace, -⟩ := load_of_refused hanswer
      rw [hengine, htrace]
      rfl

/-- **What a willing transport holds after a run is what the index lists.** -/
theorem outstanding_eq (operations : List Operation) (hwilling : LoadsWillingly operations) :
    outstanding operations = (initial.run operations).index.messageIds := by
  induction operations using List.reverseRecOn with
  | nil => rfl
  | append_singleton operations operation ih =>
    have hbefore := ih fun watchTable actionTable t hload =>
      hwilling watchTable actionTable t (List.mem_append_left _ hload)
    have hsplit : outstanding (operations ++ [operation]) =
        Call.hold (outstanding operations) ⟨initial.run operations, operation⟩ := by
      rw [outstanding, calls_concat, List.foldl_append]
      rfl
    rw [hsplit, hbefore, run_concat]
    cases operation with
    | load watchTable actionTable t =>
      exact foldl_hold_load (hwilling watchTable actionTable t (by simp))
    | _ => exact congrArg DispatchIndex.messageIds (perform_tables rfl).2.2.symm

/-- **Registrations follow the table in force.** Take any run and any load after it. If
the load is refused, it neither registers nor withdraws a message. If it is accepted,
the sink and the transport see the two reports on its tables and then two rounds, whatever
the transport answers: the messages that the last accepted load before it registered are
withdrawn in the same order, each once, and then the messages of the new table are
registered in the order of first reference, each once; a refusal of the transport is
reported at once, and by one notification. If the transport refuses nothing in the whole
run, the registrations that are outstanding after it are the messages of the loaded
table, each once. -/
theorem registrations_follow_tables (operations : List Operation) :
    let e := initial.run operations
    (∀ watchTable actionTable t,
      let step := e.load watchTable actionTable t
      (step.answer.isOk = false → ∀ event ∈ step.trace, event.isRegistration = false) ∧
      (step.answer.isOk = true →
        step.trace.filter Event.isDelivered =
          announcement watchTable actionTable ++ (registered operations).flatMap t.withdrawal ++
            (messagesOf watchTable).flatMap t.registration ∧
        Trace.subscribed step.trace = messagesOf watchTable ∧
        (registered operations).Nodup ∧ (messagesOf watchTable).Nodup)) ∧
    (LoadsWillingly operations →
      outstanding operations = distinctIds e.messageIds ∧ (outstanding operations).Nodup) := by
  intro e
  have h : Reachable e := ⟨operations, rfl⟩
  have hlisted : e.index.messageIds = distinctIds e.messageIds := by
    rw [h.index_eq, messageIds_ofTable_messageIds]
  refine ⟨fun watchTable actionTable t => ⟨fun hrefused => ?_, fun haccepted => ?_⟩,
    fun hwilling => ?_⟩
  · cases hanswer : (e.load watchTable actionTable t).answer with
    | ok report => rw [hanswer] at hrefused; cases hrefused
    | error refusal => exact isRegistration_load_of_refused hanswer
  · refine ⟨?_, subscribed_load haccepted, ?_, ?_⟩
    · rw [registered_eq]
      exact delivered_load haccepted
    · rw [registered_eq operations, hlisted]
      exact e.nodup_distinctIds
    · rw [← e.distinctIds_install watchTable actionTable]
      exact nodup_distinctIds _
  · rw [outstanding_eq operations hwilling, hlisted]
    exact ⟨rfl, e.nodup_distinctIds⟩

end Engine

end LimitMonitor
