import LimitMonitor.Proofs.Engine.Counters
import LimitMonitor.Proofs.Reception.Scan

/-!
# The counters account for the trace

What the engine counts for itself can be counted from outside. A response that leaves is
asked of the transport once and reported as issued once (`length_requested_perform`). A
message counts where it is not reported as unreferenced (`monitors_receive`), and a request
where an engine that is not disabled answers it without a refusal and its range is not empty
(`carriedOut_sample`). One call keeps the account (`CountCalls.perform`), so a run does
(`countCalls_run`).

Main statement: `counters_account_for_trace`.
-/

namespace LimitMonitor

open Actionpoint

namespace Event

/-- The event reports a message that no watchpoint reads. -/
def isUnreferenced : Event → Bool
  | notify (.unreferencedMessage _) => true
  | _ => false

theorem isResponse_of_request? {event : Event} (h : event.request?.isSome = true) :
    event.isResponse = true := by
  unfold request? at h
  split at h
  · rfl
  · cases h

end Event

namespace Trace

theorem requested_append (first second : Trace) :
    requested (first ++ second) = requested first ++ requested second :=
  List.filterMap_append

/-- A response is asked for among the responses. -/
theorem length_requested (trace : Trace) :
    trace.requested.length =
      (trace.filter Event.isResponse).countP fun event => event.request?.isSome := by
  rw [Event.countP_filter_isResponse (fun _ => Event.isResponse_of_request?), requested,
    List.length_filterMap_eq_countP]

/-- A trace tells of an unreferenced message what its notifications tell. -/
theorem any_isUnreferenced (trace : Trace) :
    trace.any Event.isUnreferenced =
      trace.notifications.any fun notification => (Event.notify notification).isUnreferenced := by
  induction trace with
  | nil => rfl
  | cons event rest ih =>
    have hone : event.isUnreferenced =
        (notifications [event]).any fun n => (Event.notify n).isUnreferenced := by
      cases event with
      | notify notification => exact (Bool.or_false _).symm
      | _ => rfl
    rw [List.any_cons, ih, hone, ← List.any_append, ← notifications_append, List.singleton_append]

end Trace

/-! ## Calls that count -/

namespace Call

/-- The call brings a message that some watchpoint reads: it does not report the message as
unreferenced. -/
def monitors (call : Call) : Bool :=
  match call.operation with
  | .receive _ _ => !call.trace.any Event.isUnreferenced
  | _ => false

/-- The call is a sample request that is carried out: the engine is not disabled, the answer
is no refusal, and the request names every slot or a range that is not empty. -/
def carriedOut (call : Call) : Bool :=
  match call.operation with
  | .sample q =>
    call.engine.mode ≠ .disabled && (call.engine.sample q).answer.isOk &&
      (q.first = everySlot && q.last = everySlot || q.first ≤ q.last)
  | _ => false

end Call

namespace Engine

variable {e : Engine}

/-- The requests that are carried out are those that are answered without a refusal, unless
the engine is disabled or the range empty. -/
theorem carriedOut_sample (q : Request) : Call.carriedOut ⟨e, .sample q⟩ = e.carriesOut q := by
  unfold Call.carriedOut carriesOut Request.namesSlots Request.namesAll sample
  cases hmode : e.mode with
  | disabled => cases q.scope <;> rfl
  | active | passive =>
    unfold Request.scope
    by_cases hall : q.first = everySlot ∧ q.last = everySlot
    · simp [hall, Except.isOk, Except.toBool]
    · have hnamed : (decide (q.first = everySlot) && decide (q.last = everySlot)) = false := by
        simpa using hall
      by_cases hempty : q.last < q.first
      · have hranged : ¬ q.first ≤ q.last := UInt16.not_le.mpr hempty
        simp [hall, hempty, hranged, hnamed]
      · have hranged : q.first ≤ q.last := UInt16.not_lt.mp hempty
        by_cases hinside : q.last.toNat < actionCapacity
        · simp [hall, hempty, hranged, hinside, Except.isOk, Except.toBool]
        · simp [hall, hempty, hnamed, hinside, Except.isOk, Except.toBool]

/-- What the scan reports of a slot concerns the watchpoint in it. -/
theorem isUnreferenced_of_scanReport {m : Message} {p : Predicate} {slot : WatchSlot}
    {notification : Notification} (h : e.scanReport m p slot = some notification) :
    (Event.notify notification).isUnreferenced = false := by
  unfold scanReport at h
  split at h
  · next fault _ =>
    obtain rfl := Option.some.inj h
    cases fault <;> rfl
  · cases h

/-- **A message that no watchpoint reads is reported as such**, and no other is. -/
theorem Reachable.monitors_receive (h : Reachable e) (m : Message) (p : Predicate) :
    Call.monitors ⟨e, .receive m p⟩ = e.takesUp m := by
  have htrace : Call.trace ⟨e, .receive m p⟩ = (e.scan m p).trace :=
    congrArg Step.trace (h.receive_eq m p)
  rw [Call.monitors, takesUp, h.lookup_eq_readers, htrace, Trace.any_isUnreferenced,
    notifications_scan]
  cases hreaders : e.readers m.id with
  | nil => rfl
  | cons slot rest =>
    have hsilent : ((slot :: rest).filterMap (e.scanReport m p)).any
        (fun notification => (Event.notify notification).isUnreferenced) = false := by
      rw [List.any_eq_false]
      intro notification hmem
      obtain ⟨_, -, hreport⟩ := List.mem_filterMap.mp hmem
      rw [isUnreferenced_of_scanReport hreport]
      exact Bool.false_ne_true
    rw [if_neg (List.cons_ne_nil slot rest), hsilent]
    rfl

/-! ## Responses -/

/-- A change asks for a response exactly if it reports one as issued. -/
theorem countP_request?_response (c : Change) (slot : ActionSlot) (mode : Mode) (r : Record) :
    (c.response slot mode r).countP (fun event => event.request?.isSome) =
      (c.response slot mode r).countP Event.isIssued := by
  cases c with
  | sample a outcome =>
    simp only [Change.response]
    split
    · cases mode <;> rfl
    · rfl
  | _ => rfl

variable (e) in
/-- **What an operation asks the transport for, it reports as issued.** -/
theorem length_requested_perform (operation : Operation) :
    (e.perform operation).trace.requested.length = (e.perform operation).trace.issues := by
  rw [Trace.length_requested, ← (Trace.issues_filter_isResponse _).1, Trace.issues,
    filter_isResponse_perform, List.countP_flatMap, List.countP_flatMap]
  refine congrArg List.sum (List.map_congr_left fun slot _ => ?_)
  exact countP_request?_response _ slot e.mode _

/-- So do the calls of a run. -/
theorem length_requested_calls (calls : List Call) :
    (Trace.requested (calls.flatMap Call.trace)).length =
      Trace.issues (calls.flatMap Call.trace) := by
  induction calls with
  | nil => rfl
  | cons call rest ih =>
    have hcall : call.trace.requested.length = call.trace.issues :=
      call.engine.length_requested_perform call.operation
    rw [List.flatMap_cons, Trace.requested_append, List.length_append, Trace.issues_append, ih,
      hcall]

/-! ## Runs -/

/-- The counters of samples and of messages have counted these calls. -/
structure CountCalls (c : Counters) (calls : List Call) : Prop where
  samples : c.samples.Counts (calls.countP Call.carriedOut)
  messages : c.messages.Counts (calls.countP Call.monitors)

theorem countCalls_zero : CountCalls .zero [] := ⟨Counter.counts_zero, Counter.counts_zero⟩

/-- A counter that steps with the calls of one kind has counted one call more. -/
theorem counts_concat {c : Counter} {calls : List Call} {p : Call → Bool}
    (h : c.Counts (calls.countP p)) (call : Call) :
    (if p call then c.next else c).Counts ((calls ++ [call]).countP p) := by
  rw [List.countP_append, List.countP_singleton]
  split
  · exact h.next
  · exact h

/-- **One more call** is counted as it shows in the trace, unless it resets the counters. -/
theorem CountCalls.perform {calls : List Call} (h : CountCalls e.counters calls)
    (reachable : Reachable e) {operation : Operation} (hkept : operation.resetsCounters = false) :
    CountCalls (e.perform operation).engine.counters (calls ++ [⟨e, operation⟩]) := by
  have hsamples := counts_concat h.samples ⟨e, operation⟩
  have hmessages := counts_concat h.messages ⟨e, operation⟩
  have hcounters := e.counters_perform operation
  cases operation with
  | sample q =>
    rw [carriedOut_sample] at hsamples
    refine ⟨?_, ?_⟩
    · rw [hcounters, (e.counters_sample q).2.1]
      exact hsamples
    · rw [hcounters, (e.counters_sample q).2.2.1]
      exact hmessages
  | receive m p =>
    rw [reachable.monitors_receive] at hmessages
    refine ⟨?_, ?_⟩
    · have hsame : (e.perform (.receive m p)).engine.counters.samples = e.counters.samples := by
        rw [hcounters]
        split <;> rfl
      rw [hsame]
      exact hsamples
    · have hnext : (e.perform (.receive m p)).engine.counters.messages =
          if e.takesUp m then e.counters.messages.next else e.counters.messages := by
        rw [hcounters]
        split <;> rfl
      rw [hnext]
      exact hmessages
  | resetCounters => cases hkept
  | _ => rw [hcounters]; exact ⟨hsamples, hmessages⟩

/-- **The counters of samples and messages have counted the calls** since they were last
reset. -/
theorem countCalls_run (operations : List Operation) :
    CountCalls (initial.run operations).counters (initial.sinceReset operations) := by
  induction operations using List.reverseRecOn with
  | nil => exact countCalls_zero
  | append_singleton operations operation ih =>
    rw [run_concat, sinceReset_concat]
    cases hreset : operation.resetsCounters with
    | true =>
      cases operation with
      | resetCounters => exact countCalls_zero
      | _ => cases hreset
    | false => exact ih.perform ⟨operations, rfl⟩ hreset

/-- **The counters account for the trace.** After any run, take the calls since the counters
were last reset, or all calls if they never were, and what they did to the world. The counter
of responses is the number of responses that the transport was asked for, and also the number
of those that were reported as issued; the counter of suppressed responses is the number of
those that were reported as suppressed. The counter of messages is the number of messages that
were not reported as unreferenced, and the counter of samples the number of requests that an
engine which was not disabled answered without a refusal, and that named every slot or a range
that is not empty. Each counter stops at its greatest value. No other call affects any of
them. -/
theorem counters_account_for_trace (operations : List Operation) :
    let counters := (initial.run operations).counters
    let calls := initial.sinceReset operations
    let trace := initial.traceSinceReset operations
    counters.responses.toNat = min trace.requested.length 0xFFFFFFFF ∧
    counters.responses.toNat = min trace.issues 0xFFFFFFFF ∧
    counters.suppressed.toNat = min trace.suppressions 0xFFFFFFFF ∧
    counters.messages.toNat = min (calls.countP Call.monitors) 0xFFFFFFFF ∧
    counters.samples.toNat = min (calls.countP Call.carriedOut) 0xFFFFFFFF ∧
    ∀ operation : Operation, match operation with
      | .sample _ | .receive _ _ => True
      | .resetCounters => ((initial.run operations).perform operation).engine.counters = .zero
      | _ => ((initial.run operations).perform operation).engine.counters = counters := by
  intro counters calls trace
  have htallies := tallies_run operations
  have hcalls := countCalls_run operations
  have hrequested : trace.requested.length = trace.issues := length_requested_calls calls
  refine ⟨?_, htallies.responses, htallies.suppressed, hcalls.messages, hcalls.samples,
    fun operation => ?_⟩
  · rw [hrequested]
    exact htallies.responses
  · have hcounters := (initial.run operations).counters_perform operation
    cases operation with
    | sample | receive => trivial
    | _ => exact hcounters

end Engine

end LimitMonitor
