import LimitMonitor.Actionpoint.Sample

/-!
# What one sample does

A sample of an active or passive actionpoint folds one outcome into its record
(`sample_eq_note`). Of what the record keeps, the streak follows the outcome alone
(`streak_note`), and the state changes only if the sample triggers (`state_note`):
the actionpoint is active, it fails, and the failure brings the streak to the
threshold. The response leaves with that sample and with no other
(`filter_isResponse_sample`), and so does what it tells the engine to count
(`trigger_sample`). Whatever else a sample says is about its own slot (`emits_sample`).
-/

namespace LimitMonitor

namespace Event

/-- The event sends a response, or reports one that was sent or suppressed. -/
def isResponse : Event → Bool
  | respond _ | notify (.responseIssued _ _ _ _ _ _) | notify (.responseSuppressed _ _ _) => true
  | _ => false

/-- The event reports that the actionpoint in a slot triggered. -/
def isTriggerOf (slot : ActionSlot) : Event → Bool
  | notify (.responseIssued number _ _ _ _ _) | notify (.responseSuppressed number _ _) =>
    number = slotNumber slot
  | _ => false

/-- The report of a trigger belongs to a response. -/
theorem isResponse_of_isTriggerOf {slot : ActionSlot} {event : Event}
    (h : event.isTriggerOf slot = true) : event.isResponse = true := by
  unfold isTriggerOf at h
  split at h
  · rfl
  · rfl
  · cases h

/-- What is counted among the responses only is counted there. -/
theorem countP_filter_isResponse {p : Event → Bool}
    (h : ∀ event, p event = true → event.isResponse = true) (trace : Trace) :
    (trace.filter isResponse).countP p = trace.countP p := by
  rw [List.countP_filter]
  refine List.countP_congr fun event _ => ?_
  rw [Bool.and_eq_true]
  exact ⟨fun hp => hp.1, fun hp => ⟨hp, h event hp⟩⟩

end Event

namespace Actionpoint

/-- The outcome of the equation over the given verdicts. A malformed equation
counts as an error. -/
def outcome (a : Actionpoint) (verdicts : WatchSlot → Verdict) : Outcome :=
  match Equation.evaluate verdicts a.equation.toList with
  | .ok outcome => outcome
  | .error _ => .error

/-- The response of the actionpoint in a slot, after so many failures. -/
def response (a : Actionpoint) (slot : ActionSlot) (mode : Mode) (streak : Counter) : Trace :=
  match mode with
  | .active =>
    [.respond a.responseId,
      .notify (.responseIssued (slotNumber slot) streak a.responseId a.eventId a.severity
        a.eventText)]
  | .passive | .disabled => [.notify (.responseSuppressed (slotNumber slot) streak a.responseId)]

/-- A sample with this outcome triggers the actionpoint with this record. -/
def isTriggered (a : Actionpoint) (r : Record) (outcome : Outcome) : Bool :=
  outcome = .fail && r.state = .active && a.reached r.streak.next

/-- The streak after a sample with this outcome. -/
def streakAfter (streak : Counter) : Outcome → Counter
  | .fail => streak.next
  | .pass | .stale => .zero
  | .error => streak

variable (a : Actionpoint) (slot : ActionSlot) (mode : Mode) (r : Record)

theorem isTriggered_fail :
    a.isTriggered r .fail = (decide (r.state = .active) && a.reached r.streak.next) := by
  simp [isTriggered]

theorem isTriggered_of_ne {outcome : Outcome} (h : outcome ≠ .fail) :
    a.isTriggered r outcome = false := by
  simp [isTriggered, h]

variable {r} in
/-- An actionpoint that is not sampled does not trigger. -/
theorem isTriggered_of_not_sampled (h : r.state.isSampled = false) (outcome : Outcome) :
    a.isTriggered r outcome = false := by
  have hinactive : r.state ≠ .active := fun hactive => by
    rw [hactive] at h
    cases h
  simp [isTriggered, hinactive]

/-! ## Samples and outcomes -/

variable {r} in
/-- An actionpoint that is neither active nor passive is left as it is. -/
theorem sample_eq_quiet (h : r.state.isSampled = false) (verdicts : WatchSlot → Verdict) :
    a.sample slot mode verdicts r = .quiet r [] := by
  simp [sample, h]

variable {r} in
/-- **A sample folds the outcome of the equation into the record**, and triggers what the
outcome triggers. -/
theorem sample_eq_note (h : r.state.isSampled = true) (verdicts : WatchSlot → Verdict) :
    (a.sample slot mode verdicts r).record = (a.note slot mode r (a.outcome verdicts)).record ∧
      (a.sample slot mode verdicts r).trigger =
        (a.note slot mode r (a.outcome verdicts)).trigger := by
  simp only [sample, h, Bool.not_true, Bool.false_eq_true, if_false, outcome]
  cases Equation.evaluate verdicts a.equation.toList with
  | ok outcome => exact ⟨rfl, rfl⟩
  | error malformed => exact ⟨rfl, rfl⟩

variable {r} in
/-- The trace of a sample is that of the outcome, but for what is said of a malformed
equation. -/
theorem filter_sample (h : r.state.isSampled = true) (verdicts : WatchSlot → Verdict)
    {p : Event → Bool} (hlog : ∀ malformed, p (.log (.illegalEquation slot malformed)) = false)
    (hnotify : ∀ malformed, p (.notify (.illegalEquation (slotNumber slot) malformed)) = false) :
    (a.sample slot mode verdicts r).trace.filter p =
      (a.note slot mode r (a.outcome verdicts)).trace.filter p := by
  simp only [sample, h, Bool.not_true, Bool.false_eq_true, if_false, outcome]
  cases Equation.evaluate verdicts a.equation.toList with
  | ok outcome => rfl
  | error malformed => simp [hlog, hnotify]

/-! ## Failures at the threshold -/

theorem filter_isResponse_capped (count : Counter) (cap : UInt16) {notification : Notification}
    (h : Event.isResponse (.notify notification) = false) :
    (capped count cap notification).filter Event.isResponse = [] := by
  unfold capped
  split
  · simp [h]
  · rfl

variable {r} in
/-- An active actionpoint whose streak has reached the threshold triggers. -/
theorem respond_of_reached (h : r.state = .active ∧ a.reached r.streak = true) :
    a.respond slot mode r = a.trigger slot mode r := by
  simp only [respond, h, Bool.not_true, Bool.false_eq_true, if_false]

variable {r} in
/-- Any other keeps its state and does not respond. -/
theorem respond_of_not_reached (h : ¬(r.state = .active ∧ a.reached r.streak = true)) :
    (a.respond slot mode r).trigger = none ∧ (a.respond slot mode r).record.state = r.state ∧
      (a.respond slot mode r).trace.filter Event.isResponse = [] := by
  unfold respond
  split
  · exact ⟨rfl, rfl, rfl⟩
  · next hreached =>
    rw [Bool.not_eq_true', Bool.not_eq_false] at hreached
    split
    · next hactive => exact absurd ⟨hactive, hreached⟩ h
    · exact ⟨rfl, rfl, filter_isResponse_capped _ _ rfl⟩
    all_goals exact ⟨rfl, rfl, rfl⟩

/-! ## The record -/

theorem state_trigger : (a.trigger slot mode r).record.state = .passive := by
  cases mode <;> rfl

theorem streak_trigger : (a.trigger slot mode r).record.streak = r.streak := by
  cases mode <;> rfl

theorem streak_respond : (a.respond slot mode r).record.streak = r.streak := by
  unfold respond
  split
  · rfl
  · split
    · exact a.streak_trigger slot mode r
    all_goals rfl

theorem outcome_respond : (a.respond slot mode r).record.outcome = r.outcome := by
  unfold respond
  split
  · rfl
  · split
    · cases mode <;> rfl
    all_goals rfl

theorem state_respond :
    (a.respond slot mode r).record.state =
      if r.state = .active ∧ a.reached r.streak then .passive else r.state := by
  split
  · next h => rw [a.respond_of_reached slot mode h, state_trigger]
  · next h => exact (a.respond_of_not_reached slot mode h).2.1

/-- **The streak follows the outcomes alone.** -/
theorem streak_note (outcome : Outcome) :
    (a.note slot mode r outcome).record.streak = streakAfter r.streak outcome := by
  cases outcome with
  | fail =>
    simp only [note, noteFail, streakAfter]
    split <;> exact a.streak_respond slot mode _
  | pass =>
    simp only [note, notePass, streakAfter]
    split <;> rfl
  | stale => rfl
  | error => rfl

/-- The record keeps the outcome that is folded into it. -/
theorem outcome_note (outcome : Outcome) :
    (a.note slot mode r outcome).record.outcome = outcome := by
  cases outcome with
  | fail =>
    simp only [note, noteFail]
    split <;> exact a.outcome_respond slot mode _
  | pass =>
    simp only [note, notePass]
    split <;> rfl
  | stale => rfl
  | error => rfl

/-- **A sample that triggers leaves the actionpoint passive; no other changes the
state.** -/
theorem state_note (outcome : Outcome) :
    (a.note slot mode r outcome).record.state =
      if a.isTriggered r outcome then .passive else r.state := by
  cases outcome with
  | fail =>
    simp only [note, noteFail, isTriggered_fail, Bool.and_eq_true, decide_eq_true_eq]
    split <;> exact a.state_respond slot mode _
  | pass =>
    simp only [note, notePass, a.isTriggered_of_ne r (show Outcome.pass ≠ .fail by decide)]
    split <;> rfl
  | stale => rfl
  | error => rfl

/-! ## The response -/

theorem filter_isResponse_trigger :
    (a.trigger slot mode r).trace.filter Event.isResponse = a.response slot mode r.streak := by
  cases mode <;> rfl

theorem filter_isResponse_respond :
    (a.respond slot mode r).trace.filter Event.isResponse =
      if r.state = .active ∧ a.reached r.streak then a.response slot mode r.streak else [] := by
  split
  · next h => rw [a.respond_of_reached slot mode h, filter_isResponse_trigger]
  · next h => exact (a.respond_of_not_reached slot mode h).2.2

theorem filter_isResponse_note (outcome : Outcome) :
    (a.note slot mode r outcome).trace.filter Event.isResponse =
      if a.isTriggered r outcome then a.response slot mode r.streak.next else [] := by
  cases outcome with
  | fail =>
    simp only [note, noteFail, isTriggered_fail, Bool.and_eq_true, decide_eq_true_eq]
    split
    · rw [List.filter_append, filter_isResponse_capped _ _ rfl, List.nil_append]
      exact a.filter_isResponse_respond slot mode _
    · exact a.filter_isResponse_respond slot mode _
  | pass =>
    simp only [note, notePass, a.isTriggered_of_ne r (show Outcome.pass ≠ .fail by decide)]
    split
    · exact filter_isResponse_capped _ _ rfl
    · rfl
  | stale => rfl
  | error => rfl

/-- **The response leaves with the sample that triggers**, and with no other. -/
theorem filter_isResponse_sample (verdicts : WatchSlot → Verdict) :
    (a.sample slot mode verdicts r).trace.filter Event.isResponse =
      if a.isTriggered r (a.outcome verdicts) then a.response slot mode r.streak.next else [] := by
  cases hsampled : r.state.isSampled with
  | false =>
    rw [a.sample_eq_quiet slot mode hsampled, a.isTriggered_of_not_sampled hsampled]
    rfl
  | true =>
    rw [a.filter_sample slot mode hsampled verdicts (fun _ => rfl) (fun _ => rfl),
      filter_isResponse_note]

/-! ## The trigger -/

/-- What a trigger leads to in a mode. -/
def Trigger.of : Mode → Trigger
  | .active => .issued
  | .passive | .disabled => .suppressed

theorem trigger_respond :
    (a.respond slot mode r).trigger =
      if r.state = .active ∧ a.reached r.streak then some (Trigger.of mode) else none := by
  split
  · next h =>
    rw [a.respond_of_reached slot mode h]
    cases mode <;> rfl
  · next h => exact (a.respond_of_not_reached slot mode h).1

theorem trigger_note (outcome : Outcome) :
    (a.note slot mode r outcome).trigger =
      if a.isTriggered r outcome then some (Trigger.of mode) else none := by
  cases outcome with
  | fail =>
    simp only [note, noteFail, isTriggered_fail, Bool.and_eq_true, decide_eq_true_eq]
    split <;> exact a.trigger_respond slot mode _
  | pass =>
    simp only [note, notePass, a.isTriggered_of_ne r (show Outcome.pass ≠ .fail by decide)]
    split <;> rfl
  | stale => rfl
  | error => rfl

/-- **The sample says that it triggers**, and in an active engine that the response is sent. -/
theorem trigger_sample (verdicts : WatchSlot → Verdict) :
    (a.sample slot mode verdicts r).trigger =
      if a.isTriggered r (a.outcome verdicts) then some (Trigger.of mode) else none := by
  cases hsampled : r.state.isSampled with
  | false =>
    rw [a.sample_eq_quiet slot mode hsampled, a.isTriggered_of_not_sampled hsampled]
    rfl
  | true => rw [(a.sample_eq_note slot mode hsampled verdicts).2, trigger_note]

/-! ## The trace -/

/-- What a sample of the actionpoint in a slot, over the given verdicts, can do to the
world. -/
inductive Emits (a : Actionpoint) (slot : ActionSlot) (verdicts : WatchSlot → Verdict) :
    Event → Prop
  /-- The log says that the equation is malformed. -/
  | logMalformed {malformed : Malformed} :
      Equation.evaluate verdicts a.equation.toList = .error malformed →
      Emits a slot verdicts (.log (.illegalEquation slot malformed))
  /-- Operators are told so. -/
  | malformed {malformed : Malformed} :
      Equation.evaluate verdicts a.equation.toList = .error malformed →
      Emits a slot verdicts (.notify (.illegalEquation (slotNumber slot) malformed))
  /-- The outcome is an error. -/
  | error : Emits a slot verdicts (.notify (.actionError (slotNumber slot)))
  /-- The actionpoint fails after a pass. -/
  | failed : Emits a slot verdicts (.notify (.passToFail (slotNumber slot)))
  /-- The actionpoint passes after a failure. -/
  | recovered : Emits a slot verdicts (.notify (.failToPass (slotNumber slot)))
  /-- The actionpoint fails while it is passive. -/
  | failedAgain (streak : Counter) :
      Emits a slot verdicts (.notify (.failedWhilePassive (slotNumber slot) streak a.responseId))
  /-- The log says that the response is requested. -/
  | logRequest : Emits a slot verdicts (.log (.responseRequested slot a.responseId))
  /-- The transport is asked for the response. -/
  | request : Emits a slot verdicts (.respond a.responseId)
  /-- The response was sent. -/
  | issued (streak : Counter) :
      Emits a slot verdicts (.notify (.responseIssued (slotNumber slot) streak a.responseId
        a.eventId a.severity a.eventText))
  /-- The response was suppressed. -/
  | suppressed (streak : Counter) :
      Emits a slot verdicts (.notify (.responseSuppressed (slotNumber slot) streak a.responseId))

variable (verdicts : WatchSlot → Verdict)

variable {a slot verdicts} in
theorem emits_capped (count : Counter) (cap : UInt16) {notification : Notification}
    (h : a.Emits slot verdicts (.notify notification)) :
    ∀ event ∈ capped count cap notification, a.Emits slot verdicts event := by
  intro event hevent
  unfold capped at hevent
  split at hevent
  · rw [List.mem_singleton.mp hevent]
    exact h
  · cases hevent

theorem emits_trigger : ∀ event ∈ (a.trigger slot mode r).trace, a.Emits slot verdicts event := by
  cases mode with
  | active =>
    simp only [trigger, List.forall_mem_cons]
    exact ⟨.logRequest, .request, .issued _, fun _ h => absurd h List.not_mem_nil⟩
  | passive | disabled =>
    simp only [trigger, List.forall_mem_cons]
    exact ⟨.suppressed _, fun _ h => absurd h List.not_mem_nil⟩

theorem emits_respond : ∀ event ∈ (a.respond slot mode r).trace, a.Emits slot verdicts event := by
  unfold respond
  split
  · exact fun _ h => absurd h List.not_mem_nil
  · split
    · exact a.emits_trigger slot mode _ verdicts
    · exact emits_capped _ _ (.failedAgain _)
    all_goals exact fun _ h => absurd h List.not_mem_nil

theorem emits_note (outcome : Outcome) :
    ∀ event ∈ (a.note slot mode r outcome).trace, a.Emits slot verdicts event := by
  cases outcome with
  | fail =>
    simp only [note, noteFail]
    split
    · exact List.forall_mem_append.mpr
        ⟨emits_capped _ _ .failed, a.emits_respond slot mode _ verdicts⟩
    · exact a.emits_respond slot mode _ verdicts
  | pass =>
    simp only [note, notePass]
    split
    · exact emits_capped _ _ .recovered
    · exact fun _ h => absurd h List.not_mem_nil
  | stale => exact fun _ h => absurd h List.not_mem_nil
  | error => exact List.forall_mem_singleton.mpr .error

/-- **What a sample does to the world** is about the actionpoint in its slot. -/
theorem emits_sample :
    ∀ event ∈ (a.sample slot mode verdicts r).trace, a.Emits slot verdicts event := by
  unfold sample
  split
  · exact fun _ h => absurd h List.not_mem_nil
  · split
    · exact a.emits_note slot mode r verdicts _
    · next malformed hevaluate =>
      exact List.forall_mem_cons.mpr ⟨.logMalformed hevaluate, List.forall_mem_cons.mpr
        ⟨.malformed hevaluate, a.emits_note slot mode r verdicts .error⟩⟩

end Actionpoint

end LimitMonitor
