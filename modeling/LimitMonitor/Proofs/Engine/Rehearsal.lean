import LimitMonitor.Proofs.Watchpoint.Staleness

/-!
# The passive mode rehearses the active one

Two runs make the same calls, but where one takes the engine to the active mode the other
may take it to the passive one. Their engines differ in little (`Engine.Rehearses`): the
mode, the two counters of responses, and in each actionpoint record the two counts of
responses. A call reads none of these but the mode, and the mode only where an
actionpoint triggers: there one run issues the response and the other suppresses it
(`rehearses_trigger`). So each call leaves two engines that differ as little and tells
operators the same, up to that (`Engine.Rehearses.perform`).

Main statement: `passive_rehearses_active`.
-/

namespace LimitMonitor

/-! ## What differs -/

namespace Operation

/-- The operations are the same, or both take the engine to a mode in which it samples. -/
inductive Rehearses : Operation → Operation → Prop
  | same (operation : Operation) : Rehearses operation operation
  | mode {mode mode' : Mode} : mode ≠ .disabled → mode' ≠ .disabled →
      Rehearses (.setMode mode) (.setMode mode')

theorem Rehearses.resetsCounters {operation operation' : Operation}
    (h : operation.Rehearses operation') :
    operation'.resetsCounters = operation.resetsCounters := by
  cases h <;> rfl

end Operation

namespace Notification

/-- The notifications are the same, or one reports a response as issued that the other
reports as suppressed, of the same actionpoint after as many failures. -/
inductive Rehearses : Notification → Notification → Prop
  | same (notification : Notification) : Rehearses notification notification
  | suppressed (actionpoint : UInt16) (failures : Counter) (responseId eventId : UInt16)
      (level : Severity) (eventText : EventText) :
      Rehearses (.responseIssued actionpoint failures responseId eventId level eventText)
        (.responseSuppressed actionpoint failures responseId)
  | issued (actionpoint : UInt16) (failures : Counter) (responseId eventId : UInt16)
      (level : Severity) (eventText : EventText) :
      Rehearses (.responseSuppressed actionpoint failures responseId)
        (.responseIssued actionpoint failures responseId eventId level eventText)

/-- The notification reports a response, as issued or as suppressed. -/
def reportsResponse : Notification → Bool
  | responseIssued _ _ _ _ _ _ | responseSuppressed _ _ _ => true
  | _ => false

theorem Rehearses.reportsResponse {notification notification' : Notification}
    (h : notification.Rehearses notification') :
    notification'.reportsResponse = notification.reportsResponse := by
  cases h <;> rfl

end Notification

namespace Trace

/-- Operators are told the same, up to responses that are issued or suppressed. -/
def Rehearses (trace trace' : Trace) : Prop :=
  List.Forall₂ Notification.Rehearses trace.notifications trace'.notifications

theorem Rehearses.refl (trace : Trace) : trace.Rehearses trace :=
  List.forall₂_same.mpr fun notification _ => .same notification

theorem Rehearses.append {first first' second second' : Trace} (h : first.Rehearses first')
    (h' : second.Rehearses second') : (first ++ second).Rehearses (first' ++ second') := by
  unfold Rehearses
  rw [notifications_append, notifications_append]
  exact List.rel_append h h'

/-- Traces that are put together part by part. -/
theorem Rehearses.flatMap {α : Type} {f g : α → Trace} (items : List α)
    (h : ∀ item, (f item).Rehearses (g item)) : Rehearses (items.flatMap f) (items.flatMap g) := by
  induction items with
  | nil => exact .refl []
  | cons item rest ih =>
    rw [List.flatMap_cons, List.flatMap_cons]
    exact (h item).append ih

/-- The responses that a trace reports, as issued or as suppressed. -/
theorem issues_add_suppressions (trace : Trace) :
    trace.issues + trace.suppressions =
      trace.notifications.countP Notification.reportsResponse := by
  induction trace with
  | nil => rfl
  | cons event rest ih =>
    have hone : issues [event] + suppressions [event] =
        (notifications [event]).countP Notification.reportsResponse := by
      cases event with
      | notify notification => cases notification <;> rfl
      | _ => rfl
    rw [← List.singleton_append, issues_append, suppressions_append, notifications_append,
      List.countP_append, ← ih, ← hone]
    omega

/-- Traces that rehearse each other report as many responses. -/
theorem Rehearses.responses {trace trace' : Trace} (h : trace.Rehearses trace') :
    trace'.issues + trace'.suppressions = trace.issues + trace.suppressions := by
  rw [issues_add_suppressions, issues_add_suppressions]
  rw [List.countP_eq_length_filter, List.countP_eq_length_filter]
  refine (List.rel_filter (fun notification notification' hrehearses => ?_) h).length_eq.symm
  exact iff_of_eq (congrArg (· = true) hrehearses.reportsResponse.symm)

end Trace

/-- The calls rehearse each other: they tell operators the same, up to responses that are
issued or suppressed. -/
def Call.Rehearses (call call' : Call) : Prop := call.trace.Rehearses call'.trace

/-! ## Samples -/

namespace Actionpoint

/-- The records differ at most in the two counts of responses. -/
def Record.Rehearses (r r' : Record) : Prop :=
  ∃ responses announcements, r' = { r with responses, announcements }

/-- The samples leave records that differ as little, and tell operators the same, up to
responses that are issued or suppressed. -/
structure Sample.Rehearses (sample sample' : Sample) : Prop where
  record : sample.record.Rehearses sample'.record
  trace : sample.trace.Rehearses sample'.trace

variable (a : Actionpoint) (slot : ActionSlot) (mode mode' : Mode) {r r' : Record}

theorem Sample.rehearses_quiet (h : r.Rehearses r') (trace : Trace) :
    (Sample.quiet r trace).Rehearses (Sample.quiet r' trace) :=
  ⟨h, .refl trace⟩

/-- **The one place where the mode matters**: one sample issues the response, and the
other suppresses it. -/
theorem rehearses_trigger (h : r.Rehearses r') :
    (a.trigger slot mode r).Rehearses (a.trigger slot mode' r') := by
  obtain ⟨responses, announcements, rfl⟩ := h
  cases mode <;> cases mode'
  all_goals
    refine ⟨⟨_, _, rfl⟩, ?_⟩
    first
    | exact .cons (.same _) .nil
    | exact .cons (.suppressed _ _ _ _ _ _) .nil
    | exact .cons (.issued _ _ _ _ _ _) .nil

theorem rehearses_respond (h : r.Rehearses r') :
    (a.respond slot mode r).Rehearses (a.respond slot mode' r') := by
  have htrigger := a.rehearses_trigger slot mode mode' h
  obtain ⟨responses, announcements, rfl⟩ := h
  simp only [respond]
  split
  · exact Sample.rehearses_quiet ⟨_, _, rfl⟩ []
  · obtain ⟨_, state, _⟩ := r
    cases state with
    | active => exact htrigger
    | _ => exact Sample.rehearses_quiet ⟨_, _, rfl⟩ _

theorem rehearses_note (h : r.Rehearses r') (outcome : Outcome) :
    (a.note slot mode r outcome).Rehearses (a.note slot mode' r' outcome) := by
  obtain ⟨responses, announcements, rfl⟩ := h
  cases outcome with
  | fail =>
    simp only [note, noteFail]
    split
    · have hrespond := a.rehearses_respond slot mode mode' (r := { r with
        outcome := .fail, streak := r.streak.next, failures := r.failures.next,
        onsets := r.onsets.next }) ⟨responses, announcements, rfl⟩
      exact ⟨hrespond.record, (Trace.Rehearses.refl _).append hrespond.trace⟩
    · exact a.rehearses_respond slot mode mode' ⟨responses, announcements, rfl⟩
  | pass =>
    simp only [note, notePass]
    split <;> exact Sample.rehearses_quiet ⟨_, _, rfl⟩ _
  | stale | error => exact Sample.rehearses_quiet ⟨_, _, rfl⟩ _

/-- **A sample rehearses a sample over the same verdicts**, in any two modes. -/
theorem rehearses_sample (h : r.Rehearses r') (verdicts : WatchSlot → Verdict) :
    (a.sample slot mode verdicts r).Rehearses (a.sample slot mode' verdicts r') := by
  have hnote := a.rehearses_note slot mode mode' h
  obtain ⟨responses, announcements, rfl⟩ := h
  unfold sample
  cases r.state.isSampled with
  | false => exact Sample.rehearses_quiet ⟨_, _, rfl⟩ []
  | true =>
    cases Equation.evaluate verdicts a.equation.toList with
    | ok outcome => exact hnote outcome
    | error malformed =>
      exact ⟨(hnote .error).record, (Trace.Rehearses.refl _).append (hnote .error).trace⟩

end Actionpoint

/-! ## Engines -/

namespace Engine

open Actionpoint

/-- **The engines differ in what the mode decides alone**: in the mode itself, as long as
both sample or neither does, and in the counts of responses. -/
structure Rehearses (e e' : Engine) : Prop where
  mode : e'.mode = .disabled ↔ e.mode = .disabled
  samples : e'.counters.samples = e.counters.samples
  messages : e'.counters.messages = e.counters.messages
  watchpoints : e'.watchpoints = e.watchpoints
  actionpoints : e'.actionpoints = e.actionpoints
  index : e'.index = e.index
  watchRecords : e'.watchRecords = e.watchRecords
  /-- The records of a slot differ at most in the two counts of responses. -/
  actionRecords : ∀ slot : ActionSlot,
    (e.actionRecords.get slot).Rehearses (e'.actionRecords.get slot)

/-- Operators are told only of loads, messages and samples. -/
theorem notifications_of_silent (e : Engine) (operation : Operation) :
    match operation with
    | .load _ _ _ | .receive _ _ | .sample _ => True
    | _ => (e.perform operation).trace.notifications = [] := by
  cases operation with
  | load | receive | sample => trivial
  | setMode | setState | switchOff | resetActionpoints | resetWatchpoints =>
    simp only [perform, Step.reply, setMode, setState, switchOff, resetActionpoints,
      resetWatchpoints]
    repeat' split
    all_goals rfl
  | age | resetCounters | housekeep | snapshot => rfl

namespace Rehearses

variable {e e' : Engine} (h : e.Rehearses e')
include h

theorem verdicts : e'.verdicts = e.verdicts := by
  funext slot
  rw [Engine.verdicts, h.watchRecords]
  rfl

theorem state (slot : ActionSlot) :
    (e'.actionRecords.get slot).state = (e.actionRecords.get slot).state := by
  obtain ⟨responses, announcements, hrecord⟩ := h.actionRecords slot
  rw [hrecord]

/-- Both engines sample the same slots. -/
theorem samples_eq (q : Request) : e'.samples q = e.samples q := by
  funext slot
  simp only [Engine.samples, ne_eq, h.mode]

/-- An operation does the same to a slot of both engines. -/
theorem change (slot : ActionSlot) (operation : Operation) :
    e'.change slot operation = e.change slot operation := by
  cases operation with
  | load watchTable actionTable t => simp only [Engine.change, acceptsLoad_eq e' e]
  | sample q =>
    simp only [Engine.change, h.actionpoints, h.samples_eq, h.state, h.verdicts]
  | setState target state => simp only [Engine.change, h.state]
  | switchOff target => simp only [Engine.change, h.state]
  | _ => rfl

/-- A message does the same to the watchpoint records of both, and to the world. -/
theorem receive (m : Message) (p : Predicate) :
    (e'.receive m p).engine.watchRecords = (e.receive m p).engine.watchRecords ∧
      (e'.receive m p).trace = (e.receive m p).trace := by
  unfold Engine.receive
  rw [h.index, h.watchpoints, h.watchRecords]
  split
  · exact ⟨h.watchRecords, rfl⟩
  · exact ⟨rfl, rfl⟩

/-- A load of either engine says the same. -/
theorem load (watchTable : WatchTable) (actionTable : ActionTable) (t : Transport) :
    (e'.load watchTable actionTable t).trace = (e.load watchTable actionTable t).trace := by
  simp only [Engine.load, h.index]
  split
  · rfl
  · split <;> rfl

theorem carriesOut (q : Request) : e'.carriesOut q = e.carriesOut q := by
  simp only [Engine.carriesOut, ne_eq, h.mode]

theorem ages (q : Request) : e'.ages q = e.ages q := by
  rw [Engine.ages, Engine.ages, h.carriesOut]

/-! ## One call -/

theorem tables_perform (operation : Operation) :
    (e'.perform operation).engine.watchpoints = (e.perform operation).engine.watchpoints ∧
      (e'.perform operation).engine.actionpoints = (e.perform operation).engine.actionpoints ∧
      (e'.perform operation).engine.index = (e.perform operation).engine.index := by
  cases haccepts : e.acceptsLoad operation with
  | true =>
    cases operation with
    | load watchTable actionTable t =>
      have haccepts' := (acceptsLoad_eq e' e _).trans haccepts
      simp only [perform, Step.reply, engine_load_of_isOk haccepts, engine_load_of_isOk haccepts']
      exact ⟨rfl, rfl, rfl⟩
    | _ => cases haccepts
  | false =>
    obtain ⟨hwatch, haction, hindex⟩ := perform_tables haccepts
    obtain ⟨hwatch', haction', hindex'⟩ := perform_tables ((acceptsLoad_eq e' e _).trans haccepts)
    rw [hwatch, haction, hindex, hwatch', haction', hindex']
    exact ⟨h.watchpoints, h.actionpoints, h.index⟩

theorem watchRecords_perform (operation : Operation) :
    (e'.perform operation).engine.watchRecords = (e.perform operation).engine.watchRecords := by
  cases operation with
  | load watchTable actionTable t =>
    simp only [perform, Step.reply, engine_load, answer_load e' e watchTable actionTable t t]
    split
    · rfl
    · exact h.watchRecords
  | receive m p => exact (h.receive m p).1
  | sample q =>
    simp only [perform, Step.reply, watchRecords_sample, h.ages, h.watchRecords]
  | resetWatchpoints target =>
    refine Slots.ext fun slot => ?_
    simp only [perform, Step.reply, get_resetWatchpoints, h.watchRecords]
  | setState target state =>
    simp only [perform, Step.reply, watchRecords_setState, h.watchRecords]
  | switchOff target =>
    simp only [perform, Step.reply, watchRecords_switchOff, h.watchRecords]
  | resetActionpoints target =>
    simp only [perform, Step.reply, watchRecords_resetActionpoints, h.watchRecords]
  | age | housekeep => simp only [perform, age, h.watchRecords]
  | setMode _ | resetCounters | snapshot => exact h.watchRecords

theorem actionRecords_perform (operation : Operation) (slot : ActionSlot) :
    ((e.perform operation).engine.actionRecords.get slot).Rehearses
      ((e'.perform operation).engine.actionRecords.get slot) := by
  rw [get_perform, get_perform, h.change]
  have hrecord := h.actionRecords slot
  cases e.change slot operation with
  | keep => exact hrecord
  | load entry => exact ⟨_, _, rfl⟩
  | sample a outcome => exact (a.rehearses_note slot e.mode e'.mode hrecord outcome).record
  | clear | command | switchOff =>
    obtain ⟨responses, announcements, hsame⟩ := hrecord
    rw [hsame]
    exact ⟨_, _, rfl⟩

theorem counters_perform (operation : Operation) :
    (e'.perform operation).engine.counters.samples = (e.perform operation).engine.counters.samples ∧
      (e'.perform operation).engine.counters.messages =
        (e.perform operation).engine.counters.messages := by
  have hcounters := e.counters_perform operation
  have hcounters' := e'.counters_perform operation
  cases operation with
  | sample q =>
    rw [hcounters, hcounters', (e.counters_sample q).2.1, (e'.counters_sample q).2.1,
      (e.counters_sample q).2.2.1, (e'.counters_sample q).2.2.1, h.carriesOut, h.samples,
      h.messages]
    exact ⟨rfl, rfl⟩
  | receive m p =>
    have htakes : e'.takesUp m = e.takesUp m := by rw [takesUp, takesUp, h.index]
    rw [hcounters, hcounters', htakes]
    split
    · exact ⟨h.samples, congrArg Counter.next h.messages⟩
    · exact ⟨h.samples, h.messages⟩
  | resetCounters => exact ⟨rfl, rfl⟩
  | _ => rw [hcounters, hcounters']; exact ⟨h.samples, h.messages⟩

theorem trace_sample (q : Request) :
    (e.sample q).trace.Rehearses (e'.sample q).trace := by
  have hreport : e'.rangeReport q = e.rangeReport q := by
    simp only [rangeReport, ne_eq, h.mode]
  rw [(e.sample_slotwise q).2, (e'.sample_slotwise q).2, hreport, h.samples_eq]
  refine (Trace.Rehearses.refl _).append (.flatMap _ fun slot => ?_)
  unfold sampleOf
  rw [h.actionpoints, h.verdicts]
  cases e.actionpoints.get slot with
  | none => exact .refl []
  | some a => exact (a.rehearses_sample slot e.mode e'.mode (h.actionRecords slot) _).trace

theorem trace_perform (operation : Operation) :
    (e.perform operation).trace.Rehearses (e'.perform operation).trace := by
  have hsilent := e.notifications_of_silent operation
  have hsilent' := e'.notifications_of_silent operation
  cases operation with
  | load watchTable actionTable t =>
    simp only [perform, Step.reply, h.load]
    exact .refl _
  | receive m p =>
    simp only [perform, Step.reply, h.receive]
    exact .refl _
  | sample q => exact h.trace_sample q
  | _ => rw [Trace.Rehearses, hsilent, hsilent']; exact .nil

/-- **A call of two such engines** leaves two such engines, and tells operators the same,
up to responses that are issued or suppressed. -/
theorem perform {operation operation' : Operation} (hop : operation.Rehearses operation') :
    (e.perform operation).engine.Rehearses (e'.perform operation').engine ∧
      Call.Rehearses ⟨e, operation⟩ ⟨e', operation'⟩ := by
  cases hop with
  | same operation =>
    obtain ⟨hwatch, haction, hindex⟩ := h.tables_perform operation
    obtain ⟨hsamples, hmessages⟩ := h.counters_perform operation
    refine ⟨⟨?_, hsamples, hmessages, hwatch, haction, hindex, h.watchRecords_perform operation,
      h.actionRecords_perform operation⟩, h.trace_perform operation⟩
    rw [mode_perform, mode_perform]
    cases operation with
    | setMode mode => exact Iff.rfl
    | _ => exact h.mode
  | @mode mode mode' hmode hmode' =>
    refine ⟨{ h with mode := ⟨fun hdisabled => absurd hdisabled hmode',
      fun hdisabled => absurd hdisabled hmode⟩ }, ?_⟩
    rw [Call.Rehearses, Trace.Rehearses]
    have hsilent := e.notifications_of_silent (.setMode mode)
    have hsilent' := e'.notifications_of_silent (.setMode mode')
    rw [Call.trace, Call.trace, hsilent, hsilent']
    exact .nil

end Rehearses

/-! ## Runs -/

/-- A run that rehearses a run with one more call has one more call itself. -/
theorem forall₂_concat {α : Type} {R : α → α → Prop} {items items' : List α} {item : α}
    (h : List.Forall₂ R (items ++ [item]) items') :
    ∃ before item', items' = before ++ [item'] ∧ List.Forall₂ R items before ∧ R item item' := by
  have hreverse := List.rel_reverse h
  rw [List.reverse_concat] at hreverse
  obtain ⟨item', rest, hitem, hrest, heq⟩ := List.forall₂_cons_left_iff.mp hreverse
  refine ⟨rest.reverse, item', ?_, ?_, hitem⟩
  · rw [← List.reverse_reverse items', heq, List.reverse_cons]
  · rw [← List.reverse_reverse items]
    exact List.rel_reverse hrest

theorem rehearses_initial : initial.Rehearses initial :=
  { mode := Iff.rfl
    samples := rfl
    messages := rfl
    watchpoints := rfl
    actionpoints := rfl
    index := rfl
    watchRecords := rfl
    actionRecords := fun _ => ⟨_, _, rfl⟩ }

/-- **Two runs that make the same calls, up to the mode**, rehearse each other, in the engines
that they leave, in all calls, and in those since the counters were last reset. -/
theorem rehearses_run {operations operations' : List Operation}
    (same : List.Forall₂ Operation.Rehearses operations operations') :
    (initial.run operations).Rehearses (initial.run operations') ∧
      List.Forall₂ Call.Rehearses (initial.calls operations) (initial.calls operations') ∧
      List.Forall₂ Call.Rehearses (initial.sinceReset operations)
        (initial.sinceReset operations') := by
  induction operations using List.reverseRecOn generalizing operations' with
  | nil =>
    obtain rfl := List.forall₂_nil_left_iff.mp same
    exact ⟨rehearses_initial, .nil, .nil⟩
  | append_singleton operations operation ih =>
    obtain ⟨before, operation', rfl, hbefore, hlast⟩ := forall₂_concat same
    obtain ⟨hengines, hcalls, hwindow⟩ := ih hbefore
    obtain ⟨hengines', hcall⟩ := hengines.perform hlast
    rw [run_concat, run_concat, calls_concat, calls_concat, sinceReset_concat, sinceReset_concat,
      hlast.resetsCounters]
    refine ⟨hengines', List.rel_append hcalls (.cons hcall .nil), ?_⟩
    split
    · exact .nil
    · exact List.rel_append hwindow (.cons hcall .nil)

/-- Calls that rehearse each other one by one do so together. -/
theorem rehearses_flatMap_trace {calls calls' : List Call}
    (h : List.Forall₂ Call.Rehearses calls calls') :
    Trace.Rehearses (calls.flatMap Call.trace) (calls'.flatMap Call.trace) := by
  induction h with
  | nil => exact .refl []
  | cons hcall _ ih => exact hcall.append ih

/-- Where the one actionpoint triggers, a response is counted if the engine is active. -/
theorem responses_one {e : Engine} (h : Reachable e) (hone : e.StartsOne) {mode : Mode}
    (hmode : e.mode = mode) (hsamples : mode ≠ .disabled) :
    ((e.run [.receive ⟨⟨0x820⟩, #[9], 100⟩ .unregistered,
      .sample ⟨0, 0, false⟩]).actionRecords.get 0).responses =
        if mode = .active then .one else .zero := by
  obtain ⟨hsame, hrecord, hchange⟩ := h.change_sample_one hone (hmode ▸ hsamples)
  rw [run_cons, run_cons, run, List.foldl_nil, get_perform, hchange, Change.apply, hrecord, hsame,
    hmode]
  cases mode with
  | disabled => exact absurd rfl hsamples
  | active | passive => rfl

/-- **The passive mode rehearses the active one.** Take two runs of the same calls, with the
same arguments and the same collaborators, but where one run takes the engine to the active
or the passive mode the other may take it to the other of the two. The engines that they
leave agree in both tables of definitions, the index, the watchpoint records, the counters of
samples and messages, and the actionpoint records but for the two counts of responses. Call
by call operators are told the same in the same order, except that a response of an
actionpoint after so many failures may be issued in one run and suppressed in the other. The
two counters of responses show the numbers of such reports since they were last reset, up
to their greatest value. The sum of the two numbers is the same in both runs, and so is that
of the two counters, as long as none of them has to stop there. -/
theorem passive_rehearses_active (operations operations' : List Operation)
    (same : List.Forall₂ Operation.Rehearses operations operations') :
    let e := initial.run operations
    let e' := initial.run operations'
    let window := initial.traceSinceReset operations
    let window' := initial.traceSinceReset operations'
    e.Rehearses e' ∧
    List.Forall₂ Trace.Rehearses (initial.traces operations) (initial.traces operations') ∧
    e.counters.Tallies window.issues window.suppressions ∧
    e'.counters.Tallies window'.issues window'.suppressions ∧
    window'.issues + window'.suppressions = window.issues + window.suppressions ∧
    (window.IsCountable → window'.IsCountable →
      e'.counters.responses.toNat + e'.counters.suppressed.toNat =
        e.counters.responses.toNat + e.counters.suppressed.toNat) := by
  intro e e' window window'
  obtain ⟨hengines, hcalls, hwindow⟩ := rehearses_run same
  have hresponses := (rehearses_flatMap_trace hwindow).responses
  have htallies := tallies_run operations
  have htallies' := tallies_run operations'
  refine ⟨hengines, ?_, htallies, htallies', hresponses, fun hcountable hcountable' => ?_⟩
  · rw [traces_eq_map_calls, traces_eq_map_calls, List.forall₂_map_left_iff,
      List.forall₂_map_right_iff]
    exact hcalls
  · rw [htallies.add_eq hcountable, htallies'.add_eq hcountable']
    exact hresponses

/-- Two runs in which an actionpoint triggers. The first counts a response, and the second,
in which the engine is passive, counts none. -/
theorem passive_rehearses_active_one :
    let calls : List Operation :=
      [.load oneWatchpoint oneActionpoint .willing, .receive ⟨⟨0x820⟩, #[9], 100⟩ .unregistered,
        .sample ⟨0, 0, false⟩]
    let e := initial.run (.setMode .active :: calls)
    let e' := initial.run (.setMode .passive :: calls)
    List.Forall₂ Operation.Rehearses (.setMode .active :: calls) (.setMode .passive :: calls) ∧
    e.Rehearses e' ∧ (e.actionRecords.get 0).responses = .one ∧
    (e'.actionRecords.get 0).responses = .zero := by
  intro calls e e'
  have same : List.Forall₂ Operation.Rehearses (.setMode .active :: calls)
      (.setMode .passive :: calls) :=
    .cons (.mode (by decide) (by decide)) (List.forall₂_same.mpr fun operation _ => .same operation)
  have hrehearses := (passive_rehearses_active _ _ same).1
  have responses (mode : Mode) (hmode : mode ≠ .disabled) :
      ((initial.run (.setMode mode :: calls)).actionRecords.get 0).responses =
        if mode = .active then .one else .zero := by
    have reachable : Reachable (initial.perform (.setMode mode)).engine :=
      reachable_initial.perform _
    have hchanged : (initial.perform (.setMode mode)).engine.mode = mode :=
      initial.mode_perform (.setMode mode)
    rw [run_cons]
    -- what is left holds of every engine in that mode
    generalize (initial.perform (.setMode mode)).engine = changed at reachable hchanged ⊢
    have hloaded := changed.mode_perform (.load oneWatchpoint oneActionpoint .willing)
    rw [run_cons]
    exact responses_one (reachable.perform _) (changed.startsOne_perform .willing)
      (hloaded.trans hchanged) hmode
  exact ⟨same, hrehearses, responses .active (by decide), responses .passive (by decide)⟩

end Engine

end LimitMonitor
