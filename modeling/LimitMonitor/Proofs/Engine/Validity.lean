import LimitMonitor.Proofs.Actionpoint.Validity
import LimitMonitor.Proofs.Engine.Change
import LimitMonitor.Proofs.Engine.WatchChange
import LimitMonitor.Proofs.Watchpoint.Validity

/-!
# What the checks of a load are good for

Evaluation and sampling check everything again, and have an answer for a format or a
relation that cannot be handled and for an equation that is malformed. No run comes to
that: every entry of the tables in force was decoded (`Reachable.decoded`), so it is
valid, and the faults that are left are those of the messages.

Main statement: `loaded_tables_valid`.
-/

namespace LimitMonitor

/-! ## Fallbacks -/

namespace Event

/-- The event says that an entry of a table in force cannot be handled. -/
def isFallback : Event → Bool
  | notify (.undefinedFormat _ _) | notify (.undefinedRelation _ _)
  | notify (.illegalEquation _ _) | log (.undefinedFormat _ _) | log (.undefinedRelation _ _)
  | log (.illegalEquation _ _) => true
  | _ => false

theorem origin_of_isFallback {event : Event} (h : event.isFallback = true) :
    event.origin = .receive ∨ event.origin = .sample := by
  unfold isFallback at h
  split at h
  · exact .inl rfl
  · exact .inl rfl
  · exact .inr rfl
  · exact .inl rfl
  · exact .inl rfl
  · exact .inr rfl
  · cases h

end Event

/-- A sample of a valid actionpoint is no fallback: its equation is not malformed. -/
theorem Actionpoint.any_isFallback_sample {a : Actionpoint} (ha : a.Valid) (slot : ActionSlot)
    (mode : Mode) (verdicts : WatchSlot → Verdict) (r : Record) :
    (a.sample slot mode verdicts r).trace.any Event.isFallback = false := by
  rw [List.any_eq_false]
  intro event hevent
  cases a.emits_sample slot mode r verdicts event hevent with
  | logMalformed hmalformed | malformed hmalformed =>
    rw [evaluate_of_valid ha] at hmalformed
    cases hmalformed
  | _ => exact Bool.false_ne_true

namespace Engine

variable {e : Engine}

/-! ## The tables in force -/

/-- **Every entry of the tables in force was decoded**, after every run. -/
theorem Reachable.decoded (h : Reachable e) :
    (∀ slot w, e.watchpoints.get slot = some w → ∃ d, Watchpoint.decode d = .ok (some w)) ∧
      ∀ slot a, e.actionpoints.get slot = some a → ∃ d, Actionpoint.decode d = .ok (some a) := by
  refine h.induction_installed (P := fun e =>
    (∀ slot w, e.watchpoints.get slot = some w → ∃ d, Watchpoint.decode d = .ok (some w)) ∧
      ∀ slot a, e.actionpoints.get slot = some a → ∃ d, Actionpoint.decode d = .ok (some a))
    ?_ ?_ ?_
  · exact ⟨fun slot w hw => by simp [initial] at hw, fun slot a ha => by simp [initial] at ha⟩
  · intro e watchTable actionTable
    refine ⟨fun slot w hw => ?_, fun slot a ha => ?_⟩
    · simp only [installed, install, Slots.get_map] at hw
      exact ⟨_, entryOf_eq_some.mp hw⟩
    · simp only [installed, install, Slots.get_map] at ha
      exact ⟨_, entryOf_eq_some.mp ha⟩
  · intro e operation _ haccepts ih
    obtain ⟨hwatch, haction, -⟩ := perform_tables haccepts
    rw [hwatch, haction]
    exact ih

theorem Reachable.valid_watchpoint (h : Reachable e) {slot : WatchSlot} {w : Watchpoint}
    (hw : e.watchpoints.get slot = some w) : w.Valid := by
  obtain ⟨d, hd⟩ := h.decoded.1 slot w hw
  exact Watchpoint.valid_of_decode hd

theorem Reachable.valid_actionpoint (h : Reachable e) {slot : ActionSlot} {a : Actionpoint}
    (ha : e.actionpoints.get slot = some a) : a.Valid := by
  obtain ⟨d, hd⟩ := h.decoded.2 slot a ha
  exact Actionpoint.valid_of_decode hd

/-! ## Traces -/

/-- At a slot that reads a message, the scan puts questions and reports the faults that
messages have. -/
theorem Reachable.any_isFallback_scanTrace (h : Reachable e) (m : Message) (p : Predicate)
    (slot : WatchSlot) : (e.scanTrace m p slot).any Event.isFallback = false := by
  have hquestion : ((e.question? m slot).toList.flatMap p.trace).any Event.isFallback = false := by
    cases e.question? m slot with
    | none => rfl
    | some question => cases p <;> rfl
  rw [scanTrace, List.any_append, hquestion, Bool.false_or]
  cases hfinding : e.finding m p slot with
  | none => rfl
  | some result =>
    cases result with
    | ok reading => rfl
    | error fault =>
      obtain ⟨w, hw, hresult⟩ := Option.map_eq_some_iff.mp hfinding
      rcases Watchpoint.fault_of_valid (h.valid_watchpoint hw) hresult with
        ⟨width, rfl⟩ | ⟨bits, rfl⟩
      · rfl
      · rfl

theorem Reachable.any_isFallback_receive (h : Reachable e) (m : Message) (p : Predicate) :
    (e.receive m p).trace.any Event.isFallback = false := by
  rw [h.receive_eq, scan]
  split
  · rfl
  · rw [List.any_flatMap, List.any_eq_false]
    exact fun slot _ => by rw [h.any_isFallback_scanTrace]; exact Bool.false_ne_true

theorem Reachable.any_isFallback_sample (h : Reachable e) (q : Request) :
    (e.sample q).trace.any Event.isFallback = false := by
  have hreport : (e.rangeReport q).any Event.isFallback = false := by
    unfold rangeReport
    split <;> rfl
  rw [(e.sample_slotwise q).2, List.any_append, hreport, Bool.false_or, List.any_flatMap,
    List.any_eq_false]
  intro slot _
  rw [Bool.not_eq_true, sampleOf]
  cases ha : e.actionpoints.get slot with
  | none => rfl
  | some a => exact Actionpoint.any_isFallback_sample (h.valid_actionpoint ha) slot e.mode _ _

/-- **No operation falls back**, after any run. -/
theorem Reachable.isFallback_eq_false (h : Reachable e) (operation : Operation) :
    ∀ event ∈ (e.perform operation).trace, event.isFallback = false := by
  intro event hevent
  by_contra hfallback
  rw [Bool.not_eq_false] at hfallback
  have horigin := e.perform_origin operation event hevent
  have hany : (e.perform operation).trace.any Event.isFallback = true :=
    List.any_eq_true.mpr ⟨event, hevent, hfallback⟩
  -- only messages and sample requests could lead to a fallback
  rcases Event.origin_of_isFallback hfallback with hreceive | hsample
  · rw [hreceive] at horigin
    cases operation with
    | receive m p =>
      have hnone := h.any_isFallback_receive m p
      exact Bool.false_ne_true (hnone.symm.trans hany)
    | _ => cases horigin
  · rw [hsample] at horigin
    cases operation with
    | sample q =>
      have hnone := h.any_isFallback_sample q
      exact Bool.false_ne_true (hnone.symm.trans hany)
    | _ => cases horigin

/-! ## Errors -/

/-- **A message leaves an error** at a watchpoint that reads it, unless that is custom,
exactly if the field lies past the end of the message or is not a number. -/
theorem Reachable.verdict_receive (h : Reachable e) {slot : WatchSlot} {w : Watchpoint}
    (hw : e.watchpoints.get slot = some w) (hrelation : w.relation ≠ .custom) {m : Message}
    (hreads : w.messageId = m.id) (p : Predicate) :
    (e.perform (.receive m p)).engine.verdicts slot = .error ↔
      w.fits m = false ∨ w.readsNaN m = true := by
  rw [verdicts, h.get_watchRecords_receive hw hreads]
  exact Watchpoint.verdict_fold_eq_error (h.valid_watchpoint hw) hrelation _ slot p _

/-- **No other operation leaves an error** that was not there. -/
theorem Reachable.verdict_perform (h : Reachable e) {slot : WatchSlot} {w : Watchpoint}
    (hw : e.watchpoints.get slot = some w) {operation : Operation}
    (hother : ∀ m p, operation = .receive m p → w.messageId ≠ m.id)
    (herror : (e.perform operation).engine.verdicts slot = .error) : e.verdicts slot = .error := by
  rw [verdicts, h.get_watchRecords_perform] at herror
  cases hchange : e.watchChange slot operation with
  | keep =>
    rw [hchange] at herror
    exact herror
  | load | clear =>
    rw [hchange] at herror
    cases herror
  | age =>
    rw [hchange] at herror
    exact Watchpoint.Record.error_of_age herror
  | note result timestamp staleAfter =>
    obtain ⟨m, p, w', rfl, hw', hreads, -⟩ := e.receive_of_watchChange hchange
    obtain rfl := Option.some.inj (hw.symm.trans hw')
    exact absurd hreads (hother m p rfl)

/-- **A sample leaves an error** only if an operand of the equation has the verdict `error`
when the request is made. -/
theorem Reachable.outcome_sample (h : Reachable e) {slot : ActionSlot} {a : Actionpoint}
    (ha : e.actionpoints.get slot = some a) {q : Request} (hsamples : e.samples q slot = true)
    (hstate : (e.actionRecords.get slot).state = .active ∨
      (e.actionRecords.get slot).state = .passive)
    (herror : ((e.perform (.sample q)).engine.actionRecords.get slot).outcome = .error) :
    ∃ operand ∈ Equation.operands a.equation.toList, e.verdicts operand = .error := by
  have hchange : e.change slot (.sample q) = .sample a (a.outcome e.verdicts) := by
    simp only [change, ha, hsamples, hstate, and_self, if_true]
  rw [get_perform, hchange, Actionpoint.Change.apply, Actionpoint.outcome_note] at herror
  exact Actionpoint.error_of_outcome (h.valid_actionpoint ha) herror

/-- **The tables in force are valid**, after any run, so that evaluation and sampling never
fall back. No operation reports a format, a relation or an equation that cannot be
handled. Every loaded watchpoint has a format in use, a reference of that format that is
finite if it is a floating-point number, and a message identifier in its range; every
loaded actionpoint has a threshold of at least one, a response in its range and an
equation that passes the check. A watchpoint that is not custom gets the verdict `error`
only from a message that it reads, and exactly if its field lies past the end of the
message or is not a number. An active or passive actionpoint that is sampled gets the
outcome `error` only if an operand of its equation before the end token has the verdict
`error` at that time. -/
theorem loaded_tables_valid (operations : List Operation) (operation : Operation) :
    let e := initial.run operations
    let after := (e.perform operation).engine
    (∀ event ∈ (e.perform operation).trace, event.isFallback = false) ∧
    (∀ slot w, e.watchpoints.get slot = some w →
      w.Valid ∧
      (w.relation ≠ .custom →
        (∀ m p, operation = .receive m p → w.messageId = m.id →
          (after.verdicts slot = .error ↔ w.fits m = false ∨ w.readsNaN m = true)) ∧
        ((∀ m p, operation = .receive m p → w.messageId ≠ m.id) →
          after.verdicts slot = .error → e.verdicts slot = .error))) ∧
    ∀ slot a, e.actionpoints.get slot = some a →
      a.Valid ∧
      ∀ q, operation = .sample q → e.samples q slot = true →
        (e.actionRecords.get slot).state = .active ∨ (e.actionRecords.get slot).state = .passive →
        (after.actionRecords.get slot).outcome = .error →
          ∃ operand ∈ Equation.operands a.equation.toList, e.verdicts operand = .error := by
  intro e after
  have h : Reachable e := ⟨operations, rfl⟩
  refine ⟨h.isFallback_eq_false operation, fun slot w hw => ⟨h.valid_watchpoint hw,
    fun hrelation => ⟨?_, ?_⟩⟩, fun slot a ha => ⟨h.valid_actionpoint ha, ?_⟩⟩
  · rintro m p rfl hreads
    exact h.verdict_receive hw hrelation hreads p
  · exact fun hother herror => h.verdict_perform hw hother herror
  · rintro q rfl hsamples hstate herror
    exact h.outcome_sample ha hsamples hstate herror

end Engine

end LimitMonitor
