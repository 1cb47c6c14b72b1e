import LimitMonitor.Engine.Sampling
import LimitMonitor.Proofs.Table.Slots
import Mathlib.Data.List.Nodup
import Mathlib.Order.Fin.Basic

/-!
# Sampling in closed form

A sample request goes through its slots in table order, and no slot sees what
another one did: an actionpoint is sampled over the verdicts of the watchpoints and
its own record. So the records after the request and its trace are read off slot by
slot (`sample_slotwise`).
-/

namespace LimitMonitor

namespace ActionSlot

theorem mem_all (slot : ActionSlot) : slot ∈ all := List.mem_finRange slot

theorem nodup_all : all.Nodup := List.nodup_finRange _

end ActionSlot

namespace Request

/-- The request is for every slot. -/
def namesAll (q : Request) : Bool := q.first = everySlot && q.last = everySlot

/-- The request names slots: all of them, or a range that is not empty and ends inside the
table. -/
def namesSlots (q : Request) : Bool :=
  q.namesAll || q.first ≤ q.last && q.last.toNat < actionCapacity

/-- The slot is among those that a request names. -/
def covers (q : Request) (slot : ActionSlot) : Bool :=
  q.namesAll ||
    q.first.toNat ≤ slot.val && slot.val ≤ q.last.toNat && q.last.toNat < actionCapacity

/-- **What a request asks for** is what it names by its ends: the covered slots in table order,
or none. -/
theorem scope_spec (q : Request) :
    (q.namesSlots = true ∧ q.scope = .slots (ActionSlot.all.filter q.covers)) ∨
      q.namesSlots = false ∧ (∀ slot, q.covers slot = false) ∧ ∀ range, q.scope ≠ .slots range := by
  -- every slot, an empty range, a range inside the table, and one past its end
  by_cases hall : q.first = everySlot ∧ q.last = everySlot
  · have hnamed : q.namesAll = true := by simpa [namesAll] using hall
    refine .inl ⟨by simp [namesSlots, hnamed], ?_⟩
    have hcovers : q.covers = fun _ => true := by
      funext slot
      simp [covers, hnamed]
    rw [scope, if_pos hall, hcovers, List.filter_true]
  · have hnamed : q.namesAll = false := by simpa [namesAll] using hall
    rcases UInt16.lt_or_le q.last q.first with hempty | hranged
    · have hbelow := UInt16.lt_iff_toNat_lt.mp hempty
      refine .inr ⟨by simp [namesSlots, hnamed, UInt16.not_le.mpr hempty], fun slot => ?_,
        fun range h => ?_⟩
      · simp only [covers, hnamed, Bool.false_or, Bool.and_eq_false_iff, decide_eq_false_iff_not]
        omega
      · rw [scope, if_neg hall, if_pos hempty] at h
        cases h
    · by_cases hinside : q.last.toNat < actionCapacity
      · refine .inl ⟨by simp [namesSlots, hranged, hinside], ?_⟩
        have hcovers : ∀ slot ∈ ActionSlot.all,
            (decide (q.first.toNat ≤ slot.val) && decide (slot.val ≤ q.last.toNat)) =
              q.covers slot := fun slot _ => by
          simp only [covers, hnamed, hinside, Bool.false_or, decide_true, Bool.and_true]
        rw [scope, if_neg hall, if_neg (UInt16.not_lt.mpr hranged), if_pos hinside, range,
          List.filter_congr hcovers]
      · refine .inr ⟨by simp [namesSlots, hnamed, hinside], fun slot => ?_, fun range h => ?_⟩
        · simp [covers, hnamed, hinside]
        · rw [scope, if_neg hall, if_neg (UInt16.not_lt.mpr hranged), if_neg hinside] at h
          cases h

/-- The slots of a request are the covered ones, in table order. -/
theorem eq_filter_covers {q : Request} {range : List ActionSlot} (h : q.scope = .slots range) :
    range = ActionSlot.all.filter q.covers := by
  rcases q.scope_spec with ⟨-, hslots⟩ | ⟨-, -, hnone⟩
  · exact Scope.slots.inj (h.symm.trans hslots)
  · exact absurd h (hnone range)

theorem covers_of_scope {q : Request} {range : List ActionSlot} (h : q.scope = .slots range)
    (slot : ActionSlot) : q.covers slot = decide (slot ∈ range) := by
  rw [eq_filter_covers h]
  simp [ActionSlot.mem_all]

theorem namesSlots_of_scope {q : Request} {range : List ActionSlot} (h : q.scope = .slots range) :
    q.namesSlots = true := by
  rcases q.scope_spec with ⟨hnamed, -⟩ | ⟨-, -, hnone⟩
  · exact hnamed
  · exact absurd h (hnone range)

theorem names_nothing {q : Request} (h : ∀ range, q.scope ≠ .slots range) :
    q.namesSlots = false ∧ ∀ slot, q.covers slot = false := by
  rcases q.scope_spec with ⟨-, hslots⟩ | ⟨hnamed, hcovers, -⟩
  · exact absurd hslots (h _)
  · exact ⟨hnamed, hcovers⟩

end Request

namespace Engine

variable (e : Engine) (q : Request)

/-- A request is carried out: the engine is not disabled, and the request names slots. -/
def carriesOut : Bool := e.mode ≠ .disabled && q.namesSlots

/-- A request samples the actionpoint in a slot, if there is one. -/
def samples (slot : ActionSlot) : Bool := e.mode ≠ .disabled && q.covers slot

/-- The sample of the actionpoint in a slot. -/
def sampleOf (slot : ActionSlot) : Actionpoint.Sample :=
  match e.actionpoints.get slot with
  | none => .quiet (e.actionRecords.get slot) []
  | some a => a.sample slot e.mode e.verdicts (e.actionRecords.get slot)

variable {e} in
/-- **One turn of the loop** samples its slot, if the slot still has the record of the
request, and leaves the other slots alone. -/
theorem visit_sampling {s : Sampling} {slot : ActionSlot}
    (hkept : s.records.get slot = e.actionRecords.get slot) :
    let after := Sampling.visit e.actionpoints e.mode e.verdicts s slot
    (∀ i : ActionSlot, after.records.get i =
        if i = slot then (e.sampleOf slot).record else s.records.get i) ∧
      after.trace = s.trace ++ (e.sampleOf slot).trace := by
  simp only [Sampling.visit, sampleOf]
  cases e.actionpoints.get slot with
  | none =>
    refine ⟨fun i => ?_, (List.append_nil s.trace).symm⟩
    by_cases hi : i = slot
    · rw [if_pos hi, hi, hkept]
      rfl
    · rw [if_neg hi]
  | some a =>
    simp only [hkept, and_true]
    intro i
    by_cases hi : i = slot
    · rw [if_pos hi, hi, Slots.get_set_self]
    · rw [if_neg hi, Slots.get_set_of_ne _ _ hi]

variable {e} in
/-- **The loop over the remaining slots**: each of them is sampled from its own
record, and the trace grows by its part. -/
theorem foldl_visit_sampling {slots : List ActionSlot} (nodup : slots.Nodup) (s : Sampling)
    (hkept : ∀ slot ∈ slots, s.records.get slot = e.actionRecords.get slot) :
    let after := slots.foldl (Sampling.visit e.actionpoints e.mode e.verdicts) s
    (∀ slot : ActionSlot, after.records.get slot =
        if slot ∈ slots then (e.sampleOf slot).record else s.records.get slot) ∧
      after.trace = s.trace ++ slots.flatMap fun slot => (e.sampleOf slot).trace := by
  induction slots generalizing s with
  | nil => simp
  | cons slot rest ih =>
    obtain ⟨fresh, nodup⟩ := List.nodup_cons.mp nodup
    obtain ⟨hrecords, htrace⟩ := visit_sampling (hkept slot List.mem_cons_self)
    -- the turn of this slot leaves the later ones their records
    have hrest : ∀ i ∈ rest, (Sampling.visit e.actionpoints e.mode e.verdicts s slot).records.get i =
        e.actionRecords.get i := by
      intro i hi
      have hne : i ≠ slot := fun h => fresh (h ▸ hi)
      rw [hrecords, if_neg hne]
      exact hkept i (List.mem_cons_of_mem _ hi)
    obtain ⟨ihrecords, ihtrace⟩ := ih nodup _ hrest
    rw [List.foldl_cons]
    refine ⟨fun i => ?_, by rw [ihtrace, htrace, List.flatMap_cons, List.append_assoc]⟩
    rw [ihrecords i, hrecords i]
    by_cases hi : i = slot
    · simp [hi, fresh]
    · simp [hi]

/-- Sampling the covered slots. -/
theorem sampleSlots_covered :
    (∀ slot : ActionSlot, (e.sampleSlots (ActionSlot.all.filter q.covers)).1.actionRecords.get slot =
        if q.covers slot then (e.sampleOf slot).record else e.actionRecords.get slot) ∧
      (e.sampleSlots (ActionSlot.all.filter q.covers)).2 =
        (ActionSlot.all.filter q.covers).flatMap fun slot => (e.sampleOf slot).trace := by
  have nodup : (ActionSlot.all.filter q.covers).Nodup := ActionSlot.nodup_all.filter _
  obtain ⟨hrecords, htrace⟩ := foldl_visit_sampling nodup ⟨e.actionRecords, e.counters, []⟩
    fun _ _ => rfl
  refine ⟨fun slot => (hrecords slot).trans ?_, htrace⟩
  simp [ActionSlot.mem_all]

/-- What a request reports of itself: that it reaches past the table. -/
def rangeReport : Trace :=
  if e.mode ≠ .disabled ∧ q.scope = .outside then [.notify (.sampleOutOfRange q.first q.last)]
  else []

variable {e q} in
theorem carriesOut_of_slots (hmode : e.mode ≠ .disabled) {range : List ActionSlot}
    (hscope : q.scope = .slots range) : e.carriesOut q = true := by
  simp [carriesOut, hmode, Request.namesSlots_of_scope hscope]

variable {e q} in
theorem carriesOut_of_not_slots (h : e.mode = .disabled ∨ ∀ range, q.scope ≠ .slots range) :
    e.carriesOut q = false := by
  rcases h with hmode | hscope
  · simp [carriesOut, hmode]
  · rw [carriesOut, (Request.names_nothing hscope).1, Bool.and_false]

variable {e q} in
/-- A request that has slots, of an engine that is not disabled, samples them. -/
theorem sample_of_slots (hmode : e.mode ≠ .disabled) {range : List ActionSlot}
    (hscope : q.scope = .slots range) :
    (e.sample q).engine.actionRecords = (e.sampleSlots range).1.actionRecords ∧
      (e.sample q).trace = (e.sampleSlots range).2 := by
  unfold sample
  cases hactive : e.mode with
  | disabled => exact absurd hactive hmode
  | active | passive =>
    simp only [hscope, and_true]
    split <;> rfl

variable {e q} in
/-- A request without slots changes nothing. -/
theorem sample_of_not_slots (h : e.mode = .disabled ∨ ∀ range, q.scope ≠ .slots range) :
    (e.sample q).engine = e ∧ (e.sample q).trace = e.rangeReport q := by
  unfold sample rangeReport
  cases hmode : e.mode with
  | disabled => exact ⟨rfl, by simp⟩
  | active | passive =>
    cases hscope : q.scope with
    | nothing => exact ⟨rfl, by simp⟩
    | outside => exact ⟨rfl, by simp⟩
    | slots range => simp [hmode, hscope] at h

/-- **A request slot by slot.** The slots that it samples get the records of their
samples, and their traces follow each other in table order. -/
theorem sample_slotwise :
    (∀ slot : ActionSlot, (e.sample q).engine.actionRecords.get slot =
        if e.samples q slot then (e.sampleOf slot).record else e.actionRecords.get slot) ∧
      (e.sample q).trace = e.rangeReport q ++
        (ActionSlot.all.filter (e.samples q)).flatMap fun slot => (e.sampleOf slot).trace := by
  by_cases h : e.mode = .disabled ∨ ∀ range, q.scope ≠ .slots range
  · obtain ⟨hengine, htrace⟩ := sample_of_not_slots h
    have hnone (slot : ActionSlot) : e.samples q slot = false := by
      rcases h with hmode | hscope
      · simp [samples, hmode]
      · rw [samples, (Request.names_nothing hscope).2, Bool.and_false]
    simp [hengine, htrace, hnone]
  · simp only [not_or, not_forall, not_not] at h
    obtain ⟨hmode, range, hscope⟩ := h
    obtain ⟨hengine, htrace⟩ := sample_of_slots hmode hscope
    obtain ⟨hrecords, hparts⟩ := e.sampleSlots_covered q
    have hsamples : e.samples q = q.covers := by
      funext slot
      simp [samples, hmode]
    have hreport : e.rangeReport q = [] := by simp [rangeReport, hscope]
    rw [Request.eq_filter_covers hscope] at hengine htrace
    rw [hsamples, hreport, hengine, htrace, hparts]
    exact ⟨hrecords, rfl⟩

end Engine

end LimitMonitor
