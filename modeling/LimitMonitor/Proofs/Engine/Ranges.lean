import LimitMonitor.Proofs.Watchpoint.Staleness
import Mathlib.Data.List.Sort

/-!
# Ranges of samples

A request samples its slots one by one, and a slot is sampled over the verdicts of the
watchpoints, its own record, its own actionpoint and the mode (`sampleOf_congr`). None of
these is what the sample of another slot writes. So a request has a closed form
(`sample_eq`) in which the order of its slots shows in the trace alone: the engine after it
depends on which slots it names (`sampled_perm`), and after two requests for different
slots on which slots both name (`sampled_sampled`).

Main statement: `sampling_composes`.
-/

namespace LimitMonitor

/-! ## Triggers -/

namespace Counters

/-- Count what some actionpoints triggered. -/
def noteAll (c : Counters) (triggers : List (Option Actionpoint.Trigger)) : Counters :=
  triggers.foldl note c

theorem noteAll_append (c : Counters) (first second : List (Option Actionpoint.Trigger)) :
    c.noteAll (first ++ second) = (c.noteAll first).noteAll second :=
  List.foldl_append

/-- Two triggers are counted in either order. -/
theorem note_comm (c : Counters) (first second : Option Actionpoint.Trigger) :
    (c.note first).note second = (c.note second).note first := by
  rcases first with _ | _ | _ <;> rcases second with _ | _ | _ <;> rfl

/-- **The order of triggers does not matter** to the counters. -/
theorem noteAll_perm (c : Counters) {first second : List (Option Actionpoint.Trigger)}
    (h : first.Perm second) : c.noteAll first = c.noteAll second :=
  h.foldl_eq' (fun x _ y _ c => c.note_comm x y) c

/-- Triggers are counted apart from the requests. -/
theorem noteAll_samples (c : Counters) (n : Counter)
    (triggers : List (Option Actionpoint.Trigger)) :
    noteAll { c with samples := n } triggers = { c.noteAll triggers with samples := n } := by
  induction triggers generalizing c with
  | nil => rfl
  | cons trigger rest ih =>
    have hone : note { c with samples := n } trigger = { c.note trigger with samples := n } := by
      rcases trigger with _ | _ | _ <;> rfl
    rw [noteAll, List.foldl_cons, hone]
    exact ih (c.note trigger)

theorem samples_noteAll (c : Counters) (triggers : List (Option Actionpoint.Trigger)) :
    (c.noteAll triggers).samples = c.samples := by
  rw [show c.noteAll triggers = _ from c.noteAll_samples c.samples triggers]

end Counters

/-! ## Ranges -/

namespace Request

variable {first last : UInt16}

theorem mem_range {slot : ActionSlot} :
    slot ∈ range first last ↔ first.toNat ≤ slot.val ∧ slot.val ≤ last.toNat := by
  simp [range, ActionSlot.mem_all]

theorem range_ascending (first last : UInt16) : (range first last).Pairwise (· < ·) :=
  (List.pairwise_lt_finRange actionCapacity).filter _

/-- A range inside the table is what a request for it asks for. -/
theorem scope_range (hle : first ≤ last) (hlast : last.toNat < actionCapacity) (aging : Bool) :
    scope ⟨first, last, aging⟩ = .slots (range first last) := by
  have hnumber : last ≠ everySlot := by
    rintro rfl
    exact absurd hlast (by decide)
  rw [scope, if_neg fun h => hnumber h.2, if_neg (UInt16.not_lt.mpr hle), if_pos hlast]

/-- It asks for the slots between its ends. -/
theorem covers_range (hle : first ≤ last) (hlast : last.toNat < actionCapacity) (aging : Bool)
    (slot : ActionSlot) : covers ⟨first, last, aging⟩ slot =
      decide (first.toNat ≤ slot.val ∧ slot.val ≤ last.toNat) := by
  rw [covers_of_scope (scope_range hle hlast aging)]
  exact decide_eq_decide.mpr mem_range

/-- A number below another has a successor. -/
theorem toNat_succ_of_lt {b c : UInt16} (h : b < c) : (b + 1).toNat = b.toNat + 1 := by
  have hlt := UInt16.lt_iff_toNat_lt.mp h
  have hc := c.toNat_lt
  rw [UInt16.toNat_add, UInt16.toNat_one]
  omega

/-- **A range falls into two at every slot of it.** -/
theorem range_append {a b c : UInt16} (hab : a ≤ b) (hbc : b < c) :
    range a b ++ range (b + 1) c = range a c := by
  have hsucc := toNat_succ_of_lt hbc
  have hab' := UInt16.le_iff_toNat_le.mp hab
  have hbc' := UInt16.lt_iff_toNat_lt.mp hbc
  have ascending : (range a b ++ range (b + 1) c).Pairwise (· < ·) := by
    refine List.pairwise_append.mpr ⟨range_ascending a b, range_ascending (b + 1) c, ?_⟩
    intro slot hslot other hother
    have hslot' := (mem_range.mp hslot).2
    have hother' := (mem_range.mp hother).1
    exact Fin.lt_def.mpr (by omega)
  refine ascending.eq_of_mem_iff (range_ascending a c) fun slot => ?_
  rw [List.mem_append, mem_range, mem_range, mem_range]
  omega

/-- The two parts have no slot in common. -/
theorem range_disjoint {a b c : UInt16} (hab : a ≤ b) (hbc : b < c) :
    (range a b).Disjoint (range (b + 1) c) := by
  have nodup : (range a b ++ range (b + 1) c).Nodup := by
    rw [range_append hab hbc]
    exact ActionSlot.nodup_all.filter _
  exact (List.nodup_append'.mp nodup).2.2

/-- The whole table is a range. -/
theorem scope_every (aging : Bool) :
    scope ⟨everySlot, everySlot, aging⟩ = scope ⟨0, 175, aging⟩ := by
  have hall : range 0 175 = ActionSlot.all := by
    refine List.filter_eq_self.mpr fun slot _ => ?_
    have hslot : slot.val ≤ 175 := Nat.le_of_lt_succ slot.isLt
    simpa using hslot
  have hrange : scope ⟨0, 175, aging⟩ = .slots (range 0 175) :=
    scope_range (by decide) (by decide) aging
  rw [hrange, hall]
  rfl

end Request

namespace Engine

variable {e e' : Engine} {q q' : Request} {slot : ActionSlot}

/-! ## One slot -/

/-- **What the sample of a slot depends on**: the mode, the verdicts, and the actionpoint
and the record of the slot. -/
theorem sampleOf_congr (hmode : e'.mode = e.mode) (hverdicts : e'.verdicts = e.verdicts)
    (hentry : e'.actionpoints.get slot = e.actionpoints.get slot)
    (hrecord : e'.actionRecords.get slot = e.actionRecords.get slot) :
    e'.sampleOf slot = e.sampleOf slot := by
  rw [sampleOf, sampleOf, hmode, hverdicts, hentry, hrecord]

/-- A slot that a request does not ask for keeps its record. -/
theorem get_sample_of_not_covers (h : q.covers slot = false) :
    (e.sample q).engine.actionRecords.get slot = e.actionRecords.get slot := by
  rw [(e.sample_slotwise q).1 slot, samples, h, Bool.and_false]
  rfl

/-- Two requests that ask for a slot leave the same in it, whatever else they ask for. -/
theorem get_sample_congr (hmode : e'.mode = e.mode) (hverdicts : e'.verdicts = e.verdicts)
    (hentry : e'.actionpoints.get slot = e.actionpoints.get slot)
    (hrecord : e'.actionRecords.get slot = e.actionRecords.get slot)
    (hq : q.covers slot = true) (hq' : q'.covers slot = true) :
    (e'.sample q').engine.actionRecords.get slot = (e.sample q).engine.actionRecords.get slot := by
  rw [(e.sample_slotwise q).1 slot, (e'.sample_slotwise q').1 slot, samples, samples, hq, hq',
    hmode, hrecord, sampleOf_congr hmode hverdicts hentry hrecord]

/-! ## The slots of a request -/

/-- The engine after a request for some slots is carried out, before its verdicts age. -/
def sampled (e : Engine) (slots : List ActionSlot) : Engine :=
  { e with
    actionRecords := Vector.ofFn fun slot =>
      if slot ∈ slots then (e.sampleOf slot).record else e.actionRecords.get slot
    counters := { e.counters.noteAll (slots.map fun slot => (e.sampleOf slot).trigger) with
      samples := e.counters.samples.next } }

/-- The loop over the remaining slots counts what each of them triggers. -/
theorem counters_foldl_sampling {slots : List ActionSlot} (nodup : slots.Nodup) (s : Sampling)
    (hkept : ∀ slot ∈ slots, s.records.get slot = e.actionRecords.get slot) :
    (slots.foldl (Sampling.visit e.actionpoints e.mode e.verdicts) s).counters =
      s.counters.noteAll (slots.map fun slot => (e.sampleOf slot).trigger) := by
  induction slots generalizing s with
  | nil => rfl
  | cons slot rest ih =>
    obtain ⟨fresh, nodup⟩ := List.nodup_cons.mp nodup
    have hslot := hkept slot List.mem_cons_self
    have hcounters : (Sampling.visit e.actionpoints e.mode e.verdicts s slot).counters =
        s.counters.note (e.sampleOf slot).trigger := by
      rw [Sampling.visit, sampleOf]
      cases e.actionpoints.get slot with
      | none => rfl
      | some a => rw [hslot]
    -- the turn of this slot leaves the later ones their records
    have hrest : ∀ i ∈ rest,
        (Sampling.visit e.actionpoints e.mode e.verdicts s slot).records.get i =
          e.actionRecords.get i := by
      intro i hi
      have hne : i ≠ slot := fun h => fresh (h ▸ hi)
      rw [(visit_sampling hslot).1 i, if_neg hne]
      exact hkept i (List.mem_cons_of_mem _ hi)
    rw [List.foldl_cons, ih nodup _ hrest, hcounters]
    rfl

/-- **A request in closed form.** -/
theorem sample_eq (hmode : e.mode ≠ .disabled) {range : List ActionSlot}
    (hscope : q.scope = .slots range) :
    e.sample q =
      ⟨if q.aging then (e.sampled range).age else e.sampled range, .ok (),
        range.flatMap fun slot => (e.sampleOf slot).trace⟩ := by
  have nodup : range.Nodup := by
    rw [Request.eq_filter_covers hscope]
    exact ActionSlot.nodup_all.filter _
  obtain ⟨hrecords, htrace⟩ := foldl_visit_sampling nodup ⟨e.actionRecords, e.counters, []⟩
    fun _ _ => rfl
  have hcounters := counters_foldl_sampling nodup ⟨e.actionRecords, e.counters, []⟩
    fun _ _ => rfl
  have hvector : (range.foldl (Sampling.visit e.actionpoints e.mode e.verdicts)
      ⟨e.actionRecords, e.counters, []⟩).records = (e.sampled range).actionRecords := by
    refine Slots.ext fun slot => ?_
    rw [hrecords slot, sampled, Slots.get_ofFn]
  have hslots : e.sampleSlots range =
      ({ e with
          actionRecords := (e.sampled range).actionRecords
          counters := e.counters.noteAll (range.map fun slot => (e.sampleOf slot).trigger) },
        range.flatMap fun slot => (e.sampleOf slot).trace) := by
    rw [sampleSlots, hvector, hcounters, htrace, List.nil_append]
  have hcounted : { e.counters.noteAll (range.map fun slot => (e.sampleOf slot).trigger) with
      samples := (e.counters.noteAll
        (range.map fun slot => (e.sampleOf slot).trigger)).samples.next } =
      (e.sampled range).counters := by
    rw [Counters.samples_noteAll]
    rfl
  unfold sample
  cases hactive : e.mode with
  | disabled => exact absurd hactive hmode
  | active | passive =>
    simp only [hscope, hslots, hcounted]
    rfl

/-- The sample of a slot is not touched by a request for others. -/
theorem sampleOf_sampled {slots : List ActionSlot} (h : slot ∉ slots) :
    (e.sampled slots).sampleOf slot = e.sampleOf slot := by
  have hrecord : (e.sampled slots).actionRecords.get slot = e.actionRecords.get slot := by
    rw [sampled, Slots.get_ofFn, if_neg h]
  exact sampleOf_congr rfl rfl rfl hrecord

/-- **The engine after a request depends on which slots it names**, and not on their
order. -/
theorem sampled_perm {first second : List ActionSlot} (h : first.Perm second) :
    e.sampled first = e.sampled second := by
  have hcounters := e.counters.noteAll_perm (h.map fun slot => (e.sampleOf slot).trigger)
  simp only [sampled, hcounters, h.mem_iff]

/-- **Two requests for different slots** do what one request for all of them does, and are
counted as two. -/
theorem sampled_sampled {first second : List ActionSlot} (disjoint : first.Disjoint second) :
    (e.sampled first).sampled second =
      { e.sampled (first ++ second) with
        counters := { (e.sampled (first ++ second)).counters with
          samples := e.counters.samples.next.next } } := by
  have hsecond (slot : ActionSlot) (hslot : slot ∈ second) :
      (e.sampled first).sampleOf slot = e.sampleOf slot :=
    sampleOf_sampled fun hfirst => disjoint hfirst hslot
  have htriggers : (second.map fun slot => ((e.sampled first).sampleOf slot).trigger) =
      second.map fun slot => (e.sampleOf slot).trigger :=
    List.map_congr_left fun slot hslot => by rw [hsecond slot hslot]
  have hrecords : ((e.sampled first).sampled second).actionRecords =
      (e.sampled (first ++ second)).actionRecords := by
    refine Slots.ext fun slot => ?_
    simp only [sampled, Slots.get_ofFn, List.mem_append]
    by_cases hslot : slot ∈ second
    · simp only [hslot, or_true, if_true]
      exact congrArg Actionpoint.Sample.record (hsecond slot hslot)
    · simp only [hslot, or_false, if_false]
  have hnoted : (e.sampled first).counters.noteAll
        (second.map fun slot => ((e.sampled first).sampleOf slot).trigger) =
      { e.counters.noteAll ((first ++ second).map fun slot => (e.sampleOf slot).trigger) with
        samples := e.counters.samples.next } := by
    rw [htriggers, List.map_append, Counters.noteAll_append]
    exact Counters.noteAll_samples _ _ _
  have hcounters : ((e.sampled first).sampled second).counters =
      { (e.sampled (first ++ second)).counters with samples := e.counters.samples.next.next } := by
    calc ((e.sampled first).sampled second).counters
        = { (e.sampled first).counters.noteAll
              (second.map fun slot => ((e.sampled first).sampleOf slot).trigger) with
            samples := e.counters.samples.next.next } := rfl
      _ = _ := by
          rw [hnoted]
          rfl
  calc (e.sampled first).sampled second
      = { e with
          actionRecords := ((e.sampled first).sampled second).actionRecords
          counters := ((e.sampled first).sampled second).counters } := rfl
    _ = _ := by rw [hrecords, hcounters]; rfl

/-! ## Requests -/

/-- **A request falls into two at every slot of its range.** The second of them is the one
that ages the verdicts, if the whole request does. -/
theorem sample_split (hmode : e.mode ≠ .disabled) {a b c : UInt16} (hab : a ≤ b) (hbc : b < c)
    (hlast : c.toNat < actionCapacity) (aging : Bool) :
    let first := e.sample ⟨a, b, false⟩
    let second := first.engine.sample ⟨b + 1, c, aging⟩
    let whole := e.sample ⟨a, c, aging⟩
    (first.answer = .ok () ∧ second.answer = .ok () ∧ whole.answer = .ok ()) ∧
      first.trace ++ second.trace = whole.trace ∧
      whole.engine.counters.samples = e.counters.samples.next ∧
      second.engine = { whole.engine with
        counters := { whole.engine.counters with samples := e.counters.samples.next.next } } := by
  have hbc' := UInt16.lt_iff_toNat_lt.mp hbc
  have hac : a ≤ c := UInt16.le_trans hab (UInt16.le_of_lt hbc)
  have hmiddle : b + 1 ≤ c := by
    rw [UInt16.le_iff_toNat_le, Request.toNat_succ_of_lt hbc]
    exact hbc'
  have hfirst := sample_eq hmode (Request.scope_range hab (hbc'.trans hlast) false)
  have hwhole := sample_eq hmode (Request.scope_range hac hlast aging)
  have hsecond := sample_eq (e := e.sampled (Request.range a b)) hmode
    (Request.scope_range hmiddle hlast aging)
  have disjoint := Request.range_disjoint hab hbc
  intro first second whole
  have hengine : first.engine = e.sampled (Request.range a b) := by
    simp only [first, hfirst, Bool.false_eq_true, if_false]
  have htraces : ((Request.range (b + 1) c).flatMap fun slot =>
        ((e.sampled (Request.range a b)).sampleOf slot).trace) =
      (Request.range (b + 1) c).flatMap fun slot => (e.sampleOf slot).trace :=
    List.flatMap_congr fun slot hslot => by
      rw [sampleOf_sampled fun hslot' => disjoint hslot' hslot]
  have hsampled := sampled_sampled (e := e) disjoint
  rw [Request.range_append hab hbc] at hsampled
  simp only [second, hengine, hsecond, htraces]
  simp only [first, whole, hfirst, hwhole, true_and]
  refine ⟨?_, ?_, ?_⟩
  · rw [← List.flatMap_append, Request.range_append hab hbc]
  · cases aging <;> rfl
  · rw [hsampled]
    cases aging <;> rfl

/-- **Requests for different slots commute**, where neither ages the verdicts. -/
theorem sample_comm (e : Engine) (hq : q.aging = false) (hq' : q'.aging = false)
    (disjoint : ∀ slot, ¬ (q.covers slot = true ∧ q'.covers slot = true)) :
    ((e.sample q).engine.sample q').engine = ((e.sample q').engine.sample q).engine := by
  -- a request without slots is none, before and after the other
  by_cases hnone : e.mode = .disabled ∨ ∀ range, q.scope ≠ .slots range
  · have hnone' : (e.sample q').engine.mode = .disabled ∨ ∀ range, q.scope ≠ .slots range := by
      rw [show (e.sample q').engine.mode = e.mode from e.mode_perform (.sample q')]
      exact hnone
    rw [(sample_of_not_slots hnone).1, (sample_of_not_slots hnone').1]
  by_cases hnone' : e.mode = .disabled ∨ ∀ range, q'.scope ≠ .slots range
  · have hnone'' : (e.sample q).engine.mode = .disabled ∨ ∀ range, q'.scope ≠ .slots range := by
      rw [show (e.sample q).engine.mode = e.mode from e.mode_perform (.sample q)]
      exact hnone'
    rw [(sample_of_not_slots hnone').1, (sample_of_not_slots hnone'').1]
  simp only [not_or, not_forall, not_not] at hnone hnone'
  obtain ⟨hmode, first, hfirst⟩ := hnone
  obtain ⟨-, second, hsecond⟩ := hnone'
  have hdisjoint : first.Disjoint second := by
    intro slot hslot hslot'
    refine disjoint slot ⟨?_, ?_⟩
    · rw [Request.covers_of_scope hfirst]
      exact decide_eq_true hslot
    · rw [Request.covers_of_scope hsecond]
      exact decide_eq_true hslot'
  have hsampled (start : Engine) {slots : List ActionSlot} {request : Request}
      (hstart : start.mode = e.mode) (haging : request.aging = false)
      (hscope : request.scope = .slots slots) :
      (start.sample request).engine = start.sampled slots := by
    rw [sample_eq (hstart ▸ hmode) hscope, haging]
    rfl
  rw [hsampled e rfl hq hfirst, hsampled e rfl hq' hsecond,
    hsampled (e.sampled first) rfl hq' hsecond, hsampled (e.sampled second) rfl hq hfirst,
    sampled_sampled hdisjoint, sampled_sampled (List.disjoint_symm hdisjoint),
    sampled_perm List.perm_append_comm]

/-- **Sampling is slot by slot, and ranges compose.** Take any engine that is not disabled.

A request for a range inside the table can be made in two parts, the first without aging:
all are accepted, the parts have the trace of the whole between them, in its order, and
they leave what the whole leaves, counted as two requests and not as one. Two requests
without aging that have no slot in common leave the same in either order. A request for
every slot is that for the range of all numbers.

A slot that a request does not ask for keeps its record. A slot that it asks for gets a
record that depends on the mode, the verdicts, the actionpoint in the slot and its record
before: two engines that agree on these leave the same, whatever else the requests ask
for. -/
theorem sampling_composes (e : Engine) (hmode : e.mode ≠ .disabled) :
    (∀ (a b c : UInt16) (aging : Bool), a ≤ b → b < c → c.toNat < actionCapacity →
      let first := e.sample ⟨a, b, false⟩
      let second := first.engine.sample ⟨b + 1, c, aging⟩
      let whole := e.sample ⟨a, c, aging⟩
      (first.answer = .ok () ∧ second.answer = .ok () ∧ whole.answer = .ok ()) ∧
        first.trace ++ second.trace = whole.trace ∧
        whole.engine.counters.samples = e.counters.samples.next ∧
        second.engine = { whole.engine with
          counters := { whole.engine.counters with samples := e.counters.samples.next.next } }) ∧
    (∀ q q' : Request, q.aging = false → q'.aging = false →
      (∀ slot, ¬ (q.covers slot = true ∧ q'.covers slot = true)) →
      ((e.sample q).engine.sample q').engine = ((e.sample q').engine.sample q).engine) ∧
    (∀ aging, e.sample ⟨everySlot, everySlot, aging⟩ = e.sample ⟨0, 175, aging⟩) ∧
    (∀ (q : Request) (slot : ActionSlot), q.covers slot = false →
      (e.sample q).engine.actionRecords.get slot = e.actionRecords.get slot) ∧
    (∀ (e' : Engine) (q q' : Request) (slot : ActionSlot), q.covers slot = true →
      q'.covers slot = true → e'.mode = e.mode → e'.verdicts = e.verdicts →
      e'.actionpoints.get slot = e.actionpoints.get slot →
      e'.actionRecords.get slot = e.actionRecords.get slot →
      (e'.sample q').engine.actionRecords.get slot =
        (e.sample q).engine.actionRecords.get slot) := by
  refine ⟨?_, ?_, ?_, ?_, ?_⟩
  · intro a b c aging hab hbc hlast
    exact sample_split hmode hab hbc hlast aging
  · intro q q' hq hq' disjoint
    exact e.sample_comm hq hq' disjoint
  · intro aging
    have hscope : Request.scope ⟨0, 175, aging⟩ = .slots (Request.range 0 175) :=
      Request.scope_range (by decide) (by decide) aging
    rw [sample_eq hmode hscope, sample_eq hmode ((Request.scope_every aging).trans hscope)]
  · intro q slot hslot
    exact get_sample_of_not_covers hslot
  · intro e' q q' slot hq hq' hsame hverdicts hentry hrecord
    exact get_sample_congr hsame hverdicts hentry hrecord hq hq'

/-- With a verdict above its reference, a request for its slot triggers the one
actionpoint. -/
theorem Reachable.state_sample_one (h : Reachable e) (hone : e.StartsOne)
    (hmode : e.mode ≠ .disabled)
    (hreceived : e' = (e.perform (.receive ⟨⟨0x820⟩, #[9], 100⟩ .unregistered)).engine) :
    e'.mode ≠ .disabled ∧
      ((e'.sample ⟨0, 0, false⟩).engine.actionRecords.get 0).state = .passive := by
  obtain ⟨hsame, hrecord, hchange⟩ := h.change_sample_one hone hmode
  rw [← hreceived] at hsame hrecord hchange
  have hsampled : (e'.sample ⟨0, 0, false⟩).engine.actionRecords.get 0 = _ :=
    e'.get_perform (.sample ⟨0, 0, false⟩) 0
  refine ⟨hsame.trans_ne hmode, ?_⟩
  rw [hsampled, hchange, Actionpoint.Change.apply, Actionpoint.state_note, hrecord]
  rfl

/-- A request whose first slot triggers the one actionpoint, in two parts: the trigger is in
the first, the aging in the second. -/
theorem sampling_composes_one :
    let e := ((initial.perform (.load oneWatchpoint oneActionpoint .willing)).engine.perform
      (.receive ⟨⟨0x820⟩, #[9], 100⟩ .unregistered)).engine
    e.mode ≠ .disabled ∧
      (e.sample ⟨0, 0, false⟩).trace ++
          ((e.sample ⟨0, 0, false⟩).engine.sample ⟨1, 9, true⟩).trace =
        (e.sample ⟨0, 9, true⟩).trace ∧
      ((e.sample ⟨0, 9, true⟩).engine.actionRecords.get 0).state = .passive := by
  intro e
  have hactive : (initial.perform (.load oneWatchpoint oneActionpoint .willing)).engine.mode =
      .active := initial.mode_perform (.load oneWatchpoint oneActionpoint .willing)
  obtain ⟨hmode, hstate⟩ := (reachable_initial.perform _).state_sample_one
    (initial.startsOne_perform .willing) (hactive.trans_ne (by decide)) (show e = _ from rfl)
  obtain ⟨hsplit, -, -, -, hsampled⟩ := sampling_composes e hmode
  -- the record of the slot is that of the request for it alone
  have hcovers : Request.covers ⟨0, 0, false⟩ 0 = true :=
    Request.covers_range (by decide) (by decide) false 0
  have hcovers' : Request.covers ⟨0, 9, true⟩ 0 = true :=
    Request.covers_range (by decide) (by decide) true 0
  have htraces := (hsplit 0 0 9 true (by decide) (by decide) (by decide)).2.1
  rw [show (0 : UInt16) + 1 = 1 from rfl] at htraces
  refine ⟨hmode, htraces, ?_⟩
  rw [hsampled e _ _ 0 hcovers hcovers' rfl rfl rfl rfl]
  exact hstate

end Engine

end LimitMonitor
