import LimitMonitor.Proofs.Engine.Reload
import LimitMonitor.Proofs.Table.Tally

/-!
# Reports and what a load makes of them

A table is decoded three times over. Its report counts what decodes, a load that finds no
defect decodes the entries again and drops those that fail, and whether an entry is unused
is a test of one field that decodes nothing. All three agree: an accepted load drops
nothing (`decode_eq_of_isOk_load`), the entries that decode to nothing are those that say so
(`Watchpoint.decode_eq_none_iff`, `Actionpoint.decode_eq_none_iff`), and so as many slots
are filled as the report has good entries.

Main statement: `reports_agree_with_load`.
-/

namespace LimitMonitor

/-! ## Unused entries -/

/-- A watchpoint definition decodes to nothing exactly if it says that its slot is empty. -/
theorem Watchpoint.decode_eq_none_iff {d : Definition} :
    decode d = .ok none ↔ d.isUnused = true := by
  rw [Definition.isUnused, beq_iff_eq]
  refine ⟨fun h => ?_, fun h => ?_⟩
  · unfold decode at h
    split at h
    · cases h
    · next hformat => exact (Format.code_of_ofCode? hformat).symm
    · -- an entry of any other format is filled or fails
      repeat' split at h
      all_goals cases h
  · rw [decode, h, Format.ofCode?_code]

namespace Actionpoint

theorem State.code_of_ofCode? {code : UInt8} {state : State} (h : ofCode? code = some state) :
    state.code = code := by
  unfold ofCode? at h
  split at h
  case h_6 => cases h
  all_goals
    obtain rfl := Option.some.inj h
    rfl

/-- An actionpoint definition decodes to nothing exactly if it says that its slot is
empty. -/
theorem decode_eq_none_iff {d : Definition} : decode d = .ok none ↔ d.isUnused = true := by
  rw [Definition.isUnused, beq_iff_eq]
  refine ⟨fun h => ?_, fun h => ?_⟩
  · unfold decode at h
    split at h
    · cases h
    · next hstate => exact (State.code_of_ofCode? hstate).symm
    · repeat' split at h
      all_goals cases h
  · rw [decode, h, State.ofCode?_code]

/-- What a definition starts in is the state that it names. -/
theorem code_defaultState_of_decode {d : Definition} {a : Actionpoint}
    (h : decode d = .ok (some a)) : a.defaultState.code = d.defaultState := by
  unfold decode at h
  split at h
  · cases h
  · cases h
  · next hstate =>
    repeat' split at h
    all_goals cases h
    exact State.code_of_ofCode? hstate

end Actionpoint

namespace Engine

variable {e : Engine} {watchTable : WatchTable} {actionTable : ActionTable} {t : Transport}

/-! ## Reports -/

theorem describes_ofWatchpoints {table : List Watchpoint.Definition} (h : table.length ≤ 65535) :
    (TableReport.ofWatchpoints table).Describes Watchpoint.decode Watchpoint.Definition.isUnused
      table :=
  TableReport.describes_ofDecoded (fun _ => Watchpoint.decode_eq_none_iff.symm) h

theorem describes_ofActionpoints {table : List Actionpoint.Definition}
    (h : table.length ≤ 65535) :
    (TableReport.ofActionpoints table).Describes Actionpoint.decode
      Actionpoint.Definition.isUnused table :=
  TableReport.describes_ofDecoded (fun _ => Actionpoint.decode_eq_none_iff.symm) h

/-- **The answer to a load is read off its two reports.** -/
theorem answer_load_eq_ok_iff {report : LoadReport} :
    (e.load watchTable actionTable t).answer = .ok report ↔
      (TableReport.ofWatchpoints watchTable.toList).firstDefect = none ∧
      (TableReport.ofActionpoints actionTable.toList).firstDefect = none ∧
      report = ⟨(TableReport.ofWatchpoints watchTable.toList).tally,
        (TableReport.ofActionpoints actionTable.toList).tally⟩ := by
  simp only [load, TableReport.verdict]
  cases (TableReport.ofWatchpoints watchTable.toList).firstDefect with
  | some first => simp
  | none =>
    cases (TableReport.ofActionpoints actionTable.toList).firstDefect with
    | some first => simp
    | none => simp [eq_comm]

/-- The tally of a table without a defect. -/
theorem tally_of_firstDefect_eq_none {α δ : Type} {r : TableReport}
    {decode : δ → Except Defect (Option α)} {isUnused : δ → Bool} {n : Nat} {table : Vector δ n}
    (h : r.Describes decode isUnused table.toList) (hfirst : r.firstDefect = none) :
    r.tally.bad = 0 ∧ r.tally.good.toNat + r.tally.unused.toNat = n := by
  have hbad := h.valid.mp hfirst
  have htotal := h.total
  rw [hbad, Vector.length_toList, UInt16.toNat_zero, Nat.add_zero] at htotal
  exact ⟨hbad, htotal⟩

/-! ## Loaded slots -/

/-- A load that is accepted drops no entry. -/
theorem decode_eq_of_isOk_load (accepted : (e.load watchTable actionTable t).answer.isOk = true) :
    (∀ slot, Watchpoint.decode (watchTable.get slot) =
      .ok ((e.load watchTable actionTable t).engine.watchpoints.get slot)) ∧
    ∀ slot, Actionpoint.decode (actionTable.get slot) =
      .ok ((e.load watchTable actionTable t).engine.actionpoints.get slot) := by
  have eq_entryOf {α : Type} {decoded : Except Defect (Option α)} (h : decoded.isOk = true) :
      decoded = .ok (entryOf decoded) := by
    cases decoded with
    | ok entry => rfl
    | error defect => cases h
  obtain ⟨hwatch, haction⟩ := e.isOk_load_iff.mp accepted
  rw [engine_load_of_isOk accepted]
  simp only [installed, install, Slots.get_map]
  exact ⟨fun slot => eq_entryOf (hwatch slot), fun slot => eq_entryOf (haction slot)⟩

/-- **A load fills as many slots as the report of its table has good entries.** -/
theorem watchpointsInUse_installed (e : Engine) (watchTable : WatchTable)
    (actionTable : ActionTable) :
    (e.installed watchTable actionTable).watchpointsInUse =
      (TableReport.ofWatchpoints watchTable.toList).tally.good := by
  have hgood (d : Watchpoint.Definition) :
      (entryOf (Watchpoint.decode d)).isSome = Entry.isGood (Watchpoint.decode d) := by
    rcases Watchpoint.decode d with defect | _ | w <;> rfl
  simp only [watchpointsInUse, installed, install, TableReport.ofWatchpoints,
    TableReport.tally_ofDecoded, Vector.toList_map, List.countP_map, Function.comp_def, hgood]

/-- The record of a loaded actionpoint is the one that it starts with. -/
theorem actionRecords_load (accepted : (e.load watchTable actionTable t).answer.isOk = true)
    (slot : ActionSlot) :
    (e.load watchTable actionTable t).engine.actionRecords.get slot =
      startingRecord ((e.load watchTable actionTable t).engine.actionpoints.get slot) := by
  rw [engine_load_of_isOk accepted]
  simp only [installed, install, Slots.get_map]

/-- A slot is filled exactly if its entry does not say that it is empty. -/
theorem isSome_iff_of_decode {α δ : Type} {decode : δ → Except Defect (Option α)}
    {isUnused : δ → Bool} (hunused : ∀ d, decode d = .ok none ↔ isUnused d = true) {d : δ}
    {entry : Option α} (h : decode d = .ok entry) : entry.isSome = true ↔ isUnused d = false := by
  rw [← Bool.not_eq_true, ← hunused, h, Except.ok.injEq, Option.isSome_iff_ne_none]

/-- **Reports and loads agree.** Take a table of at most 65535 definitions. Its report counts
every entry once: as unused those that say so, as good those that decode to something, and
the others as bad. It has a defect exactly if some entry is bad, and this is that of the
first one.

Take any engine and two tables of its capacity. A load is accepted exactly if neither report
has a defect, and the answer has the tallies of both. Then no entry is bad and every other
one is good or unused, as many watchpoints are in use as the report has good entries, and
each slot holds what its definition decodes to, which is something exactly if the definition
does not say that the slot is empty. An actionpoint starts in the state that its definition
names, with a stale outcome and all statistics at zero. -/
theorem reports_agree_with_load :
    (∀ table : List Watchpoint.Definition, table.length ≤ 65535 →
      (TableReport.ofWatchpoints table).Describes Watchpoint.decode
        Watchpoint.Definition.isUnused table) ∧
    (∀ table : List Actionpoint.Definition, table.length ≤ 65535 →
      (TableReport.ofActionpoints table).Describes Actionpoint.decode
        Actionpoint.Definition.isUnused table) ∧
    ∀ (e : Engine) (watchTable : WatchTable) (actionTable : ActionTable) (t : Transport),
      let watch := TableReport.ofWatchpoints watchTable.toList
      let action := TableReport.ofActionpoints actionTable.toList
      let loaded := e.load watchTable actionTable t
      (loaded.answer.isOk = true ↔ watch.firstDefect = none ∧ action.firstDefect = none) ∧
      ∀ report, loaded.answer = .ok report →
        report = ⟨watch.tally, action.tally⟩ ∧
        report.watchpoints.good = loaded.engine.watchpointsInUse ∧
        (∀ tally ∈ [report.watchpoints, report.actionpoints],
          tally.bad = 0 ∧ tally.good.toNat + tally.unused.toNat = 176) ∧
        (∀ slot,
          Watchpoint.decode (watchTable.get slot) = .ok (loaded.engine.watchpoints.get slot) ∧
          ((loaded.engine.watchpoints.get slot).isSome = true ↔
            (watchTable.get slot).isUnused = false)) ∧
        ∀ slot,
          Actionpoint.decode (actionTable.get slot) = .ok (loaded.engine.actionpoints.get slot) ∧
          ((loaded.engine.actionpoints.get slot).isSome = true ↔
            (actionTable.get slot).isUnused = false) ∧
          ∀ a, loaded.engine.actionpoints.get slot = some a →
            let r := loaded.engine.actionRecords.get slot
            r = .starting a.defaultState ∧ r.state = a.defaultState ∧ r.outcome = .stale ∧
            (∀ statistic ∈ [r.passiveFailures, r.recoveries, r.onsets, r.streak, r.failures,
              r.responses, r.announcements], statistic.value = 0) ∧
            a.defaultState.code = (actionTable.get slot).defaultState := by
  refine ⟨fun table => describes_ofWatchpoints, fun table => describes_ofActionpoints, ?_⟩
  intro e watchTable actionTable t watch action loaded
  refine ⟨⟨fun accepted => ?_, fun ⟨hwatch, haction⟩ => ?_⟩, fun report hreport => ?_⟩
  · cases hanswer : loaded.answer with
    | ok report =>
      obtain ⟨hwatch, haction, -⟩ := answer_load_eq_ok_iff.mp hanswer
      exact ⟨hwatch, haction⟩
    | error refusal =>
      rw [hanswer] at accepted
      cases accepted
  · have hanswer : loaded.answer = .ok ⟨watch.tally, action.tally⟩ :=
      answer_load_eq_ok_iff.mpr ⟨hwatch, haction, rfl⟩
    rw [hanswer]
    rfl
  · have accepted : loaded.answer.isOk = true := by
      rw [hreport]
      rfl
    obtain ⟨hwatch, haction, rfl⟩ := answer_load_eq_ok_iff.mp hreport
    obtain ⟨hwatchpoints, hactionpoints⟩ := decode_eq_of_isOk_load accepted
    have hlength {δ : Type} (table : Vector δ 176) : table.toList.length ≤ 65535 := by
      rw [Vector.length_toList]
      decide
    refine ⟨rfl, ?_, ?_, fun slot => ⟨hwatchpoints slot, ?_⟩,
      fun slot => ⟨hactionpoints slot, ?_, fun a ha => ?_⟩⟩
    · have hengine : loaded.engine = e.installed watchTable actionTable :=
        engine_load_of_isOk accepted
      rw [hengine, watchpointsInUse_installed]
    · simp only [List.mem_cons, List.not_mem_nil, or_false, forall_eq_or_imp, forall_eq]
      exact ⟨tally_of_firstDefect_eq_none (describes_ofWatchpoints (hlength _)) hwatch,
        tally_of_firstDefect_eq_none (describes_ofActionpoints (hlength _)) haction⟩
    · exact isSome_iff_of_decode (fun _ => Watchpoint.decode_eq_none_iff) (hwatchpoints slot)
    · exact isSome_iff_of_decode (fun _ => Actionpoint.decode_eq_none_iff) (hactionpoints slot)
    · have hdecode := hactionpoints slot
      rw [ha] at hdecode
      have hrecord : loaded.engine.actionRecords.get slot = .starting a.defaultState := by
        rw [actionRecords_load accepted slot, ha]
        rfl
      simp only [hrecord]
      refine ⟨trivial, rfl, rfl, ?_, Actionpoint.code_defaultState_of_decode hdecode⟩
      simp only [List.forall_mem_cons]
      exact ⟨rfl, rfl, rfl, rfl, rfl, rfl, rfl, fun _ h => absurd h List.not_mem_nil⟩

end Engine

end LimitMonitor
