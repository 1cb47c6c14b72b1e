import LimitMonitor.Proofs.Engine.Tables
import LimitMonitor.Proofs.Table.Report

/-!
# A load forgets

Whether a load is accepted is a matter of its two tables (`isOk_load_iff`), and an
accepted load writes every field of the engine but the mode and the counters. Nothing of
what it overwrites goes into what it writes: not the tables that were in force, not the
records, not the old index, and not the answers of the transport. So all engines are
the same after it, up to the two fields that it leaves alone (`installed_eq`).

Main statement: `load_forgets_history`.
-/

namespace LimitMonitor

namespace Engine

variable {watchTable : WatchTable} {actionTable : ActionTable} {t : Transport}

/-! ## Acceptance -/

/-- The answer to a load depends on the tables alone. -/
theorem answer_load (e other : Engine) (watchTable : WatchTable) (actionTable : ActionTable)
    (t u : Transport) :
    (e.load watchTable actionTable t).answer = (other.load watchTable actionTable u).answer := by
  simp only [load]
  split
  · rfl
  · split <;> rfl

/-- So whether an operation is an accepted load is a matter of the operation. -/
theorem acceptsLoad_eq (e other : Engine) (operation : Operation) :
    e.acceptsLoad operation = other.acceptsLoad operation := by
  cases operation with
  | load watchTable actionTable t =>
    exact congrArg Except.isOk (answer_load e other watchTable actionTable t t)
  | _ => rfl

/-- **A load is accepted** exactly if every definition of both tables passes its checks. -/
theorem isOk_load_iff (e : Engine) :
    (e.load watchTable actionTable t).answer.isOk = true ↔
      (∀ slot, (Watchpoint.decode (watchTable.get slot)).isOk = true) ∧
        ∀ slot, (Actionpoint.decode (actionTable.get slot)).isOk = true := by
  have hwatch := TableReport.verdict_ofTable Watchpoint.decode watchTable .watchpoints
  have haction := TableReport.verdict_ofTable Actionpoint.decode actionTable .actionpoints
  simp only [load, TableReport.ofWatchpoints, TableReport.ofActionpoints]
  split
  · next refusal hverdict =>
    rw [hverdict] at hwatch
    obtain ⟨slot, defect, hfails, -⟩ := hwatch
    refine ⟨fun haccepted => absurd haccepted Bool.false_ne_true, fun h => ?_⟩
    have hok := h.1 slot
    rw [hfails.1] at hok
    cases hok
  · next watchTally hverdict =>
    rw [hverdict] at hwatch
    split
    · next refusal hverdict' =>
      rw [hverdict'] at haction
      obtain ⟨slot, defect, hfails, -⟩ := haction
      refine ⟨fun haccepted => absurd haccepted Bool.false_ne_true, fun h => ?_⟩
      have hok := h.2 slot
      rw [hfails.1] at hok
      cases hok
    · next actionTally hverdict' =>
      rw [hverdict'] at haction
      exact ⟨fun _ => ⟨hwatch, haction⟩, fun _ => rfl⟩

/-! ## One watchpoint and one actionpoint -/

/-- The watchpoint table with one entry, on the first byte of a message. Its verdicts
last two cycles. -/
def oneWatchpoint : WatchTable :=
  Vector.ofFn fun slot =>
    if slot = 0 then
      ((Watchpoint.Definition.watching .uint8 .gt 0x820 0).withReference 5).withStaleAfter 2
    else .unused

/-- The actionpoint table with one entry, which responds when that watchpoint says
`yes`. -/
def oneActionpoint : ActionTable :=
  Vector.ofFn fun slot =>
    if slot = 0 then .responding .active 7 1 [0, Token.equal.code] else .unused

/-- The two tables are accepted. -/
theorem isOk_load_one (e : Engine) (t : Transport) :
    (e.load oneWatchpoint oneActionpoint t).answer.isOk = true := by
  refine e.isOk_load_iff.mpr ⟨fun slot => ?_, fun slot => ?_⟩
  · rw [oneWatchpoint, Slots.get_ofFn]
    split <;> decide
  · rw [oneActionpoint, Slots.get_ofFn]
    split <;> decide

/-! ## What is installed -/

/-- An accepted load leaves the engine with its tables installed. -/
theorem engine_load_of_isOk {e : Engine}
    (accepted : (e.load watchTable actionTable t).answer.isOk = true) :
    (e.load watchTable actionTable t).engine = e.installed watchTable actionTable := by
  rw [engine_load, if_pos accepted]

/-- So does the run of that load alone. -/
theorem run_load_of_isOk {e : Engine}
    (accepted : (e.load watchTable actionTable t).answer.isOk = true) :
    e.run [.load watchTable actionTable t] = e.installed watchTable actionTable :=
  engine_load_of_isOk accepted

/-- The two tables of one entry are in force, and the actionpoint is as it starts. -/
structure StartsOne (e : Engine) : Prop where
  watchpoint : e.watchpoints.get 0 = some ⟨.uint8, .gt, ⟨0x820⟩, 0, 0xFFFFFFFF, .uint8 5, 2, 0⟩
  actionpoint : e.actionpoints.get 0 =
    some ⟨.active, 1, 1, 1, 7, 1, Equation.ofCodes [0, Token.equal.code], .info, 0, .empty⟩
  record : e.actionRecords.get 0 = .starting .active

theorem startsOne_installed (e : Engine) :
    (e.installed oneWatchpoint oneActionpoint).StartsOne := by
  refine ⟨?_, ?_, ?_⟩
  all_goals
    simp only [installed, install, oneWatchpoint, oneActionpoint, Slots.get_map, Slots.get_ofFn]
    rfl

theorem startsOne_perform (e : Engine) (t : Transport) :
    (e.perform (.load oneWatchpoint oneActionpoint t)).engine.StartsOne := by
  simp only [perform, Step.reply, engine_load_of_isOk (e.isOk_load_one t)]
  exact e.startsOne_installed

/-- **Installing tables keeps the mode and the counters and nothing else.** -/
theorem installed_eq (e other : Engine) (watchTable : WatchTable) (actionTable : ActionTable) :
    e.installed watchTable actionTable =
      { other.installed watchTable actionTable with mode := e.mode, counters := e.counters } :=
  rfl

/-- **An accepted load forgets all history.** Take any two runs, a pair of tables that is
accepted after the first, and any answers of the transport. The tables are accepted after
the second run as well, and both engines are then a fresh engine that loads these tables,
but for the mode and the counters, which each keeps as they were before the load. So
both tables of definitions, both tables of records and the index are those of the fresh
engine. To load the same tables again changes nothing. -/
theorem load_forgets_history (first second : List Operation) (watchTable : WatchTable)
    (actionTable : ActionTable) (t t' u : Transport)
    (accepted : ((initial.run first).load watchTable actionTable t).answer.isOk = true) :
    let e := initial.run first
    let e' := initial.run second
    let loaded := e.load watchTable actionTable t
    let loaded' := e'.load watchTable actionTable t'
    let fresh := (initial.load watchTable actionTable u).engine
    loaded'.answer = loaded.answer ∧
    loaded.engine = { fresh with mode := e.mode, counters := e.counters } ∧
    loaded'.engine = { fresh with mode := e'.mode, counters := e'.counters } ∧
    (loaded.engine.load watchTable actionTable u).engine = loaded.engine := by
  intro e e' loaded loaded' fresh
  have hloaded : loaded.engine = e.installed watchTable actionTable := engine_load_of_isOk accepted
  -- acceptance carries over to any engine, so each of them installs the tables
  have installs (other : Engine) (v : Transport) :
      (other.load watchTable actionTable v).engine = other.installed watchTable actionTable := by
    apply engine_load_of_isOk
    rw [answer_load other e watchTable actionTable v t]
    exact accepted
  have hfresh : fresh = initial.installed watchTable actionTable := installs initial u
  refine ⟨answer_load e' e watchTable actionTable t' t, ?_, ?_, ?_⟩
  · rw [hloaded, hfresh]
    exact e.installed_eq initial watchTable actionTable
  · rw [hfresh]
    exact (installs e' t').trans (e'.installed_eq initial watchTable actionTable)
  · calc (loaded.engine.load watchTable actionTable u).engine
        = loaded.engine.installed watchTable actionTable := installs loaded.engine u
      _ = (e.installed watchTable actionTable).installed watchTable actionTable := by rw [hloaded]
      _ = e.installed watchTable actionTable := rfl
      _ = loaded.engine := hloaded.symm

/-- An engine that has watched, sampled and responded, and one that is disabled and has
seen nothing, load the same tables, the second over a transport that refuses everything. -/
theorem load_forgets_history_one :
    let used : List Operation :=
      [.load oneWatchpoint oneActionpoint .willing, .receive ⟨⟨0x820⟩, #[9], 100⟩ .unregistered,
        .sample .all, .setMode .passive]
    let unused : List Operation := [.setMode .disabled]
    let refusing : Transport := ⟨fun _ => some (-1), fun _ => some (-2)⟩
    let fresh := (initial.load oneWatchpoint oneActionpoint .willing).engine
    ((initial.run used).load oneWatchpoint oneActionpoint .willing).answer.isOk = true ∧
    ((initial.run used).load oneWatchpoint oneActionpoint .willing).engine =
      { fresh with mode := .passive, counters := (initial.run used).counters } ∧
    ((initial.run unused).load oneWatchpoint oneActionpoint refusing).engine =
      { fresh with mode := .disabled, counters := .zero } := by
  intro used unused refusing fresh
  have accepted := isOk_load_one (initial.run used) .willing
  obtain ⟨-, hused, hunused, -⟩ := load_forgets_history used unused oneWatchpoint oneActionpoint
    .willing refusing .willing accepted
  exact ⟨accepted, hused, hunused⟩

end Engine

end LimitMonitor
