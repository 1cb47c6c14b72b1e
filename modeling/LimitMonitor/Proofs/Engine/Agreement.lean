import LimitMonitor.Proofs.Engine.Change
import LimitMonitor.Proofs.Equation.Expression
import LimitMonitor.Proofs.Watchpoint.Staleness

/-!
# Records agree with the tables

A slot has an entry in its table, which is a definition or nothing, and a record beside it.
`Agrees` says which records go with which entries, once for each of the two tables: beside
an empty entry stands the initial record, beside a watchpoint one whose countdown is
within the horizon (`Within`), and beside an actionpoint one that is not unused.

An accepted load writes entries and records together. Every other operation leaves the
entries alone and makes one change of the record, and no change leads away from an
agreement (`agrees_watchChange`, `agrees_change`).

Main statement: `records_agree_with_tables`.
-/

namespace LimitMonitor

/-! ## Watchpoints -/

namespace Watchpoint

namespace Record

/-- The record keeps to a horizon: so many cycles, or zero for none. -/
structure Within (horizon : UInt32) (r : Record) : Prop where
  /-- No countdown is longer than the horizon. -/
  countdown_le : r.countdown ≤ horizon
  /-- An error has no countdown. -/
  error : r.verdict = .error → r.countdown = 0
  /-- A definite verdict has a cycle left, if there is a horizon. -/
  definite : r.verdict = .yes ∨ r.verdict = .no → 0 < horizon → 1 ≤ r.countdown

variable {horizon : UInt32} {r : Record}

theorem within_initial (horizon : UInt32) : initial.Within horizon where
  countdown_le := UInt32.zero_le
  error := nofun
  definite := nofun

/-- One cycle less, or a verdict that is no longer definite. -/
theorem Within.age (h : r.Within horizon) : r.age.Within horizon := by
  unfold Record.age
  split
  · exact h
  · next hzero =>
    split
    · exact { countdown_le := UInt32.zero_le, error := nofun, definite := nofun }
    · next hone =>
      have htwo : 2 ≤ r.countdown.toNat := by
        have hzero' : r.countdown.toNat ≠ 0 := fun heq => hzero (UInt32.toNat_inj.mp heq)
        have hone' : r.countdown.toNat ≠ 1 := fun heq => hone (UInt32.toNat_inj.mp heq)
        omega
      have hbound := UInt32.le_iff_toNat_le.mp h.countdown_le
      have hle : (1 : UInt32) ≤ r.countdown :=
        UInt32.le_iff_toNat_le.mpr (Nat.le_of_succ_le htwo)
      have hnext : (r.countdown - 1).toNat = r.countdown.toNat - 1 :=
        UInt32.toNat_sub_of_le _ _ hle
      refine ⟨?_, fun herror => absurd (h.error herror) hzero, fun _ _ => ?_⟩
      · rw [UInt32.le_iff_toNat_le, hnext]
        omega
      · rw [UInt32.le_iff_toNat_le, hnext]
        exact Nat.le_sub_of_add_le htwo

/-- An evaluation starts the countdown anew at the horizon of the watchpoint. -/
theorem within_fold (r : Record) (result : Except Field.Fault Reading) (timestamp : Timestamp)
    (horizon : UInt32) : (r.fold result timestamp horizon).Within horizon := by
  have hcountdown := r.countdown_fold result timestamp horizon
  refine ⟨?_, fun herror => ?_, fun hdefinite hhorizon => ?_⟩
  · rw [hcountdown]
    split
    · exact UInt32.zero_le
    · exact UInt32.le_refl _
  · rw [hcountdown, if_pos herror]
  · have hnoerror : (r.fold result timestamp horizon).verdict ≠ .error := fun herror => by
      rw [herror] at hdefinite
      rcases hdefinite with h | h <;> cases h
    rw [hcountdown, if_neg hnoerror]
    exact UInt32.le_iff_toNat_le.mpr (UInt32.lt_iff_toNat_lt.mp hhorizon)

/-- The record goes with the entry of its slot. -/
def Agrees : Option Watchpoint → Record → Prop
  | none, r => r = .initial
  | some w, r => r.Within w.staleAfter

/-- The initial record goes with every entry. -/
theorem agrees_initial (entry : Option Watchpoint) : initial.Agrees entry := by
  cases entry with
  | none => rfl
  | some w => exact within_initial w.staleAfter

theorem Agrees.age {entry : Option Watchpoint} (h : r.Agrees entry) : r.age.Agrees entry := by
  cases entry with
  | none =>
    have hinitial : r = .initial := h
    rw [hinitial]
    rfl
  | some w => exact Within.age h

end Record

end Watchpoint

/-! ## Actionpoints -/

namespace Actionpoint

/-- The record goes with the entry of its slot. -/
def Record.Agrees : Option Actionpoint → Record → Prop
  | none, r => r = .initial
  | some _, r => r.state ≠ .unused

/-- A record in use stands beside an actionpoint, and so may any other in use. -/
theorem Record.Agrees.of_used {entry : Option Actionpoint} {r r' : Record} (h : r.Agrees entry)
    (hr : r.state ≠ .unused) (hr' : r'.state ≠ .unused) : r'.Agrees entry := by
  cases entry with
  | none =>
    have hinitial : r = .initial := h
    exact absurd (congrArg Record.state hinitial) hr
  | some a => exact hr'

theorem Record.Agrees.cleared {entry : Option Actionpoint} {r : Record} (h : r.Agrees entry) :
    r.cleared.Agrees entry := by
  cases entry with
  | none =>
    have hinitial : r = .initial := h
    rw [hinitial]
    rfl
  | some a => exact h

/-- A decoded actionpoint starts in a state of use. -/
theorem defaultState_of_decode {d : Definition} {a : Actionpoint}
    (h : decode d = .ok (some a)) : a.defaultState ≠ .unused := by
  unfold decode at h
  split at h
  · cases h
  · cases h
  · next state hunused _ =>
    -- of the checks that follow, only the last leaves an actionpoint
    repeat' split at h
    all_goals cases h
    exact hunused

end Actionpoint

namespace Engine

open Actionpoint (Change State)

variable {e : Engine}

/-- What a load puts into a slot agrees with the record that it puts beside it. -/
theorem agrees_startingRecord (d : Actionpoint.Definition) :
    (startingRecord (entryOf (Actionpoint.decode d))).Agrees (entryOf (Actionpoint.decode d)) := by
  cases hdecode : Actionpoint.decode d with
  | error defect => rfl
  | ok entry =>
    cases entry with
    | none => rfl
    | some a => exact Actionpoint.defaultState_of_decode hdecode

/-! ## Changes -/

/-- **A change of a watchpoint record keeps the agreement.** -/
theorem agrees_watchChange {slot : WatchSlot}
    (h : (e.watchRecords.get slot).Agrees (e.watchpoints.get slot)) (operation : Operation) :
    ((e.watchChange slot operation).apply (e.watchRecords.get slot)).Agrees
      (e.watchpoints.get slot) := by
  cases hchange : e.watchChange slot operation with
  | keep => exact h
  | load | clear => exact Watchpoint.Record.agrees_initial _
  | age => exact h.age
  | note result timestamp staleAfter =>
    obtain ⟨m, p, w, -, hw, -, rfl⟩ := e.receive_of_watchChange hchange
    rw [hw]
    exact Watchpoint.Record.within_fold _ _ _ _

/-- **A change of an actionpoint record keeps the agreement**, if it is no load. -/
theorem agrees_change {slot : ActionSlot} {operation : Operation}
    (haccepts : e.acceptsLoad operation = false)
    (h : (e.actionRecords.get slot).Agrees (e.actionpoints.get slot)) :
    ((e.change slot operation).apply slot e.mode (e.actionRecords.get slot)).Agrees
      (e.actionpoints.get slot) := by
  have hspec := e.change_spec slot operation
  -- a record in a state that admits the change is in use, and the change leaves it so
  cases hchange : e.change slot operation with
  | keep => exact h
  | load entry =>
    rw [hchange] at hspec
    exact absurd (haccepts.symm.trans hspec) Bool.false_ne_true
  | clear => exact h.cleared
  | command state =>
    rw [hchange] at hspec
    obtain ⟨target, -, hstate, -, hadmits⟩ := hspec
    have hused : (e.actionRecords.get slot).state ≠ .unused :=
      ne_of_apply_ne State.admitsCommand (by rw [hadmits]; decide)
    have hused' : state ≠ .unused := ne_of_apply_ne State.isCommandable (by rw [hstate]; decide)
    exact h.of_used hused hused'
  | switchOff =>
    rw [hchange] at hspec
    have hused : (e.actionRecords.get slot).state ≠ .unused := by
      rw [hspec.2]
      decide
    have hoff : State.permanentlyOff ≠ .unused := by decide
    exact h.of_used hused hoff
  | sample a outcome =>
    rw [hchange] at hspec
    obtain ⟨q, -, -, hsampled, -⟩ := hspec
    have hused : (e.actionRecords.get slot).state ≠ .unused :=
      ne_of_apply_ne State.isSampled (by rw [hsampled]; decide)
    refine h.of_used hused ?_
    rw [Change.apply, Actionpoint.state_note]
    split
    · decide
    · exact hused

/-! ## Runs -/

/-- **The records of the watchpoint table agree with it**, after every run. -/
theorem Reachable.agrees_watchRecord (h : Reachable e) (slot : WatchSlot) :
    (e.watchRecords.get slot).Agrees (e.watchpoints.get slot) := by
  refine h.induction_installed
    (P := fun e => (e.watchRecords.get slot).Agrees (e.watchpoints.get slot)) ?_ ?_ ?_
  · simp only [initial, Slots.get_replicate]
    rfl
  · intro e watchTable actionTable
    have hrecord : (e.installed watchTable actionTable).watchRecords.get slot = .initial :=
      Slots.get_replicate _ _
    rw [hrecord]
    exact Watchpoint.Record.agrees_initial _
  · intro e operation reachable haccepts ih
    rw [reachable.get_watchRecords_perform, (perform_tables haccepts).1]
    exact agrees_watchChange ih operation

/-- **The records of the actionpoint table agree with it**, after every run. -/
theorem Reachable.agrees_actionRecord (h : Reachable e) (slot : ActionSlot) :
    (e.actionRecords.get slot).Agrees (e.actionpoints.get slot) := by
  refine h.induction_installed
    (P := fun e => (e.actionRecords.get slot).Agrees (e.actionpoints.get slot)) ?_ ?_ ?_
  · simp only [initial, Slots.get_replicate]
    rfl
  · intro e watchTable actionTable
    simp only [installed, install, Slots.get_map]
    exact agrees_startingRecord _
  · intro e operation _ haccepts ih
    rw [get_perform, (perform_tables haccepts).2.1]
    exact agrees_change haccepts ih

/-- **Records agree with the tables**, after every run. Beside an empty watchpoint slot
stands the initial record, so its verdict is `stale`, and an operand of an equation that
names the slot pushes `stale`. An actionpoint slot is empty exactly if its record is in the
state unused, and then that is the initial record. The countdown of a loaded watchpoint is
within its horizon. It is zero with an error, and with `yes` or `no` it is not, if there is
a horizon: no definite verdict outlives it. -/
theorem records_agree_with_tables (operations : List Operation) :
    let e := initial.run operations
    (∀ slot, e.watchpoints.get slot = none →
      e.watchRecords.get slot = .initial ∧ e.verdicts slot = .stale ∧
      ∀ stack, Equation.advance e.verdicts stack (Token.operand slot).code =
        Equation.push? stack .stale) ∧
    (∀ slot,
      (e.actionpoints.get slot = none ↔ (e.actionRecords.get slot).state = .unused) ∧
      (e.actionpoints.get slot = none → e.actionRecords.get slot = .initial)) ∧
    ∀ slot w, e.watchpoints.get slot = some w →
      let r := e.watchRecords.get slot
      r.countdown ≤ w.staleAfter ∧
      (r.verdict = .error → r.countdown = 0) ∧
      (r.verdict = .yes ∨ r.verdict = .no → 0 < w.staleAfter → 1 ≤ r.countdown) := by
  intro e
  have h : Reachable e := ⟨operations, rfl⟩
  refine ⟨fun slot hnone => ?_, fun slot => ?_, fun slot w hw => ?_⟩
  · have hagrees := h.agrees_watchRecord slot
    rw [hnone] at hagrees
    have hinitial : e.watchRecords.get slot = .initial := hagrees
    have hstale : e.verdicts slot = .stale := congrArg Watchpoint.Record.verdict hinitial
    refine ⟨hinitial, hstale, fun stack => ?_⟩
    simp only [Equation.advance, Token.ofCode?_code, hstale]
  · have hagrees := h.agrees_actionRecord slot
    cases hentry : e.actionpoints.get slot with
    | none =>
      rw [hentry] at hagrees
      have hinitial : e.actionRecords.get slot = .initial := hagrees
      exact ⟨⟨fun _ => congrArg Actionpoint.Record.state hinitial, fun _ => rfl⟩,
        fun _ => hinitial⟩
    | some a =>
      rw [hentry] at hagrees
      have hsome : some a ≠ none := Option.some_ne_none a
      exact ⟨⟨fun hnone => absurd hnone hsome, fun hunused => absurd hunused hagrees⟩,
        fun hnone => absurd hnone hsome⟩
  · have hwithin := h.agrees_watchRecord slot
    rw [hw] at hwithin
    exact ⟨hwithin.countdown_le, hwithin.error, hwithin.definite⟩

end Engine

end LimitMonitor
