import LimitMonitor.Proofs.Engine.Agreement
import LimitMonitor.Proofs.Engine.Packed

/-!
# What a snapshot tells of the engine

The packed views of a snapshot have two bits for each watchpoint and four for each
actionpoint. Verdicts and outcomes have codes of their own, so they are read off at once.
The states of an actionpoint do not: one that is switched off for good and one that is not
there share a code. Which of them it is depends on whether the slot is loaded, because after
every run an actionpoint is unused exactly if its slot has no entry
(`Reachable.isSome_iff_state`).

Main statement: `snapshot_tells_results`.
-/

namespace LimitMonitor

/-! ## Codes -/

/-- The verdict with a code of two bits. -/
def Verdict.ofPackedCode : UInt8 → Verdict
  | 0 => no
  | 1 => yes
  | 2 => error
  | _ => stale

theorem Verdict.ofPackedCode_code (v : Verdict) : ofPackedCode v.code = v := by
  cases v <;> rfl

/-- The outcome with a code of two bits. -/
def Outcome.ofPackedCode : UInt8 → Outcome
  | 0 => pass
  | 1 => fail
  | 2 => error
  | _ => stale

theorem Outcome.ofPackedCode_code (o : Outcome) : ofPackedCode o.code = o := by
  cases o <;> rfl

namespace Actionpoint.State

/-- The state with a code of two bits, in a slot that is loaded or not. -/
def ofPackedCode (loaded : Bool) : UInt8 → State
  | 1 => active
  | 2 => passive
  | 3 => disabled
  | _ => if loaded then permanentlyOff else unused

/-- **A state is known from its code**, given whether there is an actionpoint. -/
theorem ofPackedCode_packedCode {state : State} {loaded : Bool}
    (h : loaded = true ↔ state ≠ unused) : ofPackedCode loaded state.packedCode = state := by
  cases state with
  | active | passive | disabled => rfl
  | permanentlyOff => exact if_pos (h.mpr nofun)
  | unused => exact if_neg fun hloaded => h.mp hloaded rfl

theorem packedCode_eq_one_iff {state : State} : state.packedCode = 1 ↔ state = active := by
  cases state <;> decide

end Actionpoint.State

namespace Packed

/-- The upper two bits of an actionpoint are the code of its state. -/
theorem nibble_shiftRight (state : Actionpoint.State) (outcome : Outcome) :
    nibble state outcome >>> 2 = state.packedCode := by
  cases state <;> cases outcome <;> rfl

/-- The lower two bits of an actionpoint are the code of its outcome. -/
theorem nibble_and_three (state : Actionpoint.State) (outcome : Outcome) :
    nibble state outcome &&& 3 = outcome.code := by
  cases state <;> cases outcome <;> rfl

end Packed

/-! ## Reading a snapshot -/

namespace Snapshot

variable (view : Snapshot)

/-- The verdict that a snapshot shows for a watchpoint. -/
def verdict (slot : WatchSlot) : Verdict := .ofPackedCode (Packed.pairAt view.verdicts slot)

/-- The outcome that a snapshot shows for an actionpoint. -/
def outcome (slot : ActionSlot) : Outcome :=
  .ofPackedCode (Packed.nibbleAt view.outcomes slot &&& 3)

/-- The code that a snapshot shows for the state of an actionpoint. -/
def stateCode (slot : ActionSlot) : UInt8 := Packed.nibbleAt view.outcomes slot >>> 2

/-- The state that a snapshot shows for an actionpoint, if the slot is loaded or if not. -/
def state (loaded : Bool) (slot : ActionSlot) : Actionpoint.State :=
  .ofPackedCode loaded (view.stateCode slot)

end Snapshot

namespace Engine

variable (e : Engine)

theorem pairAt_snapshot (slot : WatchSlot) :
    Packed.pairAt e.snapshot.verdicts slot = (e.watchRecords.get slot).verdict.code := by
  rw [snapshot, Packed.pairAt_verdicts, List.getElem?_map, Slots.getElem?_toList]
  rfl

theorem nibbleAt_snapshot (slot : ActionSlot) :
    Packed.nibbleAt e.snapshot.outcomes slot =
      Packed.nibble (e.actionRecords.get slot).state (e.actionRecords.get slot).outcome := by
  rw [snapshot, Packed.nibbleAt_outcomes, List.getElem?_map, Slots.getElem?_toList]
  rfl

theorem verdict_snapshot (slot : WatchSlot) :
    e.snapshot.verdict slot = (e.watchRecords.get slot).verdict := by
  rw [Snapshot.verdict, pairAt_snapshot, Verdict.ofPackedCode_code]

theorem outcome_snapshot (slot : ActionSlot) :
    e.snapshot.outcome slot = (e.actionRecords.get slot).outcome := by
  rw [Snapshot.outcome, nibbleAt_snapshot, Packed.nibble_and_three, Outcome.ofPackedCode_code]

theorem stateCode_snapshot (slot : ActionSlot) :
    e.snapshot.stateCode slot = (e.actionRecords.get slot).state.packedCode := by
  rw [Snapshot.stateCode, nibbleAt_snapshot, Packed.nibble_shiftRight]

/-- **The count of active actionpoints is that of the codes that say so.** -/
theorem activeActionpoints_snapshot :
    e.snapshot.activeActionpoints.toNat =
      ActionSlot.all.countP fun slot => e.snapshot.stateCode slot == 1 := by
  have hactive (slot : ActionSlot) : (e.actionRecords.get slot).state == .active ↔
      e.snapshot.stateCode slot == 1 := by
    rw [stateCode_snapshot, beq_iff_eq, beq_iff_eq, Actionpoint.State.packedCode_eq_one_iff]
  have hcount : e.actionRecords.toList.countP (fun r => r.state == .active) =
      ActionSlot.all.countP fun slot => e.snapshot.stateCode slot == 1 := by
    rw [Slots.toList_eq_map, List.countP_map]
    exact List.countP_congr fun slot _ => hactive slot
  -- there are fewer slots than 16 bits can count
  have hfits : ActionSlot.all.countP (fun slot => e.snapshot.stateCode slot == 1) <
      UInt16.size := by
    refine Nat.lt_of_le_of_lt List.countP_le_length ?_
    rw [ActionSlot.all, List.length_finRange]
    decide
  have hview : e.snapshot.activeActionpoints = e.activeActionpoints := rfl
  rw [hview, activeActionpoints, hcount, UInt16.toNat_ofNat_of_lt' hfits]

variable {e}

/-- **A slot is loaded exactly if its record is not unused**, after every run. -/
theorem Reachable.isSome_iff_state (h : Reachable e) (slot : ActionSlot) :
    (e.actionpoints.get slot).isSome = true ↔ (e.actionRecords.get slot).state ≠ .unused := by
  have hagrees := h.agrees_actionRecord slot
  cases hentry : e.actionpoints.get slot with
  | none =>
    rw [hentry] at hagrees
    have hinitial : e.actionRecords.get slot = .initial := hagrees
    exact ⟨nofun, fun hused => absurd (congrArg Actionpoint.Record.state hinitial) hused⟩
  | some a =>
    rw [hentry] at hagrees
    exact ⟨fun _ => hagrees, fun _ => rfl⟩

theorem Reachable.state_snapshot (h : Reachable e) (slot : ActionSlot) :
    e.snapshot.state (e.actionpoints.get slot).isSome slot = (e.actionRecords.get slot).state := by
  rw [Snapshot.state, stateCode_snapshot,
    Actionpoint.State.ofPackedCode_packedCode (h.isSome_iff_state slot)]

/-- **Packed views decode back.** Take any list of verdicts. The two bits that its packed
view has for a slot are the code of the verdict at the number of the slot, and zero beyond
the end of the list. In the same way the four bits for an actionpoint are the codes of its
state and its outcome, and zero beyond the end.

After every run, a snapshot shows the verdict of every watchpoint and the outcome of every
actionpoint, and together with which slots are loaded the state of every actionpoint: a state
code of zero is that of one that is switched off for good, if the slot is loaded, and of one
that is unused, if not. It counts as active what has a state code of one. -/
theorem snapshot_tells_results :
    (∀ (entries : List Verdict) (slot : WatchSlot),
      Packed.pairAt (Packed.verdicts entries) slot =
        (entries[slot.val]?.map Verdict.code).getD 0) ∧
    (∀ (entries : List (Actionpoint.State × Outcome)) (slot : ActionSlot),
      Packed.nibbleAt (Packed.outcomes entries) slot =
        (entries[slot.val]?.map fun (state, outcome) =>
          state.packedCode <<< 2 ||| outcome.code).getD (0 : UInt8)) ∧
    ∀ operations,
      let e := initial.run operations
      (∀ slot, e.snapshot.verdict slot = (e.watchRecords.get slot).verdict) ∧
      (∀ slot, e.snapshot.outcome slot = (e.actionRecords.get slot).outcome) ∧
      (∀ slot, e.snapshot.state (e.actionpoints.get slot).isSome slot =
        (e.actionRecords.get slot).state) ∧
      (∀ slot, e.snapshot.stateCode slot = 0 → (e.actionRecords.get slot).state =
        if (e.actionpoints.get slot).isSome then .permanentlyOff else .unused) ∧
      e.snapshot.activeActionpoints.toNat =
        ActionSlot.all.countP fun slot => e.snapshot.stateCode slot == 1 := by
  refine ⟨Packed.pairAt_verdicts, Packed.nibbleAt_outcomes, fun operations => ?_⟩
  intro e
  have reachable : Reachable e := ⟨operations, rfl⟩
  refine ⟨e.verdict_snapshot, e.outcome_snapshot, reachable.state_snapshot, fun slot hzero => ?_,
    e.activeActionpoints_snapshot⟩
  rw [← reachable.state_snapshot slot, Snapshot.state, hzero]
  rfl

end Engine

end LimitMonitor
