import LimitMonitor.Proofs.Engine.Change
import LimitMonitor.Proofs.Engine.WatchChange

/-!
# Commands to every slot

A command to every slot goes through its table in one call. The alternative is a call for
each slot, in some order. Either way each slot is rewritten once, from its own record alone
(`Slots.update`), so the order leaves no mark and both end in the same engine
(`Slots.foldl_update_of_perm`). They differ in what they answer: a call for a slot that
admits no command is refused, and a call for every slot passes over it
(`setState_slotNumber`, `setState_everySlot`).

Main statement: `everySlot_eq_each`.
-/

namespace LimitMonitor

/-! ## One rewriting of each slot -/

namespace Slots

variable {α : Type} {n : Nat} (f : α → α)

/-- Rewrite the entry in one slot. -/
def update (table : Vector α n) (slot : Fin n) : Vector α n :=
  table.set slot (f (table.get slot)) slot.isLt

/-- **What a slot reads after some slots are rewritten**, each of them once. -/
theorem get_foldl_update {slots : List (Fin n)} (nodup : slots.Nodup) (table : Vector α n)
    (slot : Fin n) :
    (slots.foldl (update f) table).get slot =
      if slot ∈ slots then f (table.get slot) else table.get slot := by
  induction slots generalizing table with
  | nil => simp
  | cons i rest ih =>
    obtain ⟨fresh, nodup⟩ := List.nodup_cons.mp nodup
    rw [List.foldl_cons, ih nodup, update, get_set]
    by_cases hslot : i = slot
    · subst hslot
      simp [fresh]
    · simp [hslot, Ne.symm hslot]

/-- **Every slot rewritten once is the table rewritten**, in whatever order. -/
theorem foldl_update_of_perm {order : List (Fin n)} (h : order.Perm (List.finRange n))
    (table : Vector α n) : order.foldl (update f) table = table.map f := by
  refine ext fun slot => ?_
  have hslot : slot ∈ order := h.mem_iff.mpr (List.mem_finRange slot)
  rw [get_foldl_update f (h.nodup_iff.mpr (List.nodup_finRange n)), if_pos hslot, get_map]

/-- To write what is there already changes nothing. -/
theorem set_get_self (table : Vector α n) (slot : Fin n) :
    table.set slot (table.get slot) slot.isLt = table :=
  Vector.set_getElem_self slot.isLt

end Slots

namespace Actionpoint

/-- The states in which commands are refused. -/
theorem State.not_admitsCommand_iff {state : State} :
    ¬ state.admitsCommand = true ↔ state = .unused ∨ state = .permanentlyOff := by
  cases state <;> decide

/-- The record after a command, which leaves it alone in a state that admits none. -/
def Record.commanded (state : State) (r : Record) : Record :=
  if r.state.admitsCommand then { r with state } else r

end Actionpoint

namespace Engine

open Actionpoint (State Record)

variable (e : Engine)

/-! ## One call -/

/-- A command to one slot rewrites its record, or is refused by the state that it meets. -/
theorem setState_slotNumber {state : State} (hstate : state.isCommandable = true)
    (i : ActionSlot) :
    e.setState (slotNumber i) state =
      ⟨{ e with actionRecords := Slots.update (Record.commanded state) e.actionRecords i },
        if (e.actionRecords.get i).state.admitsCommand then .ok ()
        else .error (.stateHolds (slotNumber i) (e.actionRecords.get i).state.code), []⟩ := by
  have hall := ActionSlot.slotNumber_ne_everySlot i
  have hi : ActionSlot.ofNumber? (slotNumber i) = some i := ActionSlot.ofNumber?_eq_some.mpr rfl
  simp only [setState, hstate, hall, hi, command_of_commandable hstate, Slots.update,
    Record.commanded, Bool.not_true, Bool.false_eq_true, if_false]
  cases (e.actionRecords.get i).state.admitsCommand with
  | true => rfl
  | false => simp only [Bool.false_eq_true, if_false, Slots.set_get_self]

/-- **A command to every slot is never refused**, and rewrites the whole table. -/
theorem setState_everySlot {state : State} (hstate : state.isCommandable = true) :
    e.setState everySlot state =
      ⟨{ e with actionRecords := e.actionRecords.map (Record.commanded state) }, .ok (), []⟩ := by
  obtain ⟨hok, hrecords⟩ := commandEach_spec hstate ActionSlot.nodup_all e.actionRecords
  have hmap : (commandEach state ActionSlot.all e.actionRecords).1 =
      e.actionRecords.map (Record.commanded state) := by
    refine Slots.ext fun slot => ?_
    rw [hrecords slot, Slots.get_map, Record.commanded]
    simp only [ActionSlot.mem_all, true_and]
  simp only [setState, hstate, hok, hmap, Bool.not_true, Bool.false_eq_true, if_false, if_true]

theorem resetActionpoints_slotNumber (i : ActionSlot) :
    e.resetActionpoints (slotNumber i) =
      ⟨{ e with actionRecords := Slots.update Record.cleared e.actionRecords i }, .ok (), []⟩ := by
  have hall := ActionSlot.slotNumber_ne_everySlot i
  have hi : ActionSlot.ofNumber? (slotNumber i) = some i := ActionSlot.ofNumber?_eq_some.mpr rfl
  simp only [resetActionpoints, hall, hi, if_false, Slots.update]

theorem resetWatchpoints_slotNumber (i : WatchSlot) :
    e.resetWatchpoints (slotNumber i) =
      ⟨{ e with watchRecords := Slots.update (fun _ => .initial) e.watchRecords i },
        .ok (), []⟩ := by
  have hall : slotNumber i ≠ everySlot := Slots.slotNumber_ne_everySlot (by decide) i
  have hi : WatchSlot.ofNumber? (slotNumber i) = some i := WatchSlot.ofNumber?_eq_some.mpr rfl
  simp only [resetWatchpoints, hall, hi, if_false, Slots.update]

/-- A reset takes no actionpoint out of its state, whatever its target is. -/
theorem state_resetActionpoints (target : UInt16) (slot : ActionSlot) :
    ((e.resetActionpoints target).engine.actionRecords.get slot).state =
      (e.actionRecords.get slot).state := by
  rw [get_resetActionpoints, change]
  split <;> rfl

/-- A reset of watchpoints does not touch the records of actionpoints. -/
theorem actionRecords_resetWatchpoints (target : UInt16) :
    (e.resetWatchpoints target).engine.actionRecords = e.actionRecords := by
  unfold resetWatchpoints
  repeat' split
  all_goals rfl

/-! ## A call for each slot -/

/-- **A run whose calls rewrite one part of the engine** is written as that part goes on. -/
theorem run_map {ι τ : Type} (operation : ι → Operation) (write : τ → Engine) (step : τ → ι → τ)
    (h : ∀ part i, ((write part).perform (operation i)).engine = write (step part i))
    (part : τ) (slots : List ι) :
    (write part).run (slots.map operation) = write (slots.foldl step part) := by
  rw [run, List.foldl_map]
  exact List.foldl_hom write h

theorem run_setState {state : State} (hstate : state.isCommandable = true)
    (slots : List ActionSlot) :
    e.run (slots.map fun i => .setState (slotNumber i) state) =
      { e with
        actionRecords := slots.foldl (Slots.update (Record.commanded state)) e.actionRecords } := by
  let write (records : Vector Record actionCapacity) : Engine := { e with actionRecords := records }
  refine run_map (fun i => .setState (slotNumber i) state) write _ (fun records i => ?_)
    e.actionRecords slots
  exact congrArg Step.engine ((write records).setState_slotNumber hstate i)

theorem run_resetActionpoints (slots : List ActionSlot) :
    e.run (slots.map fun i => .resetActionpoints (slotNumber i)) =
      { e with actionRecords := slots.foldl (Slots.update Record.cleared) e.actionRecords } := by
  let write (records : Vector Record actionCapacity) : Engine := { e with actionRecords := records }
  refine run_map (fun i => .resetActionpoints (slotNumber i)) write _ (fun records i => ?_)
    e.actionRecords slots
  exact congrArg Step.engine ((write records).resetActionpoints_slotNumber i)

theorem run_resetWatchpoints (slots : List WatchSlot) :
    e.run (slots.map fun i => .resetWatchpoints (slotNumber i)) =
      { e with watchRecords := slots.foldl (Slots.update fun _ => .initial) e.watchRecords } := by
  let write (records : Vector Watchpoint.Record watchCapacity) : Engine :=
    { e with watchRecords := records }
  refine run_map (fun i => .resetWatchpoints (slotNumber i)) write _ (fun records i => ?_)
    e.watchRecords slots
  exact congrArg Step.engine ((write records).resetWatchpoints_slotNumber i)

/-- **A command meets the state that its slot started in**, if the commands before it went to
other slots. -/
theorem answer_setState_run {state : State} (hstate : state.isCommandable = true)
    {before : List ActionSlot} (nodup : before.Nodup) {i : ActionSlot} (fresh : i ∉ before) :
    ((e.run (before.map fun j => .setState (slotNumber j) state)).setState
        (slotNumber i) state).answer =
      if (e.actionRecords.get i).state = .unused ∨ (e.actionRecords.get i).state = .permanentlyOff
      then .error (.stateHolds (slotNumber i) (e.actionRecords.get i).state.code)
      else .ok () := by
  rw [run_setState e hstate, setState_slotNumber _ hstate]
  simp only [Slots.get_foldl_update _ nodup, fresh, if_false, ← State.not_admitsCommand_iff,
    ite_not]

/-- **A command to every slot is one command to each slot**, in any order.

Take any engine, and any order of all slots. A command of every actionpoint to a
commandable state is accepted, and leaves the engine that the single commands leave. Among
these, one is refused exactly if its slot is unused or switched off for good, and those are
the slots that the command to every slot passes over. In the same way a reset of every
actionpoint, or of every watchpoint, leaves what the single resets leave, and no reset takes
an actionpoint out of its state. -/
theorem everySlot_eq_each (e : Engine) :
    (∀ state : State, state.isCommandable = true →
      (e.setState everySlot state).answer = .ok () ∧
      ∀ order : List ActionSlot, order.Perm ActionSlot.all →
        e.run (order.map fun i => .setState (slotNumber i) state) =
          (e.setState everySlot state).engine ∧
        ∀ before i after, order = before ++ i :: after →
          ((e.run (before.map fun j => .setState (slotNumber j) state)).setState
              (slotNumber i) state).answer =
            if (e.actionRecords.get i).state = .unused ∨
                (e.actionRecords.get i).state = .permanentlyOff
            then .error (.stateHolds (slotNumber i) (e.actionRecords.get i).state.code)
            else .ok ()) ∧
    ((e.resetActionpoints everySlot).answer = .ok () ∧
      (∀ order : List ActionSlot, order.Perm ActionSlot.all →
        e.run (order.map fun i => .resetActionpoints (slotNumber i)) =
          (e.resetActionpoints everySlot).engine) ∧
      ∀ target slot, ((e.resetActionpoints target).engine.actionRecords.get slot).state =
        (e.actionRecords.get slot).state) ∧
    ((e.resetWatchpoints everySlot).answer = .ok () ∧
      (∀ order : List WatchSlot, order.Perm WatchSlot.all →
        e.run (order.map fun i => .resetWatchpoints (slotNumber i)) =
          (e.resetWatchpoints everySlot).engine) ∧
      ∀ target slot, ((e.resetWatchpoints target).engine.actionRecords.get slot).state =
        (e.actionRecords.get slot).state) := by
  refine ⟨fun state hstate => ?_, ⟨?_, fun order horder => ?_, ?_⟩,
    ⟨?_, fun order horder => ?_, ?_⟩⟩
  · rw [setState_everySlot e hstate]
    refine ⟨rfl, fun order horder => ⟨?_, fun before i after hsplit => ?_⟩⟩
    · rw [run_setState e hstate, Slots.foldl_update_of_perm _ horder]
    · have nodup : (before ++ i :: after).Nodup :=
        hsplit ▸ horder.nodup_iff.mpr ActionSlot.nodup_all
      obtain ⟨hbefore, -, disjoint⟩ := List.nodup_append'.mp nodup
      exact e.answer_setState_run hstate hbefore fun h => disjoint h List.mem_cons_self
  · rfl
  · rw [run_resetActionpoints, Slots.foldl_update_of_perm _ horder]
    rfl
  · exact e.state_resetActionpoints
  · rfl
  · rw [run_resetWatchpoints, Slots.foldl_update_of_perm _ horder]
    rfl
  · intro target slot
    rw [actionRecords_resetWatchpoints]

end Engine

end LimitMonitor
