import LimitMonitor.Engine.Command
import LimitMonitor.Engine.Load
import LimitMonitor.Engine.Receive
import LimitMonitor.Engine.Snapshot

/-!
# Operations and runs

Every call of the engine, as a value. A run is a list of operations; the states
that it passes through and the trace that it leaves are functions of the list.
A state is reachable if some run from the initial engine ends in it, and what
each operation keeps holds of every reachable state (`Reachable.induction`).
-/

namespace LimitMonitor

/-- A call of the engine. -/
inductive Operation where
  | load (watchTable : WatchTable) (actionTable : ActionTable) (transport : Transport)
  | receive (message : Message) (predicate : Predicate)
  | sample (request : Request)
  | age
  | setMode (mode : Mode)
  | setState (target : UInt16) (state : Actionpoint.State)
  | switchOff (target : UInt16)
  | resetActionpoints (target : UInt16)
  | resetWatchpoints (target : UInt16)
  | resetCounters
  /-- Age the verdicts, then take a snapshot. -/
  | housekeep
  | snapshot

/-- The answer to a call. -/
inductive Reply where
  /-- The call has no answer. -/
  | nothing
  | loaded (result : Except Refusal LoadReport)
  | completed (result : Except Refusal Unit)
  | snapshot (view : Snapshot)

namespace Step

/-- The step with its answer as a reply. -/
def reply {α : Type} (s : Step α) (f : α → Reply) : Step Reply := ⟨s.engine, f s.answer, s.trace⟩

end Step

namespace Engine

/-- Carry out one operation. -/
def perform (e : Engine) : Operation → Step Reply
  | .load watchTable actionTable transport =>
    (e.load watchTable actionTable transport).reply .loaded
  | .receive message predicate => (e.receive message predicate).reply fun _ => .nothing
  | .sample request => (e.sample request).reply .completed
  | .age => ⟨e.age, .nothing, []⟩
  | .setMode mode => (e.setMode mode).reply fun _ => .nothing
  | .setState target state => (e.setState target state).reply .completed
  | .switchOff target => (e.switchOff target).reply .completed
  | .resetActionpoints target => (e.resetActionpoints target).reply .completed
  | .resetWatchpoints target => (e.resetWatchpoints target).reply .completed
  | .resetCounters => ⟨e.resetCounters, .nothing, []⟩
  | .housekeep => ⟨e.age, .snapshot e.age.snapshot, []⟩
  | .snapshot => ⟨e, .snapshot e.snapshot, []⟩

/-- The engine after a run. -/
def run (e : Engine) (operations : List Operation) : Engine :=
  operations.foldl (fun e operation => (e.perform operation).engine) e

/-- What each operation of a run does to the world. -/
def traces (e : Engine) : List Operation → List Trace
  | [] => []
  | operation :: rest =>
    let step := e.perform operation
    step.trace :: step.engine.traces rest

/-- A run of two parts is the second from where the first ends. -/
theorem run_append (e : Engine) (first second : List Operation) :
    e.run (first ++ second) = (e.run first).run second :=
  List.foldl_append

/-- Some run from the initial engine ends in this state. -/
def Reachable (e : Engine) : Prop := ∃ operations, initial.run operations = e

theorem reachable_initial : Reachable initial := ⟨[], rfl⟩

theorem Reachable.perform {e : Engine} (h : Reachable e) (operation : Operation) :
    Reachable (e.perform operation).engine := by
  obtain ⟨operations, rfl⟩ := h
  exact ⟨operations ++ [operation], run_append _ _ _⟩

/-- **What holds of the initial engine and is kept by every operation holds of
every reachable state.** The step may use that its state is reachable. -/
theorem Reachable.induction {P : Engine → Prop} (start : P initial)
    (step : ∀ e operation, Reachable e → P e → P (e.perform operation).engine) {e : Engine}
    (h : Reachable e) : P e := by
  obtain ⟨operations, rfl⟩ := h
  suffices ∀ e, Reachable e → P e → P (e.run operations) from this _ reachable_initial start
  induction operations with
  | nil => exact fun _ _ holds => holds
  | cons operation rest ih =>
    intro e reachable holds
    exact ih _ (reachable.perform operation) (step e operation reachable holds)

end Engine

end LimitMonitor
