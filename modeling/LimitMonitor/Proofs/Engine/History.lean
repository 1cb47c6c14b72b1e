import LimitMonitor.Proofs.Engine.Change

/-!
# The history of a run

A run is a list of calls, each an operation together with the engine that it meets.
The history of a slot is what these calls do to it, as a list of changes.
-/

namespace LimitMonitor

/-- An operation of a run, and the engine that it meets. -/
structure Call where
  engine : Engine
  operation : Operation

namespace Call

/-- What a call does to a slot. -/
def change (slot : ActionSlot) (call : Call) : Actionpoint.Change :=
  call.engine.change slot call.operation

/-- What a call does to the world. -/
def trace (call : Call) : Trace := (call.engine.perform call.operation).trace

/-- A call triggers the actionpoint in a slot. -/
def triggers (slot : ActionSlot) (call : Call) : Bool := call.engine.triggers slot call.operation

end Call

namespace Engine

variable (e : Engine)

/-- The calls of a run. -/
def calls (e : Engine) : List Operation → List Call
  | [] => []
  | operation :: rest => ⟨e, operation⟩ :: (e.perform operation).engine.calls rest

/-- What a run does to a slot. -/
def history (slot : ActionSlot) (operations : List Operation) : List Actionpoint.Change :=
  (e.calls operations).map (Call.change slot)

theorem run_cons (operation : Operation) (rest : List Operation) :
    e.run (operation :: rest) = (e.perform operation).engine.run rest := rfl

theorem run_concat (operations : List Operation) (operation : Operation) :
    e.run (operations ++ [operation]) = ((e.run operations).perform operation).engine :=
  e.run_append operations [operation]

variable {e} in
theorem Reachable.run (h : Reachable e) (operations : List Operation) :
    Reachable (e.run operations) := by
  obtain ⟨before, rfl⟩ := h
  exact ⟨before ++ operations, run_append _ _ _⟩

theorem calls_append (first second : List Operation) :
    e.calls (first ++ second) = e.calls first ++ (e.run first).calls second := by
  induction first generalizing e with
  | nil => rfl
  | cons operation rest ih =>
    rw [List.cons_append, calls, calls, ih, run_cons, List.cons_append]

theorem calls_concat (operations : List Operation) (operation : Operation) :
    e.calls (operations ++ [operation]) =
      e.calls operations ++ [⟨e.run operations, operation⟩] :=
  e.calls_append operations [operation]

/-- The traces of a run are those of its calls. -/
theorem traces_eq_map_calls (operations : List Operation) :
    e.traces operations = (e.calls operations).map Call.trace := by
  induction operations generalizing e with
  | nil => rfl
  | cons operation rest ih =>
    rw [traces, calls, List.map_cons, ih]
    rfl

theorem history_concat (slot : ActionSlot) (operations : List Operation) (operation : Operation) :
    e.history slot (operations ++ [operation]) =
      e.history slot operations ++ [(e.run operations).change slot operation] := by
  rw [history, calls_concat, List.map_append]
  rfl

end Engine

end LimitMonitor
