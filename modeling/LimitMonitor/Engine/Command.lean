import LimitMonitor.Engine.State

/-!
# Commands

Operators change the mode and the states of actionpoints and clear statistics.
A command names one slot, or every slot of its table; a number without a slot
is refused. A command for every slot passes over actionpoints that admit none.
-/

namespace LimitMonitor

namespace Engine

/-- Change the mode. Setting the mode that is in force is not worth a log entry. -/
def setMode (e : Engine) (mode : Mode) : Step Unit :=
  { engine := { e with mode }
    answer := ()
    trace := if mode = e.mode then [] else [.log (.modeChanged e.mode mode)] }

/-- Command the listed slots one after the other, up to the first refusal. -/
def commandEach (state : Actionpoint.State) :
    List ActionSlot → Vector Actionpoint.Record actionCapacity →
      Vector Actionpoint.Record actionCapacity × Except Refusal Unit
  | [], records => (records, .ok ())
  | slot :: rest, records =>
    if (records.get slot).state.admitsCommand then
      match (records.get slot).command (slotNumber slot) state with
      | .error refusal => (records, .error refusal)
      | .ok record => commandEach state rest (records.set slot record slot.isLt)
    else commandEach state rest records

/-- Command one actionpoint, or every one, to a state. -/
def setState (e : Engine) (target : UInt16) (state : Actionpoint.State) :
    Step (Except Refusal Unit) :=
  if !state.isCommandable then ⟨e, .error (.stateNotCommandable state.code), []⟩
  else if target = everySlot then
    let commanded := commandEach state ActionSlot.all e.actionRecords
    ⟨{ e with actionRecords := commanded.1 }, commanded.2, []⟩
  else
    match ActionSlot.ofNumber? target with
    | none => ⟨e, .error (.noSuchActionpoint target), []⟩
    | some slot =>
      match (e.actionRecords.get slot).command target state with
      | .error refusal => ⟨e, .error refusal, []⟩
      | .ok record =>
        ⟨{ e with actionRecords := e.actionRecords.set slot record slot.isLt }, .ok (), []⟩

/-- Switch one disabled actionpoint off for good. -/
def switchOff (e : Engine) (target : UInt16) : Step (Except Refusal Unit) :=
  match ActionSlot.ofNumber? target with
  | none => ⟨e, .error (.noSuchActionpoint target), []⟩
  | some slot =>
    match (e.actionRecords.get slot).switchOff target with
    | .error refusal => ⟨e, .error refusal, []⟩
    | .ok record =>
      ⟨{ e with actionRecords := e.actionRecords.set slot record slot.isLt }, .ok (), []⟩

/-- Clear the statistics of one actionpoint, or of every one. -/
def resetActionpoints (e : Engine) (target : UInt16) : Step (Except Refusal Unit) :=
  if target = everySlot then
    ⟨{ e with actionRecords := e.actionRecords.map (·.cleared) }, .ok (), []⟩
  else
    match ActionSlot.ofNumber? target with
    | none => ⟨e, .error (.noSuchActionpoint target), []⟩
    | some slot =>
      let cleared := (e.actionRecords.get slot).cleared
      ⟨{ e with actionRecords := e.actionRecords.set slot cleared slot.isLt }, .ok (), []⟩

/-- Clear the record of one watchpoint, or of every one. -/
def resetWatchpoints (e : Engine) (target : UInt16) : Step (Except Refusal Unit) :=
  if target = everySlot then
    ⟨{ e with watchRecords := e.watchRecords.map fun _ => .initial }, .ok (), []⟩
  else
    match WatchSlot.ofNumber? target with
    | none => ⟨e, .error (.noSuchWatchpoint target), []⟩
    | some slot =>
      ⟨{ e with watchRecords := e.watchRecords.set slot .initial slot.isLt }, .ok (), []⟩

/-- Set the counters of the engine to zero. -/
def resetCounters (e : Engine) : Engine := { e with counters := .zero }

end Engine

end LimitMonitor
