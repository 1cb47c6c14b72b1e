import LimitMonitor.Engine.State
import LimitMonitor.Table.Report

/-!
# Loading tables

A load checks both uploaded tables and announces what it finds. If either has a
bad entry the loaded tables stay in force. Otherwise both are installed, every
record starts anew, and the dispatch index and the transport follow.
-/

namespace LimitMonitor

/-- The tallies of two accepted tables. -/
structure LoadReport where
  watchpoints : Tally
  actionpoints : Tally
deriving DecidableEq

/-- An uploaded watchpoint table. -/
abbrev WatchTable := Vector Watchpoint.Definition watchCapacity

/-- An uploaded actionpoint table. -/
abbrev ActionTable := Vector Actionpoint.Definition actionCapacity

namespace Engine

/-- What a decoded entry puts into its slot. -/
def entryOf {α : Type} : Except Defect (Option α) → Option α
  | .ok entry => entry
  | .error _ => none

/-- The record with which a slot starts. -/
def startingRecord : Option Actionpoint → Actionpoint.Record
  | some a => .starting a.defaultState
  | none => .initial

/-- The engine with two tables put in force, its index still that of the old ones. -/
def install (e : Engine) (watchTable : WatchTable) (actionTable : ActionTable) : Engine :=
  let actionpoints := actionTable.map fun d => entryOf (Actionpoint.decode d)
  { e with
    watchpoints := watchTable.map fun d => entryOf (Watchpoint.decode d)
    actionpoints
    watchRecords := Vector.replicate watchCapacity .initial
    actionRecords := actionpoints.map startingRecord }

/-- Check two tables, and put them in force if both are good. -/
def load (e : Engine) (watchTable : WatchTable) (actionTable : ActionTable) (t : Transport) :
    Step (Except Refusal LoadReport) :=
  let watchReport := TableReport.ofWatchpoints watchTable.toList
  let actionReport := TableReport.ofActionpoints actionTable.toList
  let announced : Trace :=
    [.notify (watchReport.notification .watchpoints),
      .notify (actionReport.notification .actionpoints)]
  match watchReport.verdict .watchpoints with
  | .error refusal =>
    ⟨e, .error refusal, announced ++ [.log (.tableRejected .watchpoints refusal)]⟩
  | .ok watchTally =>
    match actionReport.verdict .actionpoints with
    | .error refusal =>
      ⟨e, .error refusal, announced ++ [.log (.tableRejected .actionpoints refusal)]⟩
    | .ok actionTally =>
      let installed := e.install watchTable actionTable
      let rebuilt := e.index.rebuild installed.messageIds t
      { engine := { installed with index := rebuilt.1 }
        answer := .ok ⟨watchTally, actionTally⟩
        trace :=
          announced ++ rebuilt.2 ++ [.log (.tablesLoaded watchTally.good actionTally.good)] }

end Engine

end LimitMonitor
