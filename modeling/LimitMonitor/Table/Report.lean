import LimitMonitor.Actionpoint.Definition
import LimitMonitor.Event.Notification
import LimitMonitor.Refusal
import LimitMonitor.Watchpoint.Definition

/-!
# Table reports

Checking a definition table classifies every entry as good, bad or unused, and
keeps the first bad entry with its defect. The report decides whether the table
is accepted and what operators are told. It needs no engine.
-/

namespace LimitMonitor

/-- What the check of one table finds. -/
structure TableReport where
  tally : Tally
  /-- The first bad entry and its defect. -/
  firstDefect : Option (UInt16 × Defect)
deriving DecidableEq

namespace TableReport

/-- The report on no entries. -/
def empty : TableReport := ⟨.zero, none⟩

/-- The table has no bad entry. -/
def isValid (r : TableReport) : Bool := r.firstDefect.isNone

/-- The report after one more entry. -/
def add {α : Type} (r : TableReport) (entry : Nat) (decoded : Except Defect (Option α)) :
    TableReport :=
  match decoded with
  | .ok (some _) => { r with tally := { r.tally with good := r.tally.good + 1 } }
  | .ok none => { r with tally := { r.tally with unused := r.tally.unused + 1 } }
  | .error defect =>
    { tally := { r.tally with bad := r.tally.bad + 1 }
      firstDefect := r.firstDefect.or (some (UInt16.ofNat entry, defect)) }

/-- The report on a table whose entries decode in this way. -/
def ofDecoded {α : Type} (decoded : List (Except Defect (Option α))) : TableReport :=
  decoded.zipIdx.foldl (fun r entry => r.add entry.2 entry.1) empty

/-- The report on a watchpoint table. -/
def ofWatchpoints (table : List Watchpoint.Definition) : TableReport :=
  ofDecoded (table.map Watchpoint.decode)

/-- The report on an actionpoint table. -/
def ofActionpoints (table : List Actionpoint.Definition) : TableReport :=
  ofDecoded (table.map Actionpoint.decode)

/-- The tally of an accepted table, or the refusal of a table with a bad entry. -/
def verdict (r : TableReport) (table : Table) : Except Refusal Tally :=
  match r.firstDefect with
  | none => .ok r.tally
  | some (entry, defect) => .error (.tableRejected table entry defect)

/-- What operators are told about the table. -/
def notification (r : TableReport) (table : Table) : Notification :=
  match r.firstDefect with
  | none => .tableAccepted table r.tally
  | some (entry, defect) => .tableRejected table entry defect r.tally

end TableReport

end LimitMonitor
