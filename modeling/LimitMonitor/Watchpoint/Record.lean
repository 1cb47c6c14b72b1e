import LimitMonitor.Counter
import LimitMonitor.Message
import LimitMonitor.Verdict

/-!
# Watchpoint records

Each slot of the watchpoint table keeps the last verdict, the cycles until it
goes stale, and the statistics by which operators tune their limits.
-/

namespace LimitMonitor

/-- The field and the time of a change of verdict. -/
structure Transition where
  /-- The field before masking. -/
  value : UInt32
  /-- The time of the message. -/
  timestamp : Timestamp
deriving DecidableEq

namespace Transition

/-- The transition of a slot that has seen none. -/
def none : Transition := ⟨0, 0⟩

end Transition

namespace Watchpoint

/-- What one slot of the watchpoint table remembers. -/
structure Record where
  /-- The last verdict. -/
  verdict : Verdict
  /-- Cycles left until the verdict goes stale; zero if it does not. -/
  countdown : UInt32
  /-- Evaluations. A field past the end of its message is not one. -/
  evaluations : Counter
  /-- Changes from `no` to `yes`. -/
  onsets : Counter
  /-- Verdicts `yes` since the last `no`. -/
  streak : Counter
  /-- Verdicts `yes`. -/
  positives : Counter
  /-- The last change from `no` to `yes`. -/
  lastOnset : Transition
  /-- The last change from `yes` to `no`. -/
  lastRelease : Transition
deriving DecidableEq

namespace Record

/-- The record of a slot after a load or a reset. -/
def initial : Record where
  verdict := .stale
  countdown := 0
  evaluations := .zero
  onsets := .zero
  streak := .zero
  positives := .zero
  lastOnset := .none
  lastRelease := .none

/-- The slot could not be judged. Nothing is counted, and the verdict does not age. -/
def fault (r : Record) : Record := { r with verdict := .error, countdown := 0 }

/-- Note a verdict on a field with the value `raw` at a time. -/
def note (r : Record) (verdict : Verdict) (raw : UInt32) (timestamp : Timestamp)
    (staleAfter : UInt32) : Record :=
  let r' := { r with evaluations := r.evaluations.next }
  match verdict with
  | .yes =>
    let r' :=
      if r.verdict = .no then
        { r' with onsets := r.onsets.next, streak := .one, lastOnset := ⟨raw, timestamp⟩ }
      else { r' with streak := r.streak.next }
    { r' with positives := r.positives.next, verdict := .yes, countdown := staleAfter }
  | .no =>
    let r' := if r.verdict = .yes then { r' with lastRelease := ⟨raw, timestamp⟩ } else r'
    { r' with streak := .zero, verdict := .no, countdown := staleAfter }
  | .stale => { r' with verdict := .stale, countdown := staleAfter }
  | .error => r'.fault

/-- One cycle passes. -/
def age (r : Record) : Record :=
  if r.countdown = 0 then r
  else if r.countdown = 1 then { r with countdown := 0, verdict := .stale }
  else { r with countdown := r.countdown - 1 }

end Record

end Watchpoint

end LimitMonitor
