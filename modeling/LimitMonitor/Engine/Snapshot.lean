import LimitMonitor.Engine.Sampling

/-!
# Snapshots

What housekeeping sends to the ground: the mode, the counters, how much is in
use, and the packed results of every slot. Every verdict is packed in two bits,
four to a byte, and every actionpoint in four bits, two to a byte: its outcome
in the low two and its state in the high two. The first slot of a byte takes
the low bits. Entries past the capacity of a view are ignored, and places
without an entry are zero.
-/

namespace LimitMonitor

namespace Packed

/-- The byte of some codes of `width` bits, the first one lowest. -/
def byteOf (width : Nat) : List UInt8 → UInt8
  | [] => 0
  | code :: rest => code ||| (byteOf width rest <<< UInt8.ofNat width)

/-- The code of each verdict, two bits wide. -/
def verdicts (entries : List Verdict) : Vector UInt8 packedVerdictBytes :=
  Vector.ofFn fun i => byteOf 2 (((entries.drop (4 * i.val)).take 4).map Verdict.code)

/-- The four bits of an actionpoint. -/
def nibble (state : Actionpoint.State) (outcome : Outcome) : UInt8 :=
  (state.packedCode <<< 2) ||| outcome.code

/-- The code of each actionpoint, four bits wide. -/
def outcomes (entries : List (Actionpoint.State × Outcome)) : Vector UInt8 packedOutcomeBytes :=
  Vector.ofFn fun i =>
    byteOf 4 (((entries.drop (2 * i.val)).take 2).map fun entry => nibble entry.1 entry.2)

end Packed

/-- The engine in a few hundred bytes. -/
structure Snapshot where
  mode : Mode
  counters : Counters
  watchpointsInUse : UInt16
  activeActionpoints : UInt16
  verdicts : Vector UInt8 packedVerdictBytes
  outcomes : Vector UInt8 packedOutcomeBytes
deriving DecidableEq

namespace Engine

/-- A snapshot of the engine. -/
def snapshot (e : Engine) : Snapshot where
  mode := e.mode
  counters := e.counters
  watchpointsInUse := e.watchpointsInUse
  activeActionpoints := e.activeActionpoints
  verdicts := Packed.verdicts (e.watchRecords.toList.map (·.verdict))
  outcomes := Packed.outcomes (e.actionRecords.toList.map fun r => (r.state, r.outcome))

end Engine

end LimitMonitor
