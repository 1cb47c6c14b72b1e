import LimitMonitor.Engine.State

/-!
# Sampling

A request samples a range of actionpoints in table order. It is ignored while
the engine is disabled; a range that is empty is no error, and one that reaches
past the table is refused. Verdicts age where the request asks for it.
-/

namespace LimitMonitor

/-- A request to sample the actionpoints from `first` to `last`. -/
structure Request where
  first : UInt16
  last : UInt16
  /-- Age the verdicts afterwards. -/
  aging : Bool
deriving DecidableEq

/-- What a request asks for. -/
inductive Scope where
  /-- The range is empty. -/
  | nothing
  /-- The range reaches past the table. -/
  | outside
  /-- The slots of the range. -/
  | slots (range : List ActionSlot)
deriving DecidableEq

namespace Request

/-- The request to sample every actionpoint. -/
def all : Request := ⟨everySlot, everySlot, false⟩

/-- The slots from `first` to `last`, in table order. -/
def range (first last : UInt16) : List ActionSlot :=
  ActionSlot.all.filter fun slot => first.toNat ≤ slot.val && slot.val ≤ last.toNat

/-- What a request asks for. An empty range counts as empty also where it lies
past the table. -/
def scope (q : Request) : Scope :=
  if q.first = everySlot ∧ q.last = everySlot then .slots ActionSlot.all
  else if q.last < q.first then .nothing
  else if q.last.toNat < actionCapacity then .slots (range q.first q.last)
  else .outside

end Request

/-- A request on its way through the actionpoints. -/
structure Sampling where
  records : Vector Actionpoint.Record actionCapacity
  counters : Counters
  trace : Trace

namespace Sampling

/-- Sample the actionpoint in one slot; an empty slot is passed over. -/
def visit (actionpoints : Vector (Option Actionpoint) actionCapacity) (mode : Mode)
    (verdicts : WatchSlot → Verdict) (s : Sampling) (slot : ActionSlot) : Sampling :=
  match actionpoints.get slot with
  | none => s
  | some a =>
    let sample := a.sample slot mode verdicts (s.records.get slot)
    { records := s.records.set slot sample.record slot.isLt
      counters := s.counters.note sample.trigger
      trace := s.trace ++ sample.trace }

end Sampling

namespace Engine

/-- One cycle passes for every verdict. -/
def age (e : Engine) : Engine := { e with watchRecords := e.watchRecords.map (·.age) }

/-- Sample the listed actionpoints. -/
def sampleSlots (e : Engine) (slots : List ActionSlot) : Engine × Trace :=
  let s := slots.foldl (Sampling.visit e.actionpoints e.mode e.verdicts)
    ⟨e.actionRecords, e.counters, []⟩
  ({ e with actionRecords := s.records, counters := s.counters }, s.trace)

/-- Carry out a sample request. -/
def sample (e : Engine) (q : Request) : Step (Except Refusal Unit) :=
  match e.mode with
  | .disabled => ⟨e, .ok (), []⟩
  | .active | .passive =>
    match q.scope with
    | .nothing => ⟨e, .ok (), []⟩
    | .outside =>
      ⟨e, .error (.noSuchActionpoint q.last), [.notify (.sampleOutOfRange q.first q.last)]⟩
    | .slots range =>
      let sampled := e.sampleSlots range
      let counters := sampled.1.counters
      let counted :=
        { sampled.1 with counters := { counters with samples := counters.samples.next } }
      ⟨if q.aging then counted.age else counted, .ok (), sampled.2⟩

end Engine

end LimitMonitor
