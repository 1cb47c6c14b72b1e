import LimitMonitor.Proofs.Reception.Scan

/-!
# What a watchpoint does not look at

Of a message a watchpoint reads its field and nothing else: two messages in which it finds the
same field (`SameField`) give it the same reading or the same fault, up to the length that a
fault past the end carries (`mapError_evaluate`). The time of a message goes into the record
and comes out of it nowhere: a record without the times of its transitions (`Record.timeless`)
ages and is folded as the record with them (`timeless_age`, `timeless_fold`).
-/

namespace LimitMonitor

/-! ## Lengths -/

namespace Field.Fault

/-- The fault without the length of the message. -/
def lengthless : Fault → Fault
  | pastEnd offset width _ => pastEnd offset width 0
  | fault => fault

end Field.Fault

namespace Notification

/-- The notification without the length of a message. -/
def lengthless : Notification → Notification
  | fieldPastEnd watchpoint id offset width _ => fieldPastEnd watchpoint id offset width 0
  | notification => notification

end Notification

namespace LogEntry

/-- The log entry without the length of a message. -/
def lengthless : LogEntry → LogEntry
  | fieldPastEnd slot id offset width _ => fieldPastEnd slot id offset width 0
  | entry => entry

end LogEntry

namespace Event

/-- The event without the length of a message. -/
def lengthless : Event → Event
  | notify notification => notify notification.lengthless
  | log entry => log entry.lengthless
  | event => event

end Event

/-- The trace without the lengths of messages. -/
def Trace.lengthless (trace : Trace) : Trace := trace.map Event.lengthless

namespace Watchpoint

/-- What is said of a fault, apart from lengths, follows from the identifier of the message
and the fault apart from its length. -/
theorem lengthless_faultTrace (slot : WatchSlot) {m m' : Message} (hid : m'.id = m.id)
    {fault fault' : Field.Fault} (h : fault'.lengthless = fault.lengthless) :
    Trace.lengthless (faultTrace slot m' fault') = Trace.lengthless (faultTrace slot m fault) := by
  have through (m : Message) (fault : Field.Fault) :
      Trace.lengthless (faultTrace slot m fault) = faultTrace slot m fault.lengthless := by
    cases fault <;> rfl
  have named (fault : Field.Fault) : faultTrace slot m' fault = faultTrace slot m fault := by
    cases fault <;> simp only [faultTrace, hid]
  rw [through, through, h, named]

/-! ## Fields -/

/-- The field of a watchpoint lies past the end of both messages, or inside both with the same
bytes. -/
def SameField (w : Watchpoint) (m m' : Message) : Prop :=
  ∀ width, w.format.width? = some width →
    let first := w.offset.toNat
    let beyond := w.offset.toNat + width.toNat
    (m.length < beyond ∧ m'.length < beyond) ∨
      (beyond ≤ m.length ∧ beyond ≤ m'.length ∧
        ∀ i, first ≤ i → i < beyond → m'.payload[i]? = m.payload[i]?)

variable {w : Watchpoint} {m m' : Message}

theorem sameField_refl (w : Watchpoint) (m : Message) : w.SameField m m := by
  intro width _ first beyond
  rcases Nat.lt_or_ge m.length beyond with hshort | hinside
  · exact .inl ⟨hshort, hshort⟩
  · exact .inr ⟨hinside, hinside, fun _ _ _ => rfl⟩

/-- Payloads with the same bytes in a range give the same extract of it. -/
theorem bytesAt?_congr {payload payload' : Array UInt8} {offset width : Nat}
    (h : (payload.size < offset + width ∧ payload'.size < offset + width) ∨
      (offset + width ≤ payload.size ∧ offset + width ≤ payload'.size ∧
        ∀ i, offset ≤ i → i < offset + width → payload'[i]? = payload[i]?)) :
    Field.bytesAt? payload' offset width = Field.bytesAt? payload offset width := by
  unfold Field.bytesAt?
  rcases h with ⟨hshort, hshort'⟩ | ⟨hinside, hinside', hbytes⟩
  · rw [if_neg (Nat.not_le.mpr hshort), if_neg (Nat.not_le.mpr hshort')]
  · rw [if_pos hinside, if_pos hinside']
    congr 2
    refine Array.ext_getElem? fun i => ?_
    rw [Array.getElem?_extract, Array.getElem?_extract, Nat.min_eq_left hinside,
      Nat.min_eq_left hinside']
    split
    · next hi => exact hbytes _ (Nat.le_add_right _ _) (by omega)
    · rfl

/-- **A watchpoint reads its field alone.** -/
theorem mapError_field (h : w.SameField m m') :
    (w.field m').mapError Field.Fault.lengthless = (w.field m).mapError Field.Fault.lengthless := by
  unfold field Format.read
  cases hwidth : w.format.width? with
  | none => rfl
  | some width =>
    simp only [bytesAt?_congr (h width hwidth)]
    split <;> rfl

/-- What is computed from values that agree up to their faults agrees up to its own. -/
theorem mapError_bind_congr {ε ε' α β : Type} {x y : Except ε α} {g : ε → ε'}
    (h : x.mapError g = y.mapError g) (f : α → Except ε β) :
    (x.bind f).mapError g = (y.bind f).mapError g := by
  cases x with
  | ok a =>
    cases y with
    | ok b => rw [Except.ok.inj h]
    | error fault => cases h
  | error fault =>
    cases y with
    | ok b => cases h
    | error fault' => exact congrArg Except.error (Except.error.inj h)

/-- The result of a watchpoint that is not custom is computed from its field. -/
theorem result_of_plain (hplain : w.relation ≠ .custom) (slot : WatchSlot) (m : Message)
    (p : Predicate) (asked : List Consultation) :
    (w.evaluate slot m p asked).result =
      (w.field m).bind fun raw => (w.judge (raw &&& w.mask)).map fun verdict => ⟨verdict, raw⟩ := by
  unfold evaluate
  cases w.field m with
  | error fault => rfl
  | ok raw =>
    cases hcase : w.relation with
    | custom => exact absurd hcase hplain
    | _ => rfl

/-- **The evaluation of a watchpoint that is not custom** finds the same in two messages with
the same field, whatever the predicate and the questions that it was asked. -/
theorem mapError_evaluate (hplain : w.relation ≠ .custom) (h : w.SameField m m')
    (slot : WatchSlot) (p p' : Predicate) (asked asked' : List Consultation) :
    (w.evaluate slot m' p' asked').result.mapError Field.Fault.lengthless =
      (w.evaluate slot m p asked).result.mapError Field.Fault.lengthless := by
  rw [result_of_plain hplain, result_of_plain hplain]
  exact mapError_bind_congr (mapError_field h) _

/-- Such a watchpoint asks nothing. -/
theorem question?_of_plain (hplain : w.relation ≠ .custom) (slot : WatchSlot) (m : Message) :
    w.question? slot m = none := by
  unfold question?
  split
  · next hcustom _ => exact absurd hcustom hplain
  · rfl

/-! ## Records -/

namespace Record

/-- The record without the times of its transitions. -/
def timeless (r : Record) : Record :=
  { r with
    lastOnset := ⟨r.lastOnset.value, 0⟩
    lastRelease := ⟨r.lastRelease.value, 0⟩ }

theorem timeless_initial : initial.timeless = initial := rfl

/-- Aging takes no notice of the times. -/
theorem timeless_age (r : Record) : r.age.timeless = r.timeless.age := by
  have hcountdown : r.timeless.countdown = r.countdown := rfl
  unfold age
  rw [hcountdown]
  by_cases hzero : r.countdown = 0
  · rw [if_pos hzero, if_pos hzero]
  · rw [if_neg hzero, if_neg hzero]
    by_cases hone : r.countdown = 1
    · rw [if_pos hone, if_pos hone]
      rfl
    · rw [if_neg hone, if_neg hone]
      rfl

/-- **An evaluation is folded into a record without a look at times or lengths.** -/
theorem timeless_fold (r : Record) (result : Except Field.Fault Reading) (timestamp : Timestamp)
    (staleAfter : UInt32) :
    (r.fold result timestamp staleAfter).timeless =
      r.timeless.fold (result.mapError Field.Fault.lengthless) 0 staleAfter := by
  cases result with
  | error fault => cases fault <;> rfl
  | ok reading =>
    obtain ⟨verdict, raw⟩ := reading
    cases verdict with
    | error | stale => rfl
    | yes =>
      by_cases hno : r.verdict = .no
      · simp [fold, note, Except.mapError, timeless, hno]
      · simp [fold, note, Except.mapError, timeless, hno]
    | no =>
      by_cases hyes : r.verdict = .yes
      · simp [fold, note, Except.mapError, timeless, hyes]
      · simp [fold, note, Except.mapError, timeless, hyes]

end Record

end Watchpoint

end LimitMonitor
