import LimitMonitor.Proofs.Reception.Scan

/-!
# Watchpoints that passed their checks

A watchpoint comes into being by decoding a definition. `eq_of_decode` says what that
takes, check by check, and `Valid` is what the evaluation relies on: a format that is in
use, a finite reference of that format, an identifier in its range. The evaluation of a
valid watchpoint never meets a format or a relation that it cannot handle
(`fault_of_valid`), and values are never related across formats: apart from custom
watchpoints, the verdict is that of a test unless the field lies past the end of the
message or is not a number (`judge_of_valid`).
-/

namespace LimitMonitor

namespace Scalar

/-- The value has the width and the signedness of the format. -/
inductive IsOf : Format → Scalar → Prop
  | uint8 (a : UInt8) : IsOf .uint8 (.uint8 a)
  | int8 (a : Int8) : IsOf .int8 (.int8 a)
  | uint16 (order : ByteOrder) (a : UInt16) : IsOf (.uint16 order) (.uint16 a)
  | int16 (order : ByteOrder) (a : Int16) : IsOf (.int16 order) (.int16 a)
  | uint32 (order : ByteOrder) (a : UInt32) : IsOf (.uint32 order) (.uint32 a)
  | int32 (order : ByteOrder) (a : Int32) : IsOf (.int32 order) (.int32 a)
  | single (order : ByteOrder) (a : Single) : IsOf (.single order) (.single a)

/-- A narrowed value has the format that it is narrowed to. -/
theorem isOf_narrow {format : Format} {word : UInt32} {value : Scalar}
    (h : narrow format word = .ok value) : IsOf format value := by
  cases format with
  | unused => cases h
  | _ =>
    obtain rfl := Except.ok.inj h
    constructor

end Scalar

namespace Relation

/-- Only the custom relation cannot be tested. -/
theorem test_of_ne_custom {α : Type} [LE α] [LT α] [DecidableLE α] [DecidableLT α] [BEq α]
    {r : Relation} (hr : r ≠ .custom) (a b : α) : ∃ holds, r.test a b = .ok holds := by
  cases r with
  | custom => exact absurd rfl hr
  | _ => exact ⟨_, rfl⟩

/-- A floating-point number that is not one is a fault under every relation, any other
is tested. -/
theorem testSingle_of_ne_custom {r : Relation} (hr : r ≠ .custom) (a b : Single) :
    if a.isNaN then r.testSingle a b = .error (.notANumber a.bits)
    else ∃ holds, r.testSingle a b = .ok holds := by
  unfold testSingle
  split
  · rfl
  · cases r with
    | custom => exact absurd rfl hr
    | _ => exact ⟨_, rfl⟩

/-- **A value and a reference of one format are related by a test**, unless the value is
not a number. -/
theorem judge_narrow {r : Relation} (hr : r ≠ .custom) {format : Format} {reference : Scalar}
    (h : Scalar.IsOf format reference) (word : UInt32) :
    ∃ value, Scalar.narrow format word = .ok value ∧
      if format.isSingle && Single.isNaN ⟨word⟩ then
        r.judge value reference = .error (.notANumber word)
      else ∃ holds, r.judge value reference = .ok (.ofBool holds) := by
  cases h with
  | single order b =>
    refine ⟨.single ⟨word⟩, rfl, ?_⟩
    have htest := testSingle_of_ne_custom hr ⟨word⟩ b
    simp only [Format.isSingle, Bool.true_and, judge]
    split at htest
    · next hnan => rw [if_pos hnan, htest]; rfl
    · next hnan =>
      obtain ⟨holds, hholds⟩ := htest
      rw [if_neg hnan, hholds]
      exact ⟨holds, rfl⟩
  | uint8 b | int8 b | uint16 order b | int16 order b | uint32 order b | int32 order b =>
    refine ⟨_, rfl, ?_⟩
    obtain ⟨holds, hholds⟩ := test_of_ne_custom hr _ b
    simp only [Format.isSingle, Bool.false_and, Bool.false_eq_true, if_false, judge]
    exact ⟨holds, by rw [hholds]; rfl⟩

end Relation

namespace Watchpoint

/-! ## Decoding -/

/-- **What it takes to decode**: every check of a definition in use. -/
theorem eq_of_decode {d : Definition} {w : Watchpoint} (h : decode d = .ok (some w)) :
    ∃ format relation reference, Format.ofCode? d.format = some format ∧ format ≠ .unused ∧
      Relation.ofCode? d.relation = some relation ∧ d.messageId ≤ greatestMessageId ∧
      Scalar.narrow format d.reference = .ok reference ∧ referenceDefect? reference = none ∧
      w = { format, relation, messageId := ⟨d.messageId⟩, offset := d.offset, mask := d.mask
            reference, staleAfter := d.staleAfter, argument := d.argument } := by
  unfold decode at h
  split at h
  · cases h
  · cases h
  · next format hused hformat =>
    split at h
    · cases h
    · next relation hrelation =>
      split at h
      · cases h
      · next hid =>
        split at h
        · cases h
        · next reference hreference =>
          split at h
          · cases h
          · next hdefect =>
            obtain rfl := Option.some.inj (Except.ok.inj h)
            exact ⟨format, relation, reference, hformat, fun he => hused he, hrelation,
              UInt16.not_lt.mp hid, hreference, hdefect, rfl⟩

/-- A definition in use that passes every check decodes. -/
theorem decode_of_checks {d : Definition} {format : Format} {relation : Relation}
    {reference : Scalar} (hformat : Format.ofCode? d.format = some format)
    (hused : format ≠ .unused) (hrelation : Relation.ofCode? d.relation = some relation)
    (hid : d.messageId ≤ greatestMessageId)
    (hreference : Scalar.narrow format d.reference = .ok reference)
    (hdefect : referenceDefect? reference = none) :
    decode d = .ok (some
      { format, relation, messageId := ⟨d.messageId⟩, offset := d.offset, mask := d.mask
        reference, staleAfter := d.staleAfter, argument := d.argument }) := by
  have hid' : ¬ greatestMessageId < d.messageId := UInt16.not_lt.mpr hid
  cases format with
  | unused => exact absurd rfl hused
  | _ => simp only [decode, hformat, hrelation, if_neg hid', hreference, hdefect]

/-- What the evaluation of a watchpoint relies on. -/
structure Valid (w : Watchpoint) : Prop where
  /-- The format is that of a field. -/
  used : w.format ≠ .unused
  /-- The reference is of the format of the field. -/
  reference : Scalar.IsOf w.format w.reference
  /-- A floating-point reference is a finite number. -/
  finite : ∀ x, w.reference = .single x → x.isNaN = false ∧ x.isInfinite = false
  /-- The message identifier is in its range. -/
  messageId : w.messageId.value ≤ greatestMessageId

theorem finite_of_referenceDefect? {x : Single} (h : referenceDefect? (.single x) = none) :
    x.isNaN = false ∧ x.isInfinite = false := by
  unfold referenceDefect? at h
  cases hnan : x.isNaN <;> cases hinfinite : x.isInfinite <;> simp [hnan, hinfinite] at h ⊢

/-- **A watchpoint that was decoded is valid.** -/
theorem valid_of_decode {d : Definition} {w : Watchpoint} (h : decode d = .ok (some w)) :
    w.Valid := by
  obtain ⟨format, relation, reference, -, hused, -, hid, hnarrow, hdefect, rfl⟩ := eq_of_decode h
  exact
    { used := hused
      reference := Scalar.isOf_narrow hnarrow
      finite := fun x hx => finite_of_referenceDefect? (by rw [← hx]; exact hdefect)
      messageId := hid }

/-! ## Evaluating -/

/-- The masked field of a watchpoint is a floating-point pattern that is no number. -/
def readsNaN (w : Watchpoint) (m : Message) : Bool :=
  match w.field m with
  | .ok raw => w.format.isSingle && Single.isNaN ⟨raw &&& w.mask⟩
  | .error _ => false

variable {w : Watchpoint} {m : Message}

/-- A watchpoint in use cannot read its field only if it lies past the end. -/
theorem field_eq_error (hw : w.Valid) {fault : Field.Fault} (h : w.field m = .error fault) :
    ∃ width, fault = .pastEnd w.offset width m.length := by
  unfold field Format.read at h
  split at h
  · next hwidth =>
    have hunused : w.format = .unused := by
      cases hformat : w.format <;> simp [hformat, Format.width?] at hwidth ⊢
    exact absurd hunused hw.used
  · split at h
    · exact ⟨_, (Except.error.inj h).symm⟩
    · cases h

/-- **The verdict of a valid watchpoint is that of a test**, unless the masked field is
not a number. -/
theorem judge_of_valid (hw : w.Valid) (hrelation : w.relation ≠ .custom) (masked : UInt32) :
    if w.format.isSingle && Single.isNaN ⟨masked⟩ then
      w.judge masked = .error (.notANumber masked)
    else ∃ holds, w.judge masked = .ok (.ofBool holds) := by
  obtain ⟨value, hvalue, hjudge⟩ := Relation.judge_narrow hrelation hw.reference masked
  simpa only [judge, hvalue] using hjudge

/-- The evaluation of a watchpoint that is not custom is the verdict on its masked
field. -/
theorem result_of_field {raw : UInt32} (hrelation : w.relation ≠ .custom)
    (hfield : w.field m = .ok raw) (slot : WatchSlot) (p : Predicate)
    (asked : List Consultation) :
    (w.evaluate slot m p asked).result =
      (w.judge (raw &&& w.mask)).map fun verdict => ⟨verdict, raw⟩ := by
  unfold evaluate
  rw [hfield]
  cases hcase : w.relation with
  | custom => exact absurd hcase hrelation
  | _ => rfl

/-- The verdict on a masked field is that of the relation between its value and the
reference. -/
theorem result_of_narrow {raw : UInt32} {value : Scalar} (hrelation : w.relation ≠ .custom)
    (hfield : w.field m = .ok raw) (hvalue : Scalar.narrow w.format (raw &&& w.mask) = .ok value)
    (slot : WatchSlot) (p : Predicate) (asked : List Consultation) :
    (w.evaluate slot m p asked).result =
      (w.relation.judge value w.reference).map fun verdict => ⟨verdict, raw⟩ := by
  rw [result_of_field hrelation hfield, judge, hvalue]

/-- **A field that can be read** gives a valid watchpoint the outcome of a test, unless the
watchpoint is custom or what the mask leaves is not a number. -/
theorem result_of_valid (hw : w.Valid) {raw : UInt32} (hrelation : w.relation ≠ .custom)
    (hfield : w.field m = .ok raw) (slot : WatchSlot) (p : Predicate)
    (asked : List Consultation) :
    if w.format.isSingle && Single.isNaN ⟨raw &&& w.mask⟩ then
      (w.evaluate slot m p asked).result = .error (.notANumber (raw &&& w.mask))
    else ∃ holds, (w.evaluate slot m p asked).result = .ok ⟨.ofBool holds, raw⟩ := by
  have hjudge := judge_of_valid hw hrelation (raw &&& w.mask)
  rw [result_of_field hrelation hfield]
  split at hjudge
  · next hnan => rw [if_pos hnan, hjudge]; rfl
  · next hnan =>
    obtain ⟨holds, hholds⟩ := hjudge
    rw [if_neg hnan, hholds]
    exact ⟨holds, rfl⟩

/-- **A valid watchpoint has two faults only**: its field lies past the end of the
message, or it is not a number. -/
theorem fault_of_valid (hw : w.Valid) {slot : WatchSlot} {p : Predicate}
    {asked : List Consultation} {fault : Field.Fault}
    (h : (w.evaluate slot m p asked).result = .error fault) :
    (∃ width, fault = .pastEnd w.offset width m.length) ∨ ∃ bits, fault = .notANumber bits := by
  cases hfield : w.field m with
  | error fieldFault =>
    simp only [evaluate, hfield] at h
    obtain rfl := Except.error.inj h
    exact .inl (field_eq_error hw hfield)
  | ok raw =>
    by_cases hrelation : w.relation = .custom
    · simp only [evaluate, hfield, hrelation] at h
      cases h
    · have hresult := result_of_valid hw hrelation hfield slot p asked
      split at hresult
      · exact .inr ⟨_, Except.error.inj (h.symm.trans hresult)⟩
      · obtain ⟨holds, hholds⟩ := hresult
        cases h.symm.trans hholds

/-- A record keeps the verdict that it notes. -/
@[simp] theorem Record.verdict_note (r : Record) (verdict : Verdict) (raw : UInt32)
    (timestamp : Timestamp) (staleAfter : UInt32) :
    (r.note verdict raw timestamp staleAfter).verdict = verdict := by
  cases verdict <;> rfl

/-- Aging makes no error. -/
theorem Record.error_of_age {r : Record} (h : r.age.verdict = .error) : r.verdict = .error := by
  unfold age at h
  split at h
  · exact h
  · split at h
    · cases h
    · exact h

/-- **When a watchpoint comes out as an error.** Unless it is custom, a valid watchpoint
leaves the verdict `error` exactly if its field lies past the end of the message or is
not a number. -/
theorem verdict_fold_eq_error (hw : w.Valid) (hrelation : w.relation ≠ .custom) (r : Record)
    (slot : WatchSlot) (p : Predicate) (asked : List Consultation) :
    (r.fold (w.evaluate slot m p asked).result m.timestamp w.staleAfter).verdict = .error ↔
      w.fits m = false ∨ w.readsNaN m = true := by
  rw [← isOk_field, readsNaN]
  cases hfield : w.field m with
  | error fault =>
    obtain ⟨width, rfl⟩ := field_eq_error hw hfield
    have hresult :
        (w.evaluate slot m p asked).result = .error (.pastEnd w.offset width m.length) := by
      simp only [evaluate, hfield]
    rw [hresult]
    exact ⟨fun _ => .inl rfl, fun _ => rfl⟩
  | ok raw =>
    have hresult := result_of_valid hw hrelation hfield slot p asked
    split at hresult
    · next hnan =>
      rw [hresult]
      exact ⟨fun _ => .inr hnan, fun _ => by simp [Record.fold]⟩
    · next hnan =>
      obtain ⟨holds, hholds⟩ := hresult
      rw [hholds]
      -- a test that is made comes out as `yes` or `no`
      cases holds <;> simp [Record.fold, Verdict.ofBool, hnan, Except.isOk, Except.toBool]

end Watchpoint

end LimitMonitor
