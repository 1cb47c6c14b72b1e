import LimitMonitor.Proofs.Field.Number
import LimitMonitor.Proofs.Watchpoint.Validity

/-!
# What a watchpoint definition means

From the definition to the verdict a value goes through a word: the field is extended to it,
masked in it and narrowed again, as the reference is. An integer field comes out of this as
the integer that the mask leaves of it, related to the integer in the low bits of the
reference (`result_of_integer`), whatever the bits of the mask and the reference beyond the
field are (`low_bits_suffice`). How wide the field is, in which order its bytes stand and how
they are read is what the code of its format declares (`Format.Declared`).

Main statement: `meaning_of_definition`.
-/

namespace LimitMonitor

theorem Verdict.ofBool_decide (p : Prop) [Decidable p] :
    ofBool (decide p) = if p then .yes else .no := by
  by_cases hp : p <;> simp [ofBool, hp]

namespace Format

/-- The format is what its code declares: one byte up to code two, two bytes up to code six
and four bytes after that, with the orders, the signs and the floating-point numbers at the
codes that are listed. -/
structure Declared (f : Format) (code : UInt8) : Prop where
  width : f.width? = some (if code ≤ 2 then 1 else if code ≤ 6 then 2 else 4)
  little : f.order = .little ↔ code ∈ [4, 6, 8, 10, 12]
  signed : f.isSigned = true ↔ code ∈ [1, 3, 4, 7, 8]
  single : f.isSingle = true ↔ code ∈ [11, 12]

theorem declared_of_ofCode? {code : UInt8} {f : Format} (h : ofCode? code = some f)
    (hused : f ≠ .unused) : f.Declared code := by
  obtain rfl := code_of_ofCode? h
  rcases f with _ | _ | _ | ⟨_ | _⟩ | ⟨_ | _⟩ | ⟨_ | _⟩ | ⟨_ | _⟩ | ⟨_ | _⟩
  case unused => exact absurd rfl hused
  all_goals exact ⟨by decide, by decide, by decide, by decide⟩

end Format

namespace Relation

theorem code_of_ofCode? {code : UInt8} {r : Relation} (h : ofCode? code = some r) :
    r.code = code := by
  unfold ofCode? at h
  split at h <;> first | (obtain rfl := Option.some.inj h; rfl) | cases h

/-- What a relation says of two integers. The custom relation says nothing. -/
def Holds : Relation → Int → Int → Prop
  | le, x, y => x ≤ y
  | lt, x, y => x < y
  | eq, x, y => x = y
  | ne, x, y => x ≠ y
  | ge, x, y => y ≤ x
  | gt, x, y => y < x
  | custom, _, _ => False

instance (r : Relation) (x y : Int) : Decidable (r.Holds x y) :=
  match r with
  | le => inferInstanceAs (Decidable (x ≤ y))
  | lt => inferInstanceAs (Decidable (x < y))
  | eq => inferInstanceAs (Decidable (x = y))
  | ne => inferInstanceAs (Decidable (x ≠ y))
  | ge => inferInstanceAs (Decidable (y ≤ x))
  | gt => inferInstanceAs (Decidable (y < x))
  | custom => inferInstanceAs (Decidable False)

/-- A type whose order and identity are those of the integers that its values stand for is
tested as these integers. -/
theorem test_eq_holds {α : Type} [LE α] [LT α] [DecidableLE α] [DecidableLT α] [DecidableEq α]
    {read : α → Int} (hle : ∀ a b, a ≤ b ↔ read a ≤ read b)
    (hlt : ∀ a b, a < b ↔ read a < read b) (hinj : ∀ a b, a = b ↔ read a = read b)
    {r : Relation} (hr : r ≠ .custom) (a b : α) :
    r.test a b = .ok (decide (r.Holds (read a) (read b))) := by
  cases r with
  | custom => exact absurd rfl hr
  | le => exact congrArg Except.ok (decide_eq_decide.mpr (hle a b))
  | lt => exact congrArg Except.ok (decide_eq_decide.mpr (hlt a b))
  | ge => exact congrArg Except.ok (decide_eq_decide.mpr (hle b a))
  | gt => exact congrArg Except.ok (decide_eq_decide.mpr (hlt b a))
  | eq => exact congrArg Except.ok (decide_eq_decide.mpr (hinj a b))
  | ne =>
    have hne : (!decide (a = b)) = decide (read a ≠ read b) := by
      rw [← decide_not, decide_eq_decide, hinj]
    exact congrArg Except.ok hne

/-- **Two values of an integer format** are related as the integers that they stand for. -/
theorem judge_eq_holds {f : Format} (hinteger : f.isSingle = false) {r : Relation}
    (hr : r ≠ .custom) {a b : Scalar} (ha : Scalar.IsOf f a) (hb : Scalar.IsOf f b) :
    r.judge a b = .ok (if r.Holds a.integer b.integer then .yes else .no) := by
  have hunsigned {α : Type} [LE α] [LT α] [DecidableLE α] [DecidableLT α] [DecidableEq α]
      {read : α → Nat} (hle : ∀ {a b}, a ≤ b ↔ read a ≤ read b)
      (hlt : ∀ {a b}, a < b ↔ read a < read b) (hinj : ∀ {a b}, read a = read b ↔ a = b)
      (a b : α) :=
    test_eq_holds (fun _ _ => hle.trans Int.ofNat_le.symm) (fun _ _ => hlt.trans Int.ofNat_lt.symm)
      (fun _ _ => hinj.symm.trans Int.ofNat_inj.symm) hr a b
  cases ha with
  | single => cases hinteger
  | uint8 a =>
    obtain ⟨b⟩ := hb
    rw [judge, hunsigned UInt8.le_iff_toNat_le UInt8.lt_iff_toNat_lt UInt8.toNat_inj]
    exact congrArg Except.ok (Verdict.ofBool_decide _)
  | uint16 order a =>
    obtain ⟨b⟩ := hb
    rw [judge, hunsigned UInt16.le_iff_toNat_le UInt16.lt_iff_toNat_lt UInt16.toNat_inj]
    exact congrArg Except.ok (Verdict.ofBool_decide _)
  | uint32 order a =>
    obtain ⟨b⟩ := hb
    rw [judge, hunsigned UInt32.le_iff_toNat_le UInt32.lt_iff_toNat_lt UInt32.toNat_inj]
    exact congrArg Except.ok (Verdict.ofBool_decide _)
  | int8 a =>
    obtain ⟨b⟩ := hb
    rw [judge, test_eq_holds (fun _ _ => Int8.le_iff_toInt_le) (fun _ _ => Int8.lt_iff_toInt_lt)
      (fun _ _ => Int8.toInt_inj.symm) hr]
    exact congrArg Except.ok (Verdict.ofBool_decide _)
  | int16 order a =>
    obtain ⟨b⟩ := hb
    rw [judge, test_eq_holds (fun _ _ => Int16.le_iff_toInt_le) (fun _ _ => Int16.lt_iff_toInt_lt)
      (fun _ _ => Int16.toInt_inj.symm) hr]
    exact congrArg Except.ok (Verdict.ofBool_decide _)
  | int32 order a =>
    obtain ⟨b⟩ := hb
    rw [judge, test_eq_holds (fun _ _ => Int32.le_iff_toInt_le) (fun _ _ => Int32.lt_iff_toInt_lt)
      (fun _ _ => Int32.toInt_inj.symm) hr]
    exact congrArg Except.ok (Verdict.ofBool_decide _)

end Relation

namespace Watchpoint

variable {w : Watchpoint} {m : Message} {width : UInt8}

theorem Valid.exists_width (hw : w.Valid) : ∃ width, w.format.width? = some width := by
  cases hformat : w.format with
  | unused => exact absurd hformat hw.used
  | _ => exact ⟨_, rfl⟩

/-- **The field past the end** is what a valid watchpoint reports, exactly if it is there. -/
theorem result_eq_pastEnd_iff (hw : w.Valid) (hwidth : w.format.width? = some width)
    (slot : WatchSlot) (p : Predicate) (asked : List Consultation) :
    (w.evaluate slot m p asked).result = .error (.pastEnd w.offset width m.length) ↔
      m.length < w.offset.toNat + width.toNat := by
  rcases Nat.lt_or_ge m.length (w.offset.toNat + width.toNat) with hbeyond | hinside
  · have hfield : w.field m = .error (.pastEnd w.offset width m.length) :=
      Format.read_eq_pastEnd hwidth hbeyond
    simp only [evaluate, hfield, hbeyond]
  · refine ⟨fun hresult => ?_, fun hbeyond => absurd hbeyond (Nat.not_lt.mpr hinside)⟩
    have hfield : w.field m = .ok _ := Format.read_eq_word hwidth hinside
    by_cases hrelation : w.relation = .custom
    · simp only [evaluate, hfield, hrelation] at hresult
      cases hresult
    · have hother := result_of_valid hw hrelation hfield slot p asked
      split at hother
      · cases hresult.symm.trans hother
      · obtain ⟨holds, hholds⟩ := hother
        cases hresult.symm.trans hholds

/-- **An integer field** is judged as the integer that the mask leaves of it. -/
theorem result_of_integer (hw : w.Valid) (hinteger : w.format.isSingle = false)
    (hrelation : w.relation ≠ .custom) (hwidth : w.format.width? = some width)
    (hinside : w.offset.toNat + width.toNat ≤ m.length) (slot : WatchSlot) (p : Predicate)
    (asked : List Consultation) :
    let number := w.format.numberAt m.payload w.offset.toNat width.toNat
    (w.evaluate slot m p asked).result =
      .ok ⟨if w.relation.Holds (w.format.integer (number &&& w.mask.toNat)) w.reference.integer
        then .yes else .no, w.format.word number⟩ := by
  intro number
  have hfield : w.field m = .ok (w.format.word number) := Format.read_eq_word hwidth hinside
  obtain ⟨value, hvalue, -⟩ :=
    Relation.judge_narrow hrelation hw.reference (w.format.word number &&& w.mask)
  have hmasked : value.integer = w.format.integer (number &&& w.mask.toNat) :=
    (Scalar.integer_narrow hvalue).trans
      (Format.integer_congr (Format.toNat_word_and (Format.numberAt_lt hwidth hinside) w.mask))
  rw [result_of_narrow hrelation hfield hvalue,
    Relation.judge_eq_holds hinteger hrelation (Scalar.isOf_narrow hvalue) hw.reference, hmasked]
  rfl

/-- The evaluation of a custom watchpoint hands what the mask leaves of the field to the
predicate and returns its answer. -/
theorem evaluate_of_custom {raw : UInt32} (hrelation : w.relation = .custom)
    (hfield : w.field m = .ok raw) (slot : WatchSlot) (p : Predicate)
    (asked : List Consultation) :
    let question : Consultation := ⟨slot, raw &&& w.mask, m, w.argument⟩
    w.evaluate slot m p asked = ⟨.ok ⟨p.answer asked question, raw⟩, some question⟩ := by
  simp only [evaluate, hfield, hrelation]

/-- A reading carries the field before masking. -/
theorem raw_of_result {raw : UInt32} (hfield : w.field m = .ok raw) {slot : WatchSlot}
    {p : Predicate} {asked : List Consultation} {reading : Reading}
    (h : (w.evaluate slot m p asked).result = .ok reading) : reading.raw = raw := by
  by_cases hrelation : w.relation = .custom
  · rw [evaluate_of_custom hrelation hfield] at h
    obtain rfl := Except.ok.inj h
    rfl
  · rw [result_of_field hrelation hfield] at h
    cases hjudge : w.judge (raw &&& w.mask) with
    | error fault => rw [hjudge] at h; cases h
    | ok verdict =>
      rw [hjudge] at h
      obtain rfl := Except.ok.inj h
      rfl

/-- Any word is a reference of an integer format. -/
theorem narrow_of_integer {f : Format} (hused : f ≠ .unused) (hinteger : f.isSingle = false)
    (x : UInt32) : ∃ a, Scalar.narrow f x = .ok a ∧ referenceDefect? a = none := by
  cases f with
  | unused => exact absurd rfl hused
  | single order => cases hinteger
  | _ => exact ⟨_, rfl, rfl⟩

/-- **The bits of the mask and of the reference beyond the field** do not matter to an integer
field. -/
theorem low_bits_suffice {d : Definition} (h : decode d = .ok (some w))
    (hinteger : w.format.isSingle = false) (hrelation : w.relation ≠ .custom)
    {mask reference : UInt32}
    (hmask : mask.toNat % 2 ^ w.format.bits = d.mask.toNat % 2 ^ w.format.bits)
    (hreference : reference.toNat % 2 ^ w.format.bits = d.reference.toNat % 2 ^ w.format.bits) :
    ∃ w', decode { d with mask, reference } = .ok (some w') ∧ ∀ slot m p asked,
      (w'.evaluate slot m p asked).result = (w.evaluate slot m p asked).result := by
  have hw := valid_of_decode h
  obtain ⟨width, hwidth⟩ := hw.exists_width
  obtain ⟨format, relation, value, hformat, hused, hcode, hid, hnarrow, hdefect, rfl⟩ :=
    eq_of_decode h
  obtain ⟨value', hnarrow', hdefect'⟩ := narrow_of_integer hused hinteger reference
  have h' := decode_of_checks (d := { d with mask, reference }) hformat hused hcode hid hnarrow'
    hdefect'
  have hw' := valid_of_decode h'
  refine ⟨_, h', fun slot m p asked => ?_⟩
  rcases Nat.lt_or_ge m.length (d.offset.toNat + width.toNat) with hbeyond | hinside
  · exact ((result_eq_pastEnd_iff hw' hwidth slot p asked).mpr hbeyond).trans
      ((result_eq_pastEnd_iff hw hwidth slot p asked).mpr hbeyond).symm
  · have hvalues : value'.integer = value.integer := by
      rw [Scalar.integer_narrow hnarrow', Scalar.integer_narrow hnarrow]
      exact Format.integer_congr hreference
    have hmasked (number : Nat) :
        format.integer (number &&& mask.toNat) = format.integer (number &&& d.mask.toNat) :=
      Format.integer_congr (by rw [Nat.and_mod_two_pow, hmask, ← Nat.and_mod_two_pow])
    rw [result_of_integer hw' hinteger hrelation hwidth hinside,
      result_of_integer hw hinteger hrelation hwidth hinside, hvalues, hmasked]

/-- **What a definition means.** Let the definition decode to a watchpoint, which has the format
and the relation of its codes, and let its field be `width` bytes wide, as the code of the
format declares.
* A field past the end is reported, with its offset and width and the length of the message,
  exactly if the message ends before the field does.
* Otherwise the raw value is the number of the bytes of the field in the order of the format,
  extended to a word by the sign if the format has one and by zeros if not.
* An integer field under a relation that is not custom gives the verdict `yes` if the relation
  holds between two integers, and `no` if it does not: the one that the format reads in those
  bits of the field that the mask covers, and the one that it reads in the low bits of the
  reference. So the bits of the mask and of the reference beyond the field do not matter.
* Under the custom relation the predicate is asked about the raw value under the mask, with
  the argument of the definition, and its answer is the verdict, which is `error` where no
  predicate is registered. -/
theorem meaning_of_definition {d : Definition} {w : Watchpoint} (h : decode d = .ok (some w)) :
    ∃ width, w.format.code = d.format ∧ w.relation.code = d.relation ∧
      w.format.Declared d.format ∧ w.format.width? = some width ∧
      (∀ (slot : WatchSlot) (m : Message) (p : Predicate) (asked : List Consultation),
        let beyond := d.offset.toNat + width.toNat
        let number := w.format.order.number (m.payload.extract d.offset.toNat beyond).toList
        let raw := w.format.word number
        let evaluation := w.evaluate slot m p asked
        (evaluation.result = .error (.pastEnd d.offset width m.length) ↔ m.length < beyond) ∧
        (beyond ≤ m.length → w.field m = .ok raw ∧
          (∀ reading, evaluation.result = .ok reading → reading.raw = raw) ∧
          (w.format.isSingle = false → w.relation ≠ .custom →
            let x := w.format.integer (number &&& d.mask.toNat)
            let reference := w.format.integer d.reference.toNat
            evaluation.result = .ok ⟨if w.relation.Holds x reference then .yes else .no, raw⟩) ∧
          (w.relation = .custom →
            let question : Consultation := ⟨slot, raw &&& d.mask, m, d.argument⟩
            evaluation.question = some question ∧
            (p = .unregistered → evaluation.result = .ok ⟨.error, raw⟩) ∧
            ∀ answer, p = .registered answer →
              evaluation.result = .ok ⟨answer asked question, raw⟩))) ∧
      (w.format.isSingle = false → w.relation ≠ .custom → ∀ mask reference : UInt32,
        mask.toNat % 2 ^ (8 * width.toNat) = d.mask.toNat % 2 ^ (8 * width.toNat) →
        reference.toNat % 2 ^ (8 * width.toNat) = d.reference.toNat % 2 ^ (8 * width.toNat) →
        ∃ w', decode { d with mask, reference } = .ok (some w') ∧ ∀ slot m p asked,
          (w'.evaluate slot m p asked).result = (w.evaluate slot m p asked).result) := by
  have hw := valid_of_decode h
  obtain ⟨width, hwidth⟩ := hw.exists_width
  obtain ⟨format, relation, reference, hformat, hused, hrelation, hid, hnarrow, hdefect, rfl⟩ :=
    eq_of_decode h
  refine ⟨width, Format.code_of_ofCode? hformat, Relation.code_of_ofCode? hrelation,
    Format.declared_of_ofCode? hformat hused, hwidth,
    fun slot m p asked => ⟨result_eq_pastEnd_iff hw hwidth slot p asked, fun hinside => ?_⟩, ?_⟩
  · have hfield := Format.read_eq_word hwidth hinside
    refine ⟨hfield, fun _ => raw_of_result hfield, fun hinteger hplain => ?_, fun hcustom => ?_⟩
    · have hresult := result_of_integer hw hinteger hplain hwidth hinside slot p asked
      rwa [Scalar.integer_narrow hnarrow] at hresult
    · intro question
      have hevaluate := evaluate_of_custom hcustom hfield slot p asked
      simp only [hevaluate]
      exact ⟨rfl, fun hp => hp ▸ rfl, fun answer hp => hp ▸ rfl⟩
  · intro hinteger hplain mask reference hmask hreference
    rw [← Format.bits_of_width? hwidth] at hmask hreference
    exact low_bits_suffice h hinteger hplain hmask hreference

/-- Little-endian fields of two bytes, related to zero by a mask and a reference that have more
bits beyond the field. The mask leaves the sign of `FE FF` and less than zero, and of `FE 7F` a
positive number. -/
theorem meaning_of_definition_one :
    let d : Definition :=
      ((Definition.watching (.int16 .little) .lt 0x820 1).withMask 0xABCD8FFF).withReference 0x70000
    let w : Watchpoint :=
      ⟨.int16 .little, .lt, ⟨0x820⟩, 1, 0xABCD8FFF, .int16 0, 0, 0⟩
    decode d = .ok (some w) ∧
      (w.evaluate 0 ⟨⟨0x820⟩, #[7, 0xFE, 0xFF], 100⟩ .unregistered []).result =
        .ok ⟨.yes, 0xFFFFFFFE⟩ ∧
      (w.evaluate 0 ⟨⟨0x820⟩, #[7, 0xFE, 0x7F], 100⟩ .unregistered []).result =
        .ok ⟨.no, 0x7FFE⟩ := by
  intro d w
  have hdecode : decode d = .ok (some w) := by decide
  obtain ⟨width, -, -, -, hwidth, hmeaning, -⟩ := meaning_of_definition hdecode
  obtain rfl := Option.some.inj hwidth
  have hnegative := (hmeaning 0 ⟨⟨0x820⟩, #[7, 0xFE, 0xFF], 100⟩ .unregistered []).2 (by decide)
  have hpositive := (hmeaning 0 ⟨⟨0x820⟩, #[7, 0xFE, 0x7F], 100⟩ .unregistered []).2 (by decide)
  have hyes := hnegative.2.2.1 rfl (by decide)
  have hno := hpositive.2.2.1 rfl (by decide)
  exact ⟨hdecode, hyes.trans (by decide), hno.trans (by decide)⟩

end Watchpoint

end LimitMonitor
