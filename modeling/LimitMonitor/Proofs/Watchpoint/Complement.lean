import LimitMonitor.Proofs.Field.Single
import LimitMonitor.Proofs.Watchpoint.Meaning

/-!
# Complementary relations

Where a relation gives a verdict, its complement gives the opposite one. Over the integers this
is the totality of their order (`holds_complement`). Over floating-point numbers it takes two
checks made elsewhere: a field that is not a number is a fault before it is related to anything,
and a reference is finite, so that its distance to the field is a number, which the tolerance
lies on one side of (`testSingle_complement`).

Main statement: `complementary_verdicts`.
-/

namespace LimitMonitor

namespace Relation

/-- The relation that holds where this one does not. The custom relation has none. -/
def complement : Relation → Relation
  | le => gt
  | lt => ge
  | eq => ne
  | ne => eq
  | ge => lt
  | gt => le
  | custom => custom

variable {r : Relation} (hr : r ≠ .custom)
include hr

theorem complement_ne_custom : r.complement ≠ .custom := by
  cases r with
  | custom => exact absurd rfl hr
  | _ => nofun

/-- **Of two integers** one of two complementary relations holds. -/
theorem holds_complement (x y : Int) : r.complement.Holds x y ↔ ¬ r.Holds x y := by
  cases r with
  | custom => exact absurd rfl hr
  | le => exact Int.not_le.symm
  | lt => exact Int.not_lt.symm
  | eq => exact Iff.rfl
  | ne => exact Decidable.not_not.symm
  | ge => exact Int.not_le.symm
  | gt => exact Int.not_lt.symm

/-- **Of a number and a finite number** one of two complementary relations holds. -/
theorem testSingle_complement {a b : Single} (ha : a.isNaN = false) (hb : b.isNaN = false)
    (hfinite : b.isInfinite = false) : ∃ holds, r.testSingle a b = .ok holds ∧
      r.complement.testSingle a b = .ok !holds := by
  have hvalue : a.value.isNaN = false := Single.isNaN_value.trans ha
  have hreference : b.value.isNaN = false := Single.isNaN_value.trans hb
  have htolerance : Single.tolerance.value.isNaN = false := Single.isNaN_value.trans (by decide)
  -- the only use of the finite reference: infinity less infinity is not a number
  have hdistance := Single.isNaN_distance ha hb hfinite
  have hlt {u v : Float32} (hu : u.isNaN = false) (hv : v.isNaN = false) :
      decide (v < u) = !decide (u ≤ v) := by
    rw [← decide_not, decide_eq_decide, Single.le_iff_not_lt hu hv, Decidable.not_not]
  have hle {u v : Float32} (hu : u.isNaN = false) (hv : v.isNaN = false) :
      decide (u ≤ v) = !decide (v < u) := by
    rw [hlt hu hv, Bool.not_not]
  simp only [testSingle, ha, Bool.false_eq_true, if_false]
  cases r with
  | custom => exact absurd rfl hr
  | le => exact ⟨_, rfl, congrArg Except.ok (hlt hvalue hreference)⟩
  | lt => exact ⟨_, rfl, congrArg Except.ok (hle hreference hvalue)⟩
  | eq => exact ⟨_, rfl, congrArg Except.ok (hlt hdistance htolerance)⟩
  | ne => exact ⟨_, rfl, congrArg Except.ok (hle hdistance htolerance)⟩
  | ge => exact ⟨_, rfl, congrArg Except.ok (hlt hreference hvalue)⟩
  | gt => exact ⟨_, rfl, congrArg Except.ok (hle hvalue hreference)⟩

omit hr in
/-- Infinity is at no distance from itself that is a number, so it would be neither equal to an
infinite reference nor different from it. -/
example : eq.testSingle ⟨0x7F800000⟩ ⟨0x7F800000⟩ = .ok false ∧
    ne.testSingle ⟨0x7F800000⟩ ⟨0x7F800000⟩ = .ok false := by decide +kernel

/-- **Two values of a format** are related by one of two complementary relations, if the value is
a number and the reference is finite where they are floating-point. -/
theorem judge_complement {f : Format} {a b : Scalar} (ha : Scalar.IsOf f a) (hb : Scalar.IsOf f b)
    (hnumber : ∀ x, a = .single x → x.isNaN = false)
    (hfinite : ∀ x, b = .single x → x.isNaN = false ∧ x.isInfinite = false) :
    ∃ verdict verdict', (verdict = .yes ∧ verdict' = .no ∨ verdict = .no ∧ verdict' = .yes) ∧
      r.judge a b = .ok verdict ∧ r.complement.judge a b = .ok verdict' := by
  by_cases hsingle : f.isSingle = true
  · cases ha with
    | single order x =>
      cases hb with
      | single _ y =>
        obtain ⟨hy, hy'⟩ := hfinite y rfl
        obtain ⟨holds, htest, hcomplement⟩ := testSingle_complement hr (hnumber x rfl) hy hy'
        refine ⟨.ofBool holds, .ofBool !holds, ?_, by rw [judge, htest]; rfl,
          by rw [judge, hcomplement]; rfl⟩
        cases holds with
        | true => exact .inl ⟨rfl, rfl⟩
        | false => exact .inr ⟨rfl, rfl⟩
    | _ => cases hsingle
  · rw [Bool.not_eq_true] at hsingle
    rw [judge_eq_holds hsingle hr ha hb, judge_eq_holds hsingle (complement_ne_custom hr) ha hb]
    simp only [holds_complement hr]
    by_cases hholds : r.Holds a.integer b.integer
    · exact ⟨_, _, .inl ⟨if_pos hholds, if_neg (not_not_intro hholds)⟩, rfl, rfl⟩
    · exact ⟨_, _, .inr ⟨if_neg hholds, if_pos hholds⟩, rfl, rfl⟩

end Relation

/-- Only a floating-point format narrows to a floating-point value, which is the word. -/
theorem Scalar.single_of_narrow {f : Format} {x : UInt32} {y : Single}
    (h : Scalar.narrow f x = .ok (.single y)) : f.isSingle = true ∧ y = ⟨x⟩ := by
  cases f with
  | single order => exact ⟨rfl, (Scalar.single.inj (Except.ok.inj h)).symm⟩
  | _ => cases h

namespace Watchpoint

variable {w : Watchpoint} {m : Message}

/-- The watchpoint under the complement of its relation. -/
def complement (w : Watchpoint) : Watchpoint := { w with relation := w.relation.complement }

/-- A definition whose relation is replaced by the complement decodes if the definition does. -/
theorem decode_complement {d : Definition} (h : decode d = .ok (some w)) :
    decode { d with relation := w.relation.complement.code } = .ok (some w.complement) := by
  obtain ⟨format, relation, reference, hformat, hused, -, hid, hnarrow, hdefect, rfl⟩ :=
    eq_of_decode h
  exact decode_of_checks (d := { d with relation := relation.complement.code }) hformat hused
    (Relation.ofCode?_code _) hid hnarrow hdefect

/-- **Complementary watchpoints** have the same fault or opposite verdicts on the same field. -/
theorem evaluate_complement (hw : w.Valid) (hrelation : w.relation ≠ .custom) (slot : WatchSlot)
    (p : Predicate) (asked : List Consultation) :
    let result := (w.evaluate slot m p asked).result
    let result' := (w.complement.evaluate slot m p asked).result
    (∃ fault, result = .error fault ∧ result' = .error fault) ∨
      ∃ verdict verdict' raw,
        (verdict = .yes ∧ verdict' = .no ∨ verdict = .no ∧ verdict' = .yes) ∧
        result = .ok ⟨verdict, raw⟩ ∧ result' = .ok ⟨verdict', raw⟩ := by
  intro result result'
  have hw' : w.complement.Valid := ⟨hw.used, hw.reference, hw.finite, hw.messageId⟩
  have hrelation' : w.complement.relation ≠ .custom := Relation.complement_ne_custom hrelation
  cases hfield : w.field m with
  | error fault =>
    have hfield' : w.complement.field m = .error fault := hfield
    refine .inl ⟨fault, ?_, ?_⟩
    · simp only [result, evaluate, hfield]
    · simp only [result', evaluate, hfield']
  | ok raw =>
    have hfield' : w.complement.field m = .ok raw := hfield
    by_cases hnan : (w.format.isSingle && Single.isNaN ⟨raw &&& w.mask⟩) = true
    · have hresult := result_of_valid hw hrelation hfield slot p asked
      have hresult' := result_of_valid hw' hrelation' hfield' slot p asked
      have hnan' : (w.complement.format.isSingle &&
        Single.isNaN ⟨raw &&& w.complement.mask⟩) = true := hnan
      rw [if_pos hnan] at hresult
      rw [if_pos hnan'] at hresult'
      exact .inl ⟨_, hresult, hresult'⟩
    · obtain ⟨value, hvalue, -⟩ :=
        Relation.judge_narrow hrelation hw.reference (raw &&& w.mask)
      have hnumber (x : Single) (hx : value = .single x) : x.isNaN = false := by
        subst hx
        obtain ⟨hsingle, rfl⟩ := Scalar.single_of_narrow hvalue
        rwa [hsingle, Bool.true_and, Bool.not_eq_true] at hnan
      obtain ⟨verdict, verdict', hopposite, hverdict, hverdict'⟩ :=
        Relation.judge_complement hrelation (Scalar.isOf_narrow hvalue) hw.reference hnumber
          hw.finite
      have hvalue' : Scalar.narrow w.complement.format (raw &&& w.complement.mask) = .ok value :=
        hvalue
      refine .inr ⟨verdict, verdict', raw, hopposite, ?_, ?_⟩
      · simp only [result, result_of_narrow hrelation hfield hvalue, hverdict, Except.map]
      · simp only [result', result_of_narrow hrelation' hfield' hvalue', complement, hverdict',
          Except.map]

/-! ## Patterns of floating-point fields -/

theorem width?_of_isSingle {f : Format} (h : f.isSingle = true) : f.width? = some 4 := by
  cases f with
  | single => rfl
  | _ => cases h

/-- Of a floating-point field inside the message the mask leaves the bits that it covers. -/
theorem masked_of_single (hsingle : w.format.isSingle = true)
    (hinside : w.offset.toNat + 4 ≤ m.length) :
    ∃ raw, w.field m = .ok raw ∧
      (raw &&& w.mask).toNat = w.format.numberAt m.payload w.offset.toNat 4 &&& w.mask.toNat := by
  have hwidth := width?_of_isSingle hsingle
  have hbits : w.format.bits = 32 := Format.bits_of_width? hwidth
  have hlt := Format.numberAt_lt hwidth hinside
  have hmasked := Format.toNat_word_and hlt w.mask
  rw [hbits] at hlt hmasked
  rw [Nat.mod_eq_of_lt (UInt32.toNat_lt _),
    Nat.mod_eq_of_lt (Nat.and_lt_two_pow _ w.mask.toNat_lt)] at hmasked
  exact ⟨_, Format.read_eq_word hwidth hinside, hmasked⟩

/-- **When a masked field is not a number**: it is a floating-point field inside the message, and
what the mask leaves of it has an exponent of ones and a mantissa that is not zero. -/
theorem readsNaN_iff : w.readsNaN m = true ↔
    w.format.isSingle = true ∧ w.offset.toNat + 4 ≤ m.length ∧
      let masked := w.format.numberAt m.payload w.offset.toNat 4 &&& w.mask.toNat
      masked / 2 ^ 23 % 2 ^ 8 = 2 ^ 8 - 1 ∧ masked % 2 ^ 23 ≠ 0 := by
  by_cases hsingle : w.format.isSingle = true
  · by_cases hinside : w.offset.toNat + 4 ≤ m.length
    · obtain ⟨raw, hfield, hmasked⟩ := masked_of_single hsingle hinside
      simp only [readsNaN, hfield, hsingle, Bool.true_and, Single.isNaN_iff, hmasked, hinside,
        true_and]
    · have hfield : w.field m = .error (.pastEnd w.offset 4 m.length) :=
        Format.read_eq_pastEnd (width?_of_isSingle hsingle) (Nat.not_le.mp hinside)
      simp only [readsNaN, hfield, hinside, false_and, and_false, Bool.false_eq_true]
  · have hnone : w.readsNaN m = false := by
      rw [Bool.not_eq_true] at hsingle
      simp only [readsNaN, hsingle, Bool.false_and]
      split <;> rfl
    simp only [hnone, hsingle, false_and, Bool.false_eq_true]

/-- A valid watchpoint that is not custom reports that its field is not a number exactly if it is
not. -/
theorem result_eq_notANumber_iff (hw : w.Valid) (hrelation : w.relation ≠ .custom)
    (slot : WatchSlot) (p : Predicate) (asked : List Consultation) :
    (∃ bits, (w.evaluate slot m p asked).result = .error (.notANumber bits)) ↔
      w.readsNaN m = true := by
  cases hfield : w.field m with
  | error fault =>
    obtain ⟨width, rfl⟩ := field_eq_error hw hfield
    simp [evaluate, readsNaN, hfield]
  | ok raw =>
    have hresult := result_of_valid hw hrelation hfield slot p asked
    simp only [readsNaN, hfield]
    split at hresult
    · next hnan => exact ⟨fun _ => hnan, fun _ => ⟨_, hresult⟩⟩
    · next hnan =>
      obtain ⟨holds, hholds⟩ := hresult
      refine ⟨fun hfault => ?_, fun h => absurd h hnan⟩
      obtain ⟨bits, hbits⟩ := hfault
      cases hbits.symm.trans hholds

/-- A floating-point field inside the message that is a number gets a verdict. -/
theorem result_of_number (hw : w.Valid) (hrelation : w.relation ≠ .custom)
    (hsingle : w.format.isSingle = true) (hinside : w.offset.toNat + 4 ≤ m.length)
    (hnumber : let masked := w.format.numberAt m.payload w.offset.toNat 4 &&& w.mask.toNat
      ¬ (masked / 2 ^ 23 % 2 ^ 8 = 2 ^ 8 - 1 ∧ masked % 2 ^ 23 ≠ 0))
    (slot : WatchSlot) (p : Predicate) (asked : List Consultation) :
    ∃ verdict raw, (verdict = .yes ∨ verdict = .no) ∧
      (w.evaluate slot m p asked).result = .ok ⟨verdict, raw⟩ := by
  obtain ⟨raw, hfield, -⟩ := masked_of_single hsingle hinside
  have hresult := result_of_valid hw hrelation hfield slot p asked
  split at hresult
  · have hnan : w.readsNaN m = true :=
      (result_eq_notANumber_iff hw hrelation slot p asked).mp ⟨_, hresult⟩
    exact absurd (readsNaN_iff.mp hnan).2.2 hnumber
  · obtain ⟨holds, hholds⟩ := hresult
    refine ⟨.ofBool holds, raw, ?_, hholds⟩
    cases holds with
    | true => exact .inl rfl
    | false => exact .inr rfl

/-- **Complementary relations give complementary verdicts.** Let a definition with a relation
`r` that is not custom decode. Then so does the definition with the complement of `r`, and on
every message the two watchpoints have the same fault or read the same raw value and give
opposite verdicts, one `yes` and the other `no`. The fault is that the field is not a number
exactly if the field is a floating-point one inside the message and the bits that the mask
leaves have an exponent of ones and a mantissa that is not zero. An infinite field, whose
mantissa is zero, gets one of the verdicts `yes` and `no`. The format is what its code
declares. -/
theorem complementary_verdicts {d : Definition} {w : Watchpoint} {r : Relation}
    (h : decode d = .ok (some w)) (hcode : d.relation = r.code) (hr : r ≠ .custom) :
    ∃ w', decode { d with relation := r.complement.code } = .ok (some w') ∧
      w.format.Declared d.format ∧
      ∀ (slot : WatchSlot) (m : Message) (p : Predicate) (asked : List Consultation),
        let result := (w.evaluate slot m p asked).result
        let result' := (w'.evaluate slot m p asked).result
        let beyond := d.offset.toNat + 4
        let number := w.format.order.number (m.payload.extract d.offset.toNat beyond).toList
        let exponent := (number &&& d.mask.toNat) / 2 ^ 23 % 2 ^ 8
        let mantissa := (number &&& d.mask.toNat) % 2 ^ 23
        ((∃ fault, result = .error fault ∧ result' = .error fault) ∨
          ∃ verdict verdict' raw,
            (verdict = .yes ∧ verdict' = .no ∨ verdict = .no ∧ verdict' = .yes) ∧
            result = .ok ⟨verdict, raw⟩ ∧ result' = .ok ⟨verdict', raw⟩) ∧
        ((∃ bits, result = .error (.notANumber bits)) ↔
          w.format.isSingle = true ∧ beyond ≤ m.length ∧
            exponent = 2 ^ 8 - 1 ∧ mantissa ≠ 0) ∧
        (w.format.isSingle = true → beyond ≤ m.length → exponent = 2 ^ 8 - 1 → mantissa = 0 →
          ∃ verdict raw, (verdict = .yes ∨ verdict = .no) ∧ result = .ok ⟨verdict, raw⟩) := by
  have hw := valid_of_decode h
  obtain ⟨format, relation, reference, hformat, hused, hrelation, -, -, -, rfl⟩ := eq_of_decode h
  obtain rfl : relation = r := by
    rw [hcode, Relation.ofCode?_code] at hrelation
    exact (Option.some.inj hrelation).symm
  refine ⟨_, decode_complement h, Format.declared_of_ofCode? hformat hused,
    fun slot m p asked => ⟨evaluate_complement hw hr slot p asked,
      (result_eq_notANumber_iff hw hr slot p asked).trans readsNaN_iff,
      fun hsingle hinside _ hmantissa => ?_⟩⟩
  exact result_of_number hw hr hsingle hinside (fun hnan => hnan.2 hmantissa) slot p asked

/-- A big-endian field compared for equality with the number one. The number one is equal to it.
Infinity is at an infinite distance from it, and not equal. Where the field is not a number
both relations report that. -/
theorem complementary_verdicts_one :
    let d : Definition :=
      (Definition.watching (.single .big) .eq 0x820 0).withReference 0x3F800000
    let d' : Definition := { d with relation := Relation.ne.code }
    let one : Message := ⟨⟨0x820⟩, #[0x3F, 0x80, 0, 0], 100⟩
    let infinite : Message := ⟨⟨0x820⟩, #[0x7F, 0x80, 0, 0], 100⟩
    let notANumber : Message := ⟨⟨0x820⟩, #[0x7F, 0xC0, 0, 0], 100⟩
    ∃ w w', decode d = .ok (some w) ∧ decode d' = .ok (some w') ∧
      ((w.evaluate 0 one .unregistered []).result = .ok ⟨.yes, 0x3F800000⟩ ∧
        (w'.evaluate 0 one .unregistered []).result = .ok ⟨.no, 0x3F800000⟩) ∧
      ((w.evaluate 0 infinite .unregistered []).result = .ok ⟨.no, 0x7F800000⟩ ∧
        (w'.evaluate 0 infinite .unregistered []).result = .ok ⟨.yes, 0x7F800000⟩) ∧
      ∃ bits, (w.evaluate 0 notANumber .unregistered []).result = .error (.notANumber bits) ∧
        (w'.evaluate 0 notANumber .unregistered []).result = .error (.notANumber bits) := by
  intro d d' one infinite notANumber
  let w : Watchpoint := ⟨.single .big, .eq, ⟨0x820⟩, 0, 0xFFFFFFFF, .single ⟨0x3F800000⟩, 0, 0⟩
  have hdecode : decode d = .ok (some w) := by decide
  have hone : (w.evaluate 0 one .unregistered []).result = .ok ⟨.yes, 0x3F800000⟩ := by
    decide +kernel
  have hinfinite : (w.evaluate 0 infinite .unregistered []).result = .ok ⟨.no, 0x7F800000⟩ := by
    decide +kernel
  obtain ⟨w', hdecode', -, hverdicts⟩ := complementary_verdicts hdecode rfl (r := .eq) (by decide)
  have hother {m : Message} {verdict : Verdict} {raw : UInt32}
      (hresult : (w.evaluate 0 m .unregistered []).result = .ok ⟨verdict, raw⟩) :
      ∃ verdict', (verdict = .yes ∧ verdict' = .no ∨ verdict = .no ∧ verdict' = .yes) ∧
        (w'.evaluate 0 m .unregistered []).result = .ok ⟨verdict', raw⟩ := by
    rcases (hverdicts 0 m .unregistered []).1 with
      ⟨fault, hfault, -⟩ | ⟨_, verdict', _, hopposite, hread, hread'⟩
    · cases hresult.symm.trans hfault
    · cases hresult.symm.trans hread
      exact ⟨verdict', hopposite, hread'⟩
  refine ⟨w, w', hdecode, hdecode', ⟨hone, ?_⟩, ⟨hinfinite, ?_⟩, ?_⟩
  · obtain ⟨verdict', ⟨-, rfl⟩ | ⟨hno, -⟩, hresult'⟩ := hother hone
    · exact hresult'
    · cases hno
  · obtain ⟨verdict', ⟨hyes, -⟩ | ⟨-, rfl⟩, hresult'⟩ := hother hinfinite
    · cases hyes
    · exact hresult'
  · obtain ⟨hboth, hnan, -⟩ := hverdicts 0 notANumber .unregistered []
    obtain ⟨bits, hresult⟩ := hnan.mpr ⟨rfl, by decide, by decide, by decide⟩
    rcases hboth with ⟨fault, hfault, hfault'⟩ | ⟨_, _, _, -, hread, -⟩
    · obtain rfl := Except.error.inj (hresult.symm.trans hfault)
      exact ⟨bits, hresult, hfault'⟩
    · cases hresult.symm.trans hread

end Watchpoint

end LimitMonitor
