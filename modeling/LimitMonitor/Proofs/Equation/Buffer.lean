import LimitMonitor.Actionpoint.Definition
import LimitMonitor.Proofs.Equation.Expression

/-!
# Equations in their buffer

A definition stores an equation in a buffer of twenty codes. A longer equation is cut, and
a shorter one is padded with zeros. A zero is a code like any other: it pushes the verdict
of the first watchpoint, so the scans of a padded equation may go on where those of the
equation itself have come to its end.

The meaning of an equation is the expression that it opens with, and that is a matter of
where the codes of an expression, closed by the end token, begin the buffer
(`Expression.opens_iff`). Such codes end with the end token, which no padding brings along
(`prefix_append_replicate_iff`). So an equation and its buffer open with the same
expressions (`Expression.opens_ofCodes_iff`).

Main statement: `buffer_keeps_meaning`.
-/

namespace LimitMonitor

/-! ## Padding -/

/-- **Padding completes nothing that ends with another code.** -/
theorem prefix_append_replicate_iff {α : Type} {pad last : α} (h : last ≠ pad)
    {before codes : List α} {n : Nat} :
    before ++ [last] <+: codes ++ List.replicate n pad ↔ before ++ [last] <+: codes := by
  refine ⟨fun hpadded => ?_, fun hcodes => hcodes.trans (List.prefix_append _ _)⟩
  rcases List.prefix_or_prefix_of_prefix hpadded (List.prefix_append codes _) with hcodes | hover
  · exact hcodes
  · obtain ⟨excess, hexcess⟩ := hover
    rcases List.eq_nil_or_concat' excess with rfl | ⟨between, c, rfl⟩
    · have hwhole : before ++ [last] = codes := by rw [← hexcess, List.append_nil]
      exact hwhole ▸ List.prefix_rfl
    · -- what reaches past the codes is padding, and the last code is part of it
      rw [← hexcess, List.prefix_append_right_inj] at hpadded
      rw [← List.append_assoc] at hexcess
      obtain rfl : c = last := List.singleton_inj.mp (List.append_inj' hexcess rfl).2
      have hmem : c ∈ List.replicate n pad :=
        hpadded.subset (List.mem_append_right _ (List.mem_singleton_self c))
      exact absurd (List.eq_of_mem_replicate hmem) h

namespace Equation

/-- What the buffer of an equation holds. -/
theorem toList_ofCodes (codes : List UInt16) :
    (ofCodes codes).toList =
      codes.take equationCapacity ++ List.replicate (equationCapacity - codes.length) 0 := by
  refine List.ext_getElem? fun i => ?_
  rw [Vector.getElem?_toList, ofCodes, Vector.getElem?_ofFn, List.getElem?_append,
    List.length_take, List.getElem?_take, List.getElem?_replicate]
  by_cases hi : i < equationCapacity
  · by_cases hcode : i < codes.length
    · have hinside : i < min equationCapacity codes.length := by omega
      simp [hi, hcode, hinside]
    · have hpad : i - codes.length < equationCapacity - codes.length := by omega
      have hshort : codes.length ≤ equationCapacity := by omega
      simp [hi, hcode, hpad, hshort]
  · have hpad : ¬ i - min equationCapacity codes.length < equationCapacity - codes.length := by
      omega
    simp [hi, hpad]

/-- An end token in the buffer of an equation comes from the equation. -/
theorem equal_mem_of_mem_ofCodes {codes : List UInt16}
    (h : Token.equal.code ∈ (ofCodes codes).toList) :
    Token.equal.code ∈ codes.take equationCapacity := by
  rw [toList_ofCodes] at h
  rcases List.mem_append.mp h with hcode | hpad
  · exact hcode
  · have hzero : Token.equal.code ≠ 0 := by decide
    exact absurd (List.eq_of_mem_replicate hpad) hzero

end Equation

/-! ## The expression of an equation and of its buffer -/

namespace Expression

variable {x : Expression} {codes : List UInt16}

/-- An equation opens with an expression if the codes of the expression and the end token
begin its buffer. -/
theorem opens_iff :
    x.Opens codes ↔ x.codes ++ [Token.equal.code] <+: codes.take equationCapacity := by
  have hlength : (x.codes ++ [Token.equal.code]).length ≤ equationCapacity ↔
      x.codes.length ≤ 19 := by
    rw [List.length_append, List.length_singleton]
    exact Nat.succ_le_succ_iff
  rw [List.prefix_take_iff, hlength, and_comm, Opens]
  refine and_congr_right fun _ => exists_congr fun rest => ?_
  rw [List.append_assoc, List.singleton_append, eq_comm]

/-- **An equation and its buffer open with the same expressions.** -/
theorem opens_ofCodes_iff : x.Opens (Equation.ofCodes codes).toList ↔ x.Opens codes := by
  have hend : Token.equal.code ≠ 0 := by decide
  have hbuffer : (Equation.ofCodes codes).toList.length ≤ equationCapacity :=
    Nat.le_of_eq Vector.length_toList
  rw [opens_iff, opens_iff, List.take_of_length_le hbuffer, Equation.toList_ofCodes,
    prefix_append_replicate_iff hend]

/-- An equation that opens with an expression has its end token in the buffer. -/
theorem Opens.equal_mem (h : x.Opens codes) :
    Token.equal.code ∈ codes.take equationCapacity :=
  (opens_iff.mp h).subset (List.mem_append_right _ (List.mem_singleton_self _))

theorem Opens.check_eq (h : x.Opens codes) : Equation.check codes = .ok () := by
  rw [← Equation.map_evaluate (fun _ => .no) codes, h.evaluate_eq]
  rfl

end Expression

namespace Equation

/-! ## Acceptance -/

/-- The check and every evaluation refuse the equation, in the same place. -/
def Refused (codes : List UInt16) : Prop :=
  ∃ m, check codes = .error m ∧ ∀ verdicts, evaluate verdicts codes = .error m

/-- An equation without an end token in its buffer is refused. -/
theorem refused_of_equal_notMem {codes : List UInt16}
    (h : Token.equal.code ∉ codes.take equationCapacity) : Refused codes := by
  cases hcheck : check codes with
  | ok accepted =>
    obtain ⟨x, hx⟩ := exists_opens hcheck
    exact absurd hx.equal_mem h
  | error m =>
    refine ⟨m, hcheck, fun verdicts => ?_⟩
    have hmap := map_evaluate verdicts codes
    rw [hcheck] at hmap
    cases hevaluate : evaluate verdicts codes with
    | ok outcome =>
      rw [hevaluate] at hmap
      cases hmap
    | error place =>
      rw [hevaluate] at hmap
      exact congrArg Except.error (Except.error.inj hmap)

/-- **The buffer keeps the meaning of an equation.** Take any list of codes, as short or as
long as it may be, and the twenty codes that a definition stores for it: its first ones, and
zeros after the last. The check accepts what is stored exactly if it accepts the list, and
then both evaluate to the same outcome, over any verdicts. A list that has no end token
among its first twenty codes, because it has none or because the buffer cuts it off, is
refused in both forms: the zeros complete nothing. -/
theorem buffer_keeps_meaning (d : Actionpoint.Definition) (codes : List UInt16) :
    let stored := (d.withEquation codes).equation.toList
    stored = codes.take 20 ++ List.replicate (20 - codes.length) 0 ∧
    (check stored = .ok () ↔ check codes = .ok ()) ∧
    (check codes = .ok () → ∀ verdicts, ∃ outcome,
      evaluate verdicts codes = .ok outcome ∧ evaluate verdicts stored = .ok outcome) ∧
    (Token.equal.code ∉ codes.take 20 → Refused codes ∧ Refused stored) := by
  intro stored
  have hstored : stored = (ofCodes codes).toList := rfl
  have hopens (x : Expression) : x.Opens stored ↔ x.Opens codes := by
    rw [hstored]
    exact Expression.opens_ofCodes_iff
  refine ⟨toList_ofCodes codes, ⟨fun h => ?_, fun h => ?_⟩, fun h verdicts => ?_, fun h => ?_⟩
  · obtain ⟨x, hx⟩ := exists_opens h
    exact ((hopens x).mp hx).check_eq
  · obtain ⟨x, hx⟩ := exists_opens h
    exact ((hopens x).mpr hx).check_eq
  · obtain ⟨x, hx⟩ := exists_opens h
    exact ⟨_, hx.evaluate_eq verdicts, ((hopens x).mpr hx).evaluate_eq verdicts⟩
  · refine ⟨refused_of_equal_notMem h, refused_of_equal_notMem fun hmem => h ?_⟩
    exact equal_mem_of_mem_ofCodes (List.mem_of_mem_take hmem)

end Equation

end LimitMonitor
