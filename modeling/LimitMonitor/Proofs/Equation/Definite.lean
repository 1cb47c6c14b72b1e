import LimitMonitor.Proofs.Equation.Expression

/-!
# Definite verdicts

`yes` and `no` are definite; `error` and `stale` stand for data that is missing. A
connective is definite only where its definite operands settle it, so missing data that
comes in later cannot overturn a definite verdict (`Connective.keeps_denote`, and for a
whole expression `Expression.keeps_denote`). In the other direction, an expression is an
error, or stale, only if one of its operands is (`Expression.exists_of_indefinite`), and
where all of them are definite its verdict is the classical truth value
(`Expression.denote_of_definite`).

Main statement: `definite_outcome_stable`.
-/

namespace LimitMonitor

namespace Verdict

/-- The verdict is `yes` or `no`. -/
def isDefinite : Verdict → Bool
  | no | yes => true
  | error | stale => false

/-- The second verdict keeps what the first one settles: it is the same, if the first one
is definite, and arbitrary otherwise. -/
def Keeps (a b : Verdict) : Prop := a.isDefinite = true → b = a

/-! ## When a connective is definite -/

theorem and_eq_no {a b : Verdict} : Connective.and.denote a b = .no ↔ a = .no ∨ b = .no := by
  cases a <;> cases b <;> decide

theorem and_eq_yes {a b : Verdict} : Connective.and.denote a b = .yes ↔ a = .yes ∧ b = .yes := by
  cases a <;> cases b <;> decide

theorem or_eq_yes {a b : Verdict} : Connective.or.denote a b = .yes ↔ a = .yes ∨ b = .yes := by
  cases a <;> cases b <;> decide

theorem or_eq_no {a b : Verdict} : Connective.or.denote a b = .no ↔ a = .no ∧ b = .no := by
  cases a <;> cases b <;> decide

theorem isDefinite_xor {a b : Verdict} : (Connective.xor.denote a b).isDefinite = true ↔
    a.isDefinite = true ∧ b.isDefinite = true := by
  cases a <;> cases b <;> decide

theorem isDefinite_opposite {a : Verdict} : a.opposite.isDefinite = a.isDefinite := by
  cases a <;> rfl

theorem eq_of_isDefinite {a : Verdict} (h : a.isDefinite = true) : a = .no ∨ a = .yes := by
  cases a with
  | no => exact .inl rfl
  | yes => exact .inr rfl
  | error | stale => cases h

theorem keeps_opposite {a b : Verdict} (h : a.Keeps b) : a.opposite.Keeps b.opposite := by
  intro hdefinite
  rw [h (isDefinite_opposite.symm.trans hdefinite)]

end Verdict

namespace Connective

/-- **A connective keeps what its operands keep.** -/
theorem keeps_denote {a a' b b' : Verdict} (c : Connective) (ha : a.Keeps a') (hb : b.Keeps b') :
    (c.denote a b).Keeps (c.denote a' b') := by
  intro hdefinite
  cases c with
  | and =>
    -- one `no` settles a conjunction, and a `yes` takes two
    rcases Verdict.eq_of_isDefinite hdefinite with hno | hyes
    · rw [hno]
      rcases Verdict.and_eq_no.mp hno with rfl | rfl
      · exact Verdict.and_eq_no.mpr (.inl (ha rfl))
      · exact Verdict.and_eq_no.mpr (.inr (hb rfl))
    · rw [hyes]
      obtain ⟨rfl, rfl⟩ := Verdict.and_eq_yes.mp hyes
      exact Verdict.and_eq_yes.mpr ⟨ha rfl, hb rfl⟩
  | or =>
    rcases Verdict.eq_of_isDefinite hdefinite with hno | hyes
    · rw [hno]
      obtain ⟨rfl, rfl⟩ := Verdict.or_eq_no.mp hno
      exact Verdict.or_eq_no.mpr ⟨ha rfl, hb rfl⟩
    · rw [hyes]
      rcases Verdict.or_eq_yes.mp hyes with rfl | rfl
      · exact Verdict.or_eq_yes.mpr (.inl (ha rfl))
      · exact Verdict.or_eq_yes.mpr (.inr (hb rfl))
  | xor =>
    obtain ⟨hadefinite, hbdefinite⟩ := Verdict.isDefinite_xor.mp hdefinite
    rw [ha hadefinite, hb hbdefinite]

/-- A connective makes no missing data of its own. -/
theorem eq_of_indefinite {c : Connective} {a b v : Verdict} (hv : v.isDefinite = false)
    (h : c.denote a b = v) : a = v ∨ b = v := by
  subst h
  cases c <;> cases a <;> cases b <;> simp_all [denote, Verdict.isDefinite]

/-- The classical truth value of a connective. -/
def holds : Connective → Bool → Bool → Bool
  | and, a, b => a && b
  | or, a, b => a || b
  | xor, a, b => a ^^ b

theorem denote_ofBool (c : Connective) (a b : Bool) :
    c.denote (.ofBool a) (.ofBool b) = .ofBool (c.holds a b) := by
  cases c <;> cases a <;> cases b <;> rfl

end Connective

/-! ## Expressions -/

namespace Expression

variable {verdicts other : WatchSlot → Verdict} {x : Expression}

/-- The classical truth value of an expression. -/
def holds (truth : WatchSlot → Bool) : Expression → Bool
  | operand slot => truth slot
  | not a => !a.holds truth
  | join c a b => c.holds (a.holds truth) (b.holds truth)

/-- **An expression keeps what its operands keep.** -/
theorem keeps_denote (h : ∀ slot ∈ x.operands, (verdicts slot).Keeps (other slot)) :
    (x.denote verdicts).Keeps (x.denote other) := by
  induction x with
  | operand slot => exact h slot (List.mem_singleton_self slot)
  | not a ih => exact Verdict.keeps_opposite (ih h)
  | join c a b iha ihb =>
    exact c.keeps_denote (iha fun slot hslot => h slot (List.mem_append_left _ hslot))
      (ihb fun slot hslot => h slot (List.mem_append_right _ hslot))

/-- **An expression is an error, or stale, only if one of its operands is.** -/
theorem exists_of_indefinite {v : Verdict} (hv : v.isDefinite = false)
    (h : x.denote verdicts = v) : ∃ slot ∈ x.operands, verdicts slot = v := by
  induction x generalizing v with
  | operand slot => exact ⟨slot, List.mem_singleton_self slot, h⟩
  | not a ih =>
    have hsame : a.denote verdicts = v := by
      rw [denote] at h
      subst h
      rw [Verdict.isDefinite_opposite] at hv
      cases hdenote : a.denote verdicts with
      | no | yes => rw [hdenote] at hv; cases hv
      | error | stale => rfl
    exact ih hv hsame
  | join c a b iha ihb =>
    rcases Connective.eq_of_indefinite hv h with ha | hb
    · obtain ⟨slot, hslot, hverdict⟩ := iha hv ha
      exact ⟨slot, List.mem_append_left _ hslot, hverdict⟩
    · obtain ⟨slot, hslot, hverdict⟩ := ihb hv hb
      exact ⟨slot, List.mem_append_right _ hslot, hverdict⟩

/-- **Over definite operands the verdict is the classical truth value.** -/
theorem denote_of_definite (h : ∀ slot ∈ x.operands, (verdicts slot).isDefinite = true) :
    x.denote verdicts = .ofBool (x.holds fun slot => verdicts slot = .yes) := by
  induction x with
  | operand slot =>
    rw [denote, holds]
    rcases Verdict.eq_of_isDefinite (h slot (List.mem_singleton_self slot)) with hno | hyes
    · rw [hno]
      rfl
    · rw [hyes]
      rfl
  | not a ih =>
    rw [denote, holds, ih h]
    cases a.holds _ <;> rfl
  | join c a b iha ihb =>
    rw [denote, holds, iha fun slot hslot => h slot (List.mem_append_left _ hslot),
      ihb fun slot hslot => h slot (List.mem_append_right _ hslot), Connective.denote_ofBool]

end Expression

/-! ## Equations -/

namespace Equation

/-- **A definite outcome stands whatever the missing data turns out to be.** Take an
equation that passes the check and any verdicts. The equation opens with an expression and
has an outcome. If that is `pass` or `fail`, it is the outcome over all other verdicts
that agree with the first on the definite operands, whatever they are on the others. It is
`error` only if an operand before the end token has the verdict `error`, and `stale` only
if one has the verdict `stale`. Where all operands are definite, it says whether the
expression holds classically: a failure if it does, and a pass if not. -/
theorem definite_outcome_stable (codes : List UInt16) (accepted : check codes = .ok ())
    (verdicts : WatchSlot → Verdict) :
    ∃ (x : Expression) (outcome : Outcome), x.Opens codes ∧
      evaluate verdicts codes = .ok outcome ∧
      (outcome = .pass ∨ outcome = .fail →
        ∀ other, (∀ slot ∈ operands codes, (verdicts slot).isDefinite = true →
            other slot = verdicts slot) →
          evaluate other codes = .ok outcome) ∧
      (outcome = .error → ∃ slot ∈ operands codes, verdicts slot = .error) ∧
      (outcome = .stale → ∃ slot ∈ operands codes, verdicts slot = .stale) ∧
      ((∀ slot ∈ operands codes, (verdicts slot).isDefinite = true) →
        outcome = if x.holds fun slot => verdicts slot = .yes then .fail else .pass) := by
  obtain ⟨x, hx⟩ := exists_opens accepted
  rw [operands_eq hx]
  refine ⟨x, .ofVerdict (x.denote verdicts), hx, hx.evaluate_eq verdicts, ?_, ?_, ?_, ?_⟩
  · intro houtcome other hagree
    have hdefinite : (x.denote verdicts).isDefinite = true := by
      cases hdenote : x.denote verdicts with
      | no | yes => rfl
      | error | stale => rw [hdenote] at houtcome; rcases houtcome with h | h <;> cases h
    rw [hx.evaluate_eq other, Expression.keeps_denote hagree hdefinite]
  · intro houtcome
    refine Expression.exists_of_indefinite rfl ?_
    cases hdenote : x.denote verdicts with
    | error => rfl
    | _ => rw [hdenote] at houtcome; cases houtcome
  · intro houtcome
    refine Expression.exists_of_indefinite rfl ?_
    cases hdenote : x.denote verdicts with
    | stale => rfl
    | _ => rw [hdenote] at houtcome; cases houtcome
  · intro hdefinite
    rw [Expression.denote_of_definite hdefinite]
    cases x.holds _ <;> rfl

/-- A watchpoint that says `no` settles a conjunction while the other operands are an error
and stale, and it still does so when they come out as `yes`. -/
theorem definite_outcome_stable_and :
    let codes : List UInt16 := [0, 1, 2, 0xFFF3, 0xFFF1, 0xFFF5]
    let verdicts : WatchSlot → Verdict := fun slot =>
      if slot = 0 then .no else if slot = 1 then .error else .stale
    let other : WatchSlot → Verdict := fun slot => if slot = 0 then .no else .yes
    check codes = .ok () ∧ evaluate verdicts codes = .ok .pass ∧
      evaluate other codes = .ok .pass := by
  intro codes verdicts other
  have accepted : check codes = .ok () := by decide
  have hpass : evaluate verdicts codes = .ok .pass := by decide
  obtain ⟨x, outcome, -, houtcome, hstable, -⟩ := definite_outcome_stable codes accepted verdicts
  obtain rfl : outcome = .pass := Except.ok.inj (houtcome.symm.trans hpass)
  have hoperands : operands codes = [0, 1, 2] := by decide
  refine ⟨accepted, hpass, hstable (.inl rfl) other ?_⟩
  rw [hoperands]
  -- of the three operands, only the first is definite
  simp only [List.forall_mem_cons]
  exact ⟨fun _ => rfl, fun h => absurd h Bool.false_ne_true, fun h => absurd h Bool.false_ne_true,
    fun _ h => absurd h List.not_mem_nil⟩

end Equation

end LimitMonitor
