import LimitMonitor.Proofs.Equation.Lockstep
import LimitMonitor.Proofs.Table.Slots
import Mathlib.Data.List.Basic

/-!
# The expressions behind equations

An equation is meant as an expression over watchpoints, written in postfix order and
closed by the end token. `Expression` is the tree, `codes` writes it down, `denote` is
its verdict. A connective is meant by precedence: each has an order of verdicts, and the
first of them that an operand has is the verdict (`Connective.denote`). The codes of an
expression leave its verdict on the stack and nothing else (`stackAfter_codes`), no two
expressions are written alike (`codes_append_inj`), and codes that pass the check were
written from an expression (`exists_of_checkFrom`).

Main statement: `check_iff_opens`.
-/

namespace LimitMonitor

/-! ## Codes of tokens -/

namespace Token

@[simp] theorem ofCode?_code (t : Token) : ofCode? t.code = some t := by
  cases t with
  | operand slot =>
    have hslot := slot.isLt
    have hval := Slots.toNat_slotNumber (by decide) slot
    simp only [code, ofCode?]
    -- the numbers of slots are below the codes of the operators
    split
    case h_6 => rw [WatchSlot.ofNumber?_eq_some.mpr rfl, Option.map_some]
    all_goals
      next heq =>
      rw [heq] at hval
      simp only [watchCapacity] at hslot
      exact absurd hval (by simp; omega)
  | connective c => cases c <;> rfl
  | not => rfl
  | equal => rfl

theorem code_of_ofCode? {code : UInt16} {t : Token} (h : ofCode? code = some t) :
    t.code = code := by
  unfold ofCode? at h
  split at h
  case h_6 =>
    obtain ⟨slot, hslot, rfl⟩ := Option.map_eq_some_iff.mp h
    exact (WatchSlot.ofNumber?_eq_some.mp hslot).symm
  all_goals
    obtain rfl := Option.some.inj h
    rfl

theorem code_inj {t t' : Token} : t.code = t'.code ↔ t = t' := by
  refine ⟨fun h => ?_, fun h => h ▸ rfl⟩
  have hcode := congrArg ofCode? h
  rwa [ofCode?_code, ofCode?_code, Option.some.injEq] at hcode

end Token

/-! ## Precedence -/

/-- The opposite of a definite verdict, and any other verdict as it is. -/
def Verdict.opposite (v : Verdict) : Verdict :=
  if v = .no then .yes else if v = .yes then .no else v

theorem Verdict.not_eq_opposite (v : Verdict) : v.not = v.opposite := by
  cases v <;> rfl

namespace Connective

/-- The verdict of a connective by precedence. -/
def denote (c : Connective) (a b : Verdict) : Verdict :=
  match c with
  | and =>
    if a = .no ∨ b = .no then .no
    else if a = .error ∨ b = .error then .error
    else if a = .stale ∨ b = .stale then .stale
    else .yes
  | or =>
    if a = .yes ∨ b = .yes then .yes
    else if a = .error ∨ b = .error then .error
    else if a = .stale ∨ b = .stale then .stale
    else .no
  | xor =>
    if a = .error ∨ b = .error then .error
    else if a = .stale ∨ b = .stale then .stale
    else if a = b then .no
    else .yes

/-- **The tables of the connectives are their precedences.** -/
theorem apply_eq_denote (c : Connective) (a b : Verdict) : c.apply a b = c.denote a b := by
  cases c <;> cases a <;> cases b <;> rfl

end Connective

/-! ## Expressions -/

/-- An expression over the verdicts of watchpoints. -/
inductive Expression where
  | operand (slot : WatchSlot)
  | not (a : Expression)
  | join (c : Connective) (a b : Expression)
deriving DecidableEq

namespace Expression

/-- The codes of an expression in postfix order. -/
def codes : Expression → List UInt16
  | operand slot => [(Token.operand slot).code]
  | not a => a.codes ++ [Token.not.code]
  | join c a b => a.codes ++ (b.codes ++ [(Token.connective c).code])

/-- The verdict of an expression, the earlier operand on the left. -/
def denote (verdicts : WatchSlot → Verdict) : Expression → Verdict
  | operand slot => verdicts slot
  | not a => (a.denote verdicts).opposite
  | join c a b => c.denote (a.denote verdicts) (b.denote verdicts)

example : (join .and (join .or (operand 0) (operand 1)) (not (operand 2))).codes =
    [0, 1, 0xFFF2, 2, 0xFFF4, 0xFFF1] := rfl

/-- The watchpoints of an expression, from left to right. -/
def operands : Expression → List WatchSlot
  | operand slot => [slot]
  | not a => a.operands
  | join _ a b => a.operands ++ b.operands

/-- An equation opens with an expression: the codes of the expression come first, the end
token comes next, and both fit the buffer of twenty. What follows is arbitrary. -/
def Opens (x : Expression) (codes : List UInt16) : Prop :=
  x.codes.length ≤ 19 ∧ ∃ rest, codes = x.codes ++ Token.equal.code :: rest

theorem length_codes_pos (x : Expression) : 0 < x.codes.length := by
  cases x with
  | operand slot => exact Nat.one_pos
  | not a => simp [codes]
  | join c a b =>
    rw [codes, List.length_append, List.length_append]
    exact Nat.lt_of_lt_of_le (Nat.succ_pos _) (Nat.le_add_left _ _)

/-- The end token is not part of an expression. -/
theorem equal_notMem_codes (x : Expression) : Token.equal.code ∉ x.codes := by
  induction x with
  | operand slot => simp [codes, Token.code_inj]
  | not a ih => simp [codes, Token.code_inj, ih]
  | join c a b iha ihb => simp [codes, Token.code_inj, iha, ihb]

/-- The token that closes an expression. -/
def closing : Expression → Token
  | operand slot => .operand slot
  | not _ => .not
  | join c _ _ => .connective c

/-- The codes of an expression without its closing one. -/
def body : Expression → List UInt16
  | operand _ => []
  | not a => a.codes
  | join _ a b => a.codes ++ b.codes

theorem codes_eq (x : Expression) : x.codes = x.body ++ [x.closing.code] := by
  cases x with
  | operand slot => rfl
  | not a => rfl
  | join c a b => rw [codes, body, closing, List.append_assoc]

/-- Where the codes of two expressions end alike, so do their parts. -/
theorem split_closing {x y : Expression} {r r' : List UInt16}
    (h : r ++ x.codes = r' ++ y.codes) : r ++ x.body = r' ++ y.body ∧ x.closing = y.closing := by
  rw [codes_eq, codes_eq, ← List.append_assoc, ← List.append_assoc] at h
  obtain ⟨hbody, hclosing⟩ := List.append_inj' h rfl
  exact ⟨hbody, Token.code_inj.mp (List.singleton_inj.mp hclosing)⟩

/-- **No two expressions are written alike.** The closing token says how many operands
come before it, so codes are read in one way only, from the end. -/
theorem codes_append_inj {x y : Expression} {r r' : List UInt16}
    (h : r ++ x.codes = r' ++ y.codes) : r = r' ∧ x = y := by
  induction x generalizing y r r' with
  | operand slot =>
    obtain ⟨hbody, hclosing⟩ := split_closing h
    cases y with
    | operand slot' =>
      obtain rfl := Token.operand.inj hclosing
      exact ⟨by simpa [body] using hbody, rfl⟩
    | not a' => cases hclosing
    | join c' a' b' => cases hclosing
  | not a ih =>
    obtain ⟨hbody, hclosing⟩ := split_closing h
    cases y with
    | operand slot' => cases hclosing
    | not a' =>
      obtain ⟨hr, rfl⟩ := ih hbody
      exact ⟨hr, rfl⟩
    | join c' a' b' => cases hclosing
  | join c a b iha ihb =>
    obtain ⟨hbody, hclosing⟩ := split_closing h
    cases y with
    | operand slot' => cases hclosing
    | not a' => cases hclosing
    | join c' a' b' =>
      obtain rfl := Token.connective.inj hclosing
      rw [body, body, ← List.append_assoc, ← List.append_assoc] at hbody
      obtain ⟨hfirst, rfl⟩ := ihb hbody
      obtain ⟨hr, rfl⟩ := iha hfirst
      exact ⟨hr, rfl⟩

/-- The expression is written before the first end token. -/
theorem Opens.takeWhile_eq {x : Expression} {codes : List UInt16} (h : x.Opens codes) :
    codes.takeWhile (· ≠ Token.equal.code) = x.codes := by
  obtain ⟨-, rest, rfl⟩ := h
  have hcodes : ∀ code ∈ x.codes, decide (code ≠ Token.equal.code) = true := fun code hcode =>
    decide_eq_true fun heq => x.equal_notMem_codes (heq ▸ hcode)
  rw [List.takeWhile_append_of_pos hcodes]
  simp

/-- An equation opens with one expression at most. -/
theorem Opens.unique {x y : Expression} {codes : List UInt16} (hx : x.Opens codes)
    (hy : y.Opens codes) : x = y := by
  have hcodes : [] ++ x.codes = [] ++ y.codes := by
    rw [List.nil_append, List.nil_append, ← hx.takeWhile_eq, hy.takeWhile_eq]
  exact (codes_append_inj hcodes).2

/-! ## Evaluation -/

variable {verdicts : WatchSlot → Verdict}

/-- **The codes of an expression leave its verdict on top of the stack.** -/
theorem stackAfter_codes (x : Expression) {stack : List Verdict}
    (room : stack.length + x.codes.length ≤ equationCapacity) :
    Equation.stackAfter verdicts stack x.codes = some (x.denote verdicts :: stack) := by
  induction x generalizing stack with
  | operand slot =>
    have hpush : Equation.push? stack (verdicts slot) = some (verdicts slot :: stack) :=
      Equation.push?_of_lt (Nat.lt_of_succ_le room) _
    simp [codes, denote, Equation.stackAfter, Equation.advance, hpush]
  | not a ih =>
    rw [codes, List.length_append] at room
    rw [codes, Equation.stackAfter_append, ih (by omega)]
    simp [Equation.stackAfter, Equation.advance, denote, Verdict.not_eq_opposite]
  | join c a b iha ihb =>
    have ha := a.length_codes_pos
    rw [codes, List.length_append, List.length_append, List.length_singleton] at room
    rw [codes, Equation.stackAfter_append, iha (by omega), Option.bind_some,
      Equation.stackAfter_append, ihb (by rw [List.length_cons]; omega)]
    simp [Equation.stackAfter, Equation.advance, denote, Connective.apply_eq_denote]

/-- **An equation evaluates to the expression that it opens with.** -/
theorem Opens.evaluate_eq {x : Expression} {codes : List UInt16} (h : x.Opens codes)
    (verdicts : WatchSlot → Verdict) :
    Equation.evaluate verdicts codes = .ok (Outcome.ofVerdict (x.denote verdicts)) := by
  obtain ⟨hlength, rest, rfl⟩ := h
  have hbuffer : (x.codes ++ Token.equal.code :: rest).take equationCapacity =
      x.codes ++ Token.equal.code :: rest.take (19 - x.codes.length) := by
    have hroom : equationCapacity - x.codes.length = 19 - x.codes.length + 1 := by
      simp only [equationCapacity]
      omega
    rw [List.take_append, List.take_of_length_le (by simp only [equationCapacity]; omega), hroom,
      List.take_succ_cons]
  have hstack : Equation.stackAfter verdicts [] x.codes = some [x.denote verdicts] :=
    x.stackAfter_codes (by simp only [List.length_nil, equationCapacity]; omega)
  rw [Equation.evaluate, hbuffer, Equation.evaluateFrom_append hstack, Equation.evaluateFrom_cons]
  simp [Equation.advance, Equation.conclude]

end Expression

namespace Equation

/-! ## Operands -/

/-- The watchpoint that a code names. -/
def operand? (code : UInt16) : Option WatchSlot :=
  match Token.ofCode? code with
  | some (.operand slot) => some slot
  | _ => none

/-- The watchpoints that an equation names before its end token. -/
def operands (codes : List UInt16) : List WatchSlot :=
  (codes.takeWhile (· ≠ Token.equal.code)).filterMap operand?

theorem filterMap_codes (x : Expression) : x.codes.filterMap operand? = x.operands := by
  induction x with
  | operand slot => simp [Expression.codes, Expression.operands, operand?]
  | not a ih => simp [Expression.codes, Expression.operands, operand?, ih]
  | join c a b iha ihb => simp [Expression.codes, Expression.operands, operand?, iha, ihb]

/-- The operands of an equation are those of the expression that it opens with. -/
theorem operands_eq {x : Expression} {codes : List UInt16} (h : x.Opens codes) :
    operands codes = x.operands := by
  rw [operands, h.takeWhile_eq, filterMap_codes]

/-! ## The grammar -/

/-- **Codes that pass the check were written from an expression**: those on the stack are
written already, and the codes up to the end token complete them to one. -/
theorem exists_of_checkFrom {token : Nat} {codes : List UInt16} (stack : List Expression)
    (h : checkFrom token stack.length codes = .ok ()) :
    ∃ (x : Expression) (before rest : List UInt16), codes = before ++ Token.equal.code :: rest ∧
      stack.reverse.flatMap Expression.codes ++ before = x.codes := by
  induction codes generalizing token stack with
  | nil => cases h
  | cons code codes ih =>
    rw [checkFrom] at h
    cases hcode : Token.ofCode? code with
    | none => simp [hcode] at h
    | some t =>
      obtain rfl := Token.code_of_ofCode? hcode
      rw [hcode] at h
      cases t with
      | operand slot =>
        obtain ⟨x, before, rest, rfl, hx⟩ := ih (.operand slot :: stack) h
        exact ⟨x, (Token.operand slot).code :: before, rest, rfl, by
          simpa [Expression.codes] using hx⟩
      | connective c =>
        rcases stack with _ | ⟨b, _ | ⟨a, below⟩⟩
        · cases h
        · cases h
        · have hdepth : ¬ below.length + 1 + 1 < 2 := by omega
          obtain ⟨x, before, rest, rfl, hx⟩ :=
            ih (.join c a b :: below) (by simpa [hdepth] using h)
          exact ⟨x, (Token.connective c).code :: before, rest, rfl, by
            simpa [Expression.codes] using hx⟩
      | not =>
        rcases stack with _ | ⟨a, below⟩
        · cases h
        · obtain ⟨x, before, rest, rfl, hx⟩ := ih (.not a :: below) (by simpa using h)
          exact ⟨x, Token.not.code :: before, rest, rfl, by simpa [Expression.codes] using hx⟩
      | equal =>
        rcases stack with _ | ⟨x, _ | ⟨y, below⟩⟩
        · cases h
        · exact ⟨x, [], codes, rfl, by simp⟩
        · simp at h

/-- An equation that passes the check opens with an expression. -/
theorem exists_opens {codes : List UInt16} (h : check codes = .ok ()) :
    ∃ x : Expression, x.Opens codes := by
  obtain ⟨x, before, rest, hcodes, hx⟩ := exists_of_checkFrom [] h
  rw [List.reverse_nil, List.flatMap_nil, List.nil_append] at hx
  subst hx
  refine ⟨x, ?_, rest ++ codes.drop equationCapacity, ?_⟩
  · -- the end token is in the buffer too
    have hlength := congrArg List.length hcodes
    simp only [List.length_take, List.length_append, List.length_cons, equationCapacity] at hlength
    omega
  · rw [← List.cons_append, ← List.append_assoc, ← hcodes, List.take_append_drop]

/-- **The check accepts postfix notation, and the evaluation computes its meaning.** An
equation passes the check exactly if it opens with an expression: the codes of the
expression in postfix order, at most nineteen of them, and then the end token. It is the
only expression that the equation opens with. Over any verdicts, and whatever follows the
end token, the equation passes if the verdict of the expression is `no`, fails if it is
`yes`, and is an error or stale if the verdict is. -/
theorem check_iff_opens (codes : List UInt16) :
    (check codes = .ok () ↔ ∃ x : Expression, x.Opens codes) ∧
    (∀ x y : Expression, x.Opens codes → y.Opens codes → x = y) ∧
    ∀ x : Expression, x.Opens codes → ∀ verdicts : WatchSlot → Verdict,
      (x.denote verdicts = .no → evaluate verdicts codes = .ok .pass) ∧
      (x.denote verdicts = .yes → evaluate verdicts codes = .ok .fail) ∧
      (x.denote verdicts = .error → evaluate verdicts codes = .ok .error) ∧
      (x.denote verdicts = .stale → evaluate verdicts codes = .ok .stale) := by
  refine ⟨⟨exists_opens, fun ⟨x, hx⟩ => ?_⟩, fun x y hx hy => hx.unique hy,
    fun x hx verdicts => ?_⟩
  · rw [← map_evaluate (fun _ => .no) codes, hx.evaluate_eq]
    rfl
  · rw [hx.evaluate_eq]
    refine ⟨fun hno => ?_, fun hyes => ?_, fun herror => ?_, fun hstale => ?_⟩
    · rw [hno]
      rfl
    · rw [hyes]
      rfl
    · rw [herror]
      rfl
    · rw [hstale]
      rfl

end Equation

end LimitMonitor
