import LimitMonitor.Equation.Evaluation

/-!
# Checking and evaluating in step

The evaluation of an equation keeps a stack, the check only a depth. Both carry out one
code after the other: `advance` and `deepen` are what one code makes of the stack and of
the depth, and `evaluateFrom_cons` and `checkFrom_cons` say that there is nothing else
to the two scans. One code keeps the depth equal to the length of the stack
(`length_advance`), so the scans go together up to the code at which both of them end
(`map_evaluateFrom`), and the account of operands and connectives that the check keeps
is that of the codes carried out (`account_checkFrom`).

Main statement: `evaluate_fails_as_check`. It also says that a push always finds room:
the stack is never longer than the codes carried out are many
(`length_le_of_stackAfter`).
-/

namespace LimitMonitor

namespace Equation

variable (verdicts : WatchSlot → Verdict)

/-! ## One code -/

/-- The stack after one code, or nothing where the evaluation ends at it. -/
def advance (stack : List Verdict) (code : UInt16) : Option (List Verdict) :=
  match Token.ofCode? code with
  | some (.operand slot) => push? stack (verdicts slot)
  | some (.connective c) =>
    match stack with
    | b :: a :: below => some (c.apply a b :: below)
    | _ => none
  | some .not =>
    match stack with
    | a :: below => some (a.not :: below)
    | [] => none
  | some .equal | none => none

/-- How an evaluation ends at a code that leaves no stack. -/
def conclude (token : Nat) (stack : List Verdict) (code : UInt16) : Except Malformed Outcome :=
  match Token.ofCode? code, stack with
  | some .equal, [last] => .ok (Outcome.ofVerdict last)
  | _, _ => .error ⟨token, stack.length⟩

/-- The depth after one code, or nothing where the check ends at it. -/
def deepen (depth : Nat) (code : UInt16) : Option Nat :=
  match Token.ofCode? code with
  | some (.operand _) => some (depth + 1)
  | some (.connective _) => if depth < 2 then none else some (depth - 1)
  | some .not => if depth < 1 then none else some depth
  | some .equal | none => none

/-- How a check ends at a code that leaves no depth. -/
def settle (token depth : Nat) (code : UInt16) : Except Malformed Unit :=
  if Token.ofCode? code = some .equal ∧ depth = 1 then .ok () else .error ⟨token, depth⟩

/-- The code names a watchpoint. -/
def isOperand (code : UInt16) : Bool :=
  match Token.ofCode? code with
  | some (.operand _) => true
  | _ => false

/-- The code joins two verdicts. -/
def isConnective (code : UInt16) : Bool :=
  match Token.ofCode? code with
  | some (.connective _) => true
  | _ => false

theorem evaluateFrom_cons (token : Nat) (stack : List Verdict) (code : UInt16)
    (rest : List UInt16) :
    evaluateFrom verdicts token stack (code :: rest) =
      match advance verdicts stack code with
      | some stack' => evaluateFrom verdicts (token + 1) stack' rest
      | none => conclude token stack code := by
  simp only [evaluateFrom, advance, conclude]
  cases Token.ofCode? code with
  | none => rfl
  | some t =>
    cases t with
    | operand slot =>
      simp only
      cases push? stack (verdicts slot) <;> rfl
    | connective c => rcases stack with _ | ⟨b, _ | ⟨a, below⟩⟩ <;> rfl
    | not => cases stack <;> rfl
    | equal => rcases stack with _ | ⟨a, _ | ⟨b, below⟩⟩ <;> rfl

theorem checkFrom_cons (token depth : Nat) (code : UInt16) (rest : List UInt16) :
    checkFrom token depth (code :: rest) =
      match deepen depth code with
      | some depth' => checkFrom (token + 1) depth' rest
      | none => settle token depth code := by
  simp only [checkFrom, deepen, settle]
  cases Token.ofCode? code with
  | none => simp
  | some t =>
    cases t with
    | operand slot => rfl
    | connective c => by_cases h : depth < 2 <;> simp [h]
    | not => by_cases h : depth < 1 <;> simp [h]
    | equal => simp

variable {verdicts}

theorem push?_of_lt {stack : List Verdict} (room : stack.length < equationCapacity)
    (verdict : Verdict) : push? stack verdict = some (verdict :: stack) := by
  rw [push?, if_pos room]

/-- **One code takes the depth along with the length of the stack**, as long as the
stack has room. -/
theorem length_advance {stack : List Verdict} (room : stack.length < equationCapacity)
    (code : UInt16) :
    (advance verdicts stack code).map List.length = deepen stack.length code := by
  simp only [advance, deepen]
  cases Token.ofCode? code with
  | none => rfl
  | some t =>
    cases t with
    | operand slot => simp only [push?_of_lt room, Option.map_some, List.length_cons]
    | connective c =>
      rcases stack with _ | ⟨b, _ | ⟨a, below⟩⟩
      · rfl
      · rfl
      · simp
    | not => cases stack <;> simp
    | equal => rfl

/-- Where no code is carried out, both scans end in the same way. -/
theorem map_conclude (token : Nat) (stack : List Verdict) (code : UInt16) :
    (conclude token stack code).map (fun _ => ()) = settle token stack.length code := by
  simp only [conclude, settle]
  by_cases hcode : Token.ofCode? code = some .equal
  · rcases stack with _ | ⟨a, _ | ⟨b, below⟩⟩ <;> simp [hcode, Except.map]
  · simp [hcode, Except.map]

/-- One code adds at most one verdict. -/
theorem length_le_of_advance {stack stack' : List Verdict} {code : UInt16}
    (h : advance verdicts stack code = some stack') : stack'.length ≤ stack.length + 1 := by
  unfold advance push? at h
  -- an operand adds a verdict, an operator leaves no more than there were
  repeat' split at h
  all_goals cases h
  all_goals simp

/-- One code keeps the account: the depth is the operands less the connectives. -/
theorem account_deepen {depth depth' : Nat} {code : UInt16} (h : deepen depth code = some depth') :
    depth' + (isConnective code).toNat = depth + (isOperand code).toNat := by
  simp only [deepen] at h
  simp only [isConnective, isOperand]
  cases hcode : Token.ofCode? code with
  | none => simp [hcode] at h
  | some t =>
    rw [hcode] at h
    cases t with
    | operand slot => simpa using h.symm
    | connective c =>
      simp only at h
      split at h
      · cases h
      · obtain rfl := Option.some.inj h
        simp only [Bool.toNat_true, Bool.toNat_false]
        omega
    | not =>
      simp only at h
      split at h
      · cases h
      · simpa using h.symm
    | equal => cases h

theorem settle_eq_error {token depth : Nat} {code : UInt16} {m : Malformed}
    (h : settle token depth code = .error m) : m = ⟨token, depth⟩ := by
  unfold settle at h
  split at h
  · cases h
  · exact (Except.error.inj h).symm

/-! ## A scan -/

/-- **The scans go together.** The evaluation ends with an outcome exactly if the check
passes, and otherwise both name the same place. -/
theorem map_evaluateFrom {token : Nat} {stack : List Verdict} {codes : List UInt16}
    (bounded : stack.length ≤ token) (fits : token + codes.length ≤ equationCapacity) :
    (evaluateFrom verdicts token stack codes).map (fun _ => ()) =
      checkFrom token stack.length codes := by
  induction codes generalizing token stack with
  | nil => rfl
  | cons code rest ih =>
    simp only [List.length_cons] at fits
    have step : (advance verdicts stack code).map List.length = deepen stack.length code :=
      length_advance (by omega) code
    rw [evaluateFrom_cons, checkFrom_cons, ← step]
    cases hadvance : advance verdicts stack code with
    | none => exact map_conclude token stack code
    | some stack' =>
      have hlength := length_le_of_advance hadvance
      exact ih (by omega) (by omega)

/-- **The check of a whole equation is its evaluation without the outcome.** -/
theorem map_evaluate (verdicts : WatchSlot → Verdict) (codes : List UInt16) :
    (evaluate verdicts codes).map (fun _ => ()) = check codes :=
  map_evaluateFrom (Nat.le_refl 0) (by rw [Nat.zero_add]; exact List.length_take_le _ _)

/-- The place that a check names: how many codes it carried out, and the account of
their operands and connectives. -/
theorem account_checkFrom {token depth : Nat} {codes : List UInt16} {m : Malformed}
    (h : checkFrom token depth codes = .error m) :
    ∃ n ≤ codes.length, m.token = token + n ∧
      m.depth + (codes.take n).countP isConnective = depth + (codes.take n).countP isOperand := by
  induction codes generalizing token depth with
  | nil =>
    obtain rfl := Except.error.inj h
    exact ⟨0, Nat.le_refl 0, rfl, rfl⟩
  | cons code rest ih =>
    rw [checkFrom_cons] at h
    cases hdeepen : deepen depth code with
    | none =>
      rw [hdeepen] at h
      obtain rfl := settle_eq_error h
      exact ⟨0, Nat.zero_le _, rfl, rfl⟩
    | some depth' =>
      rw [hdeepen] at h
      obtain ⟨n, hn, htoken, haccount⟩ := ih h
      have hcode := account_deepen hdeepen
      have hone (p : UInt16 → Bool) : (if p code = true then 1 else 0) = (p code).toNat := by
        cases p code <;> rfl
      refine ⟨n + 1, Nat.succ_le_succ hn, by omega, ?_⟩
      rw [List.take_succ_cons, List.countP_cons, List.countP_cons, hone, hone]
      omega

/-! ## The moments of an evaluation -/

/-- The stack of an evaluation once it has carried out some codes, or nothing where it
ends among them. -/
def stackAfter (verdicts : WatchSlot → Verdict) (stack : List Verdict) :
    List UInt16 → Option (List Verdict)
  | [] => some stack
  | code :: rest => (advance verdicts stack code).bind fun stack' => stackAfter verdicts stack' rest

theorem stackAfter_append (stack : List Verdict) (first second : List UInt16) :
    stackAfter verdicts stack (first ++ second) =
      (stackAfter verdicts stack first).bind fun stack' => stackAfter verdicts stack' second := by
  induction first generalizing stack with
  | nil => rfl
  | cons code rest ih =>
    simp only [List.cons_append, stackAfter, ih, Option.bind_assoc]

/-- **An evaluation goes on from the stack that the codes before leave.** -/
theorem evaluateFrom_append {stack stack' : List Verdict} {first : List UInt16}
    (h : stackAfter verdicts stack first = some stack') (token : Nat) (second : List UInt16) :
    evaluateFrom verdicts token stack (first ++ second) =
      evaluateFrom verdicts (token + first.length) stack' second := by
  induction first generalizing token stack with
  | nil =>
    obtain rfl := Option.some.inj h
    rfl
  | cons code rest ih =>
    obtain ⟨next, hadvance, hrest⟩ := Option.bind_eq_some_iff.mp h
    rw [List.cons_append, evaluateFrom_cons, hadvance, List.length_cons]
    simp only [ih hrest]
    congr 1
    omega

/-- **The stack is never longer than the codes carried out are many.** -/
theorem length_le_of_stackAfter {stack stack' : List Verdict} {codes : List UInt16}
    (h : stackAfter verdicts stack codes = some stack') :
    stack'.length ≤ stack.length + codes.length := by
  induction codes generalizing stack with
  | nil =>
    obtain rfl := Option.some.inj h
    simp
  | cons code rest ih =>
    obtain ⟨next, hadvance, hrest⟩ := Option.bind_eq_some_iff.mp h
    have hone := length_le_of_advance hadvance
    have hmore := ih hrest
    rw [List.length_cons]
    omega

/-- **An evaluation fails exactly where the check does.** Whatever the verdicts are, the
evaluation of an equation fails with a place if and only if the check names that place,
so the place does not depend on the verdicts. Its position lies in the equation and in
its buffer, and its depth is the number of operands less the number of connectives among
the codes before it. And at every moment of an evaluation with a code still to come, a
push finds room on the stack. -/
theorem evaluate_fails_as_check (verdicts : WatchSlot → Verdict) (codes : List UInt16) :
    (∀ m, evaluate verdicts codes = .error m ↔ check codes = .error m) ∧
    (∀ m, check codes = .error m →
      m.token ≤ min codes.length equationCapacity ∧
      m.depth + (codes.take m.token).countP isConnective =
        (codes.take m.token).countP isOperand) ∧
    ∀ (before : List UInt16) (code : UInt16) (rest : List UInt16) (stack : List Verdict),
      codes.take equationCapacity = before ++ code :: rest →
      stackAfter verdicts [] before = some stack →
        evaluate verdicts codes = evaluateFrom verdicts before.length stack (code :: rest) ∧
        ∀ verdict, push? stack verdict = some (verdict :: stack) := by
  refine ⟨fun m => ?_, fun m h => ?_, fun before code rest stack hcodes hstack => ⟨?_, ?_⟩⟩
  · rw [← map_evaluate verdicts codes]
    cases evaluate verdicts codes <;> simp [Except.map]
  · obtain ⟨n, hn, htoken, haccount⟩ := account_checkFrom h
    obtain rfl : m.token = n := by omega
    rw [List.length_take, Nat.min_comm] at hn
    have hbuffer : m.token ≤ equationCapacity := Nat.le_trans hn (Nat.min_le_right _ _)
    rw [List.take_take, Nat.min_eq_left hbuffer, Nat.zero_add] at haccount
    exact ⟨hn, haccount⟩
  · rw [evaluate, hcodes, evaluateFrom_append hstack, Nat.zero_add]
  · -- the codes up to this one fill at most the buffer, so the stack before it has room
    have hlength := length_le_of_stackAfter hstack
    have hbuffer := congrArg List.length hcodes
    simp only [List.length_take, List.length_append, List.length_cons] at hbuffer
    exact push?_of_lt (by simp only [List.length_nil] at hlength; omega)

end Equation

end LimitMonitor
