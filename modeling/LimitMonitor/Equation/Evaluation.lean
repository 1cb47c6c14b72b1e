import LimitMonitor.Equation.Token

/-!
# Checking and evaluating equations

An equation lives in a buffer of twenty codes. `check` follows the depth of the
evaluation stack without evaluating anything: the codes up to the first end
token have to be tokens, no operator may lack an operand, and at the end
exactly one verdict has to be left. Codes after the end token and past the
buffer are not looked at. `evaluate` runs an equation on a stack of verdicts. It
trusts no earlier check: whatever the codes are, it ends with an outcome or with
the place at which the equation goes wrong.
-/

namespace LimitMonitor

/-! ## The check -/

/-- The buffer of an equation. -/
abbrev Equation := Vector UInt16 equationCapacity

/-- Where an equation goes wrong: the position of the code at fault, or the
number of codes if the end token is missing, and the depth of the stack there. -/
structure Malformed where
  token : Nat
  depth : Nat
deriving DecidableEq

namespace Malformed

/-- The wording of a malformed equation. -/
def text (m : Malformed) : String :=
  s!"Illegal RPN expression at token {m.token}, stack depth {m.depth}"

end Malformed

namespace Equation

/-- The codes of an equation in a buffer: padded with zeros, cut at its end. -/
def ofCodes (codes : List UInt16) : Equation :=
  Vector.ofFn fun i => (codes[i.val]?).getD 0

/-- Follow the depth of the stack through codes whose first has position `token`. -/
def checkFrom (token depth : Nat) : List UInt16 → Except Malformed Unit
  | [] => .error ⟨token, depth⟩
  | code :: rest =>
    match Token.ofCode? code with
    | none => .error ⟨token, depth⟩
    | some (.operand _) => checkFrom (token + 1) (depth + 1) rest
    | some (.connective _) =>
      if depth < 2 then .error ⟨token, depth⟩ else checkFrom (token + 1) (depth - 1) rest
    | some .not =>
      if depth < 1 then .error ⟨token, depth⟩ else checkFrom (token + 1) depth rest
    | some .equal => if depth = 1 then .ok () else .error ⟨token, depth⟩

/-- An equation is well formed, or where it goes wrong. -/
def check (codes : List UInt16) : Except Malformed Unit :=
  checkFrom 0 0 (codes.take equationCapacity)

end Equation

/-! ## The evaluation -/

namespace Equation

/-- Push a verdict on a stack that holds as many as the buffer has codes. -/
def push? (stack : List Verdict) (verdict : Verdict) : Option (List Verdict) :=
  if stack.length < equationCapacity then some (verdict :: stack) else none

/-- Run codes, the first of which has position `token`, on a stack with its top first. -/
def evaluateFrom (verdicts : WatchSlot → Verdict) (token : Nat) (stack : List Verdict) :
    List UInt16 → Except Malformed Outcome
  | [] => .error ⟨token, stack.length⟩
  | code :: rest =>
    match Token.ofCode? code with
    | none => .error ⟨token, stack.length⟩
    | some (.operand slot) =>
      match push? stack (verdicts slot) with
      | none => .error ⟨token, stack.length⟩
      | some pushed => evaluateFrom verdicts (token + 1) pushed rest
    | some (.connective c) =>
      match stack with
      | b :: a :: below => evaluateFrom verdicts (token + 1) (c.apply a b :: below) rest
      | _ => .error ⟨token, stack.length⟩
    | some .not =>
      match stack with
      | a :: below => evaluateFrom verdicts (token + 1) (a.not :: below) rest
      | [] => .error ⟨token, stack.length⟩
    | some .equal =>
      match stack with
      | [last] => .ok (Outcome.ofVerdict last)
      | _ => .error ⟨token, stack.length⟩

/-- The outcome of an equation over the given verdicts, or where it goes wrong. -/
def evaluate (verdicts : WatchSlot → Verdict) (codes : List UInt16) : Except Malformed Outcome :=
  evaluateFrom verdicts 0 [] (codes.take equationCapacity)

end Equation

end LimitMonitor
