import LimitMonitor.Capacity
import LimitMonitor.Verdict

/-!
# Tokens of an equation

An equation is a list of 16-bit codes in postfix order. A code names a
watchpoint, a connective, the negation, or the end of the equation; every other
code is no token.
-/

namespace LimitMonitor

/-- The connectives that join two verdicts. -/
inductive Connective where
  | and
  | or
  | xor
deriving DecidableEq

namespace Connective

/-- The verdict of a connective, the earlier operand first. -/
def apply (c : Connective) (a b : Verdict) : Verdict :=
  match c with
  | and => a.and b
  | or => a.or b
  | xor => a.xor b

end Connective

/-- One token of an equation. -/
inductive Token where
  /-- Push the verdict of a watchpoint. -/
  | operand (slot : WatchSlot)
  /-- Join the top two verdicts. -/
  | connective (c : Connective)
  /-- Negate the top verdict. -/
  | not
  /-- Take the one verdict that is left as the result. -/
  | equal
deriving DecidableEq

namespace Token

/-- The code of a token. -/
def code : Token → UInt16
  | operand slot => slotNumber slot
  | connective .and => 0xFFF1
  | connective .or => 0xFFF2
  | connective .xor => 0xFFF3
  | not => 0xFFF4
  | equal => 0xFFF5

/-- The token with a code, if there is one. -/
def ofCode? (code : UInt16) : Option Token :=
  match code with
  | 0xFFF1 => some (connective .and)
  | 0xFFF2 => some (connective .or)
  | 0xFFF3 => some (connective .xor)
  | 0xFFF4 => some not
  | 0xFFF5 => some equal
  | number => (WatchSlot.ofNumber? number).map operand

end Token

end LimitMonitor
