/-!
# Four-valued verdicts and outcomes

The outcome of a watchpoint is `no`, `yes`, `error` or `stale`, and an
equation combines such outcomes without collapsing them to two values. In a
conjunction `no` dominates, then `error`, then `stale`; a disjunction is the
same with `yes` in the place of `no`; an exclusive disjunction is definite only
where both sides are. The outcome of an actionpoint is the final verdict of its
equation in other words: an equation describes what is wrong, so `yes` is a
failure.
-/

namespace LimitMonitor

/-- The outcome of one watchpoint, and the values that equations combine. -/
inductive Verdict where
  /-- The relation did not hold. -/
  | no
  /-- The relation held. -/
  | yes
  /-- The field could not be judged. -/
  | error
  /-- No judgement within the age that the watchpoint allows. -/
  | stale
deriving DecidableEq

namespace Verdict

/-- The verdict of a two-valued test. -/
def ofBool (b : Bool) : Verdict := if b then yes else no

/-- The two bits that stand for the verdict in a packed view. -/
def code : Verdict → UInt8
  | no => 0
  | yes => 1
  | error => 2
  | stale => 3

/-- Conjunction: `no` dominates, then `error`, then `stale`. -/
def and (a b : Verdict) : Verdict :=
  match a, b with
  | no, _ => no
  | _, no => no
  | error, _ => error
  | _, error => error
  | stale, _ => stale
  | _, stale => stale
  | yes, yes => yes

/-- Disjunction: `yes` dominates, then `error`, then `stale`. -/
def or (a b : Verdict) : Verdict :=
  match a, b with
  | yes, _ => yes
  | _, yes => yes
  | error, _ => error
  | _, error => error
  | stale, _ => stale
  | _, stale => stale
  | no, no => no

/-- Exclusive disjunction: `error` dominates, then `stale`. -/
def xor (a b : Verdict) : Verdict :=
  match a, b with
  | error, _ => error
  | _, error => error
  | stale, _ => stale
  | _, stale => stale
  | yes, no => yes
  | no, yes => yes
  | yes, yes => no
  | no, no => no

/-- Negation: `error` and `stale` pass through. -/
def not : Verdict → Verdict
  | no => yes
  | yes => no
  | error => error
  | stale => stale

end Verdict

/-- The outcome of one actionpoint. -/
inductive Outcome where
  /-- The equation came out false. -/
  | pass
  /-- The equation came out true. -/
  | fail
  /-- The equation could not be judged. -/
  | error
  /-- The equation depends on stale verdicts. -/
  | stale
deriving DecidableEq

namespace Outcome

/-- The outcome that a final verdict means. -/
def ofVerdict : Verdict → Outcome
  | .no => pass
  | .yes => fail
  | .error => error
  | .stale => stale

/-- The two bits that stand for the outcome in a packed view. -/
def code : Outcome → UInt8
  | pass => 0
  | fail => 1
  | error => 2
  | stale => 3

end Outcome

end LimitMonitor
