import LimitMonitor.Field.Scalar
import LimitMonitor.Verdict

/-!
# Relations between a field and its reference

Integers are related at their declared width. Floating-point numbers follow two
more rules: a field that is not a number is a fault whatever the relation, and
equality allows a small difference, while the order relations do not. The
relation `custom` is answered elsewhere and is a fault here.
-/

namespace LimitMonitor

/-- What a watchpoint asks of its field and its reference. -/
inductive Relation where
  | le
  | lt
  | eq
  | ne
  | ge
  | gt
  /-- The question goes to the mission's own predicate. -/
  | custom
deriving DecidableEq

namespace Relation

/-- The code of a relation in a definition. -/
def code : Relation → UInt8
  | le => 1
  | lt => 2
  | eq => 3
  | ne => 4
  | ge => 5
  | gt => 6
  | custom => 7

/-- The code that the definition of an empty slot carries; it names no relation. -/
def absentCode : UInt8 := 255

/-- The relation with a code, if there is one. -/
def ofCode? (code : UInt8) : Option Relation :=
  match code with
  | 1 => some le
  | 2 => some lt
  | 3 => some eq
  | 4 => some ne
  | 5 => some ge
  | 6 => some gt
  | 7 => some custom
  | _ => none

/-- The relation with a code; any other code is a fault. -/
def ofCode (code : UInt8) : Except Field.Fault Relation :=
  match ofCode? code with
  | some relation => .ok relation
  | none => .error (.undefinedRelation code)

theorem ofCode?_code (r : Relation) : ofCode? r.code = some r := by
  cases r <;> rfl

/-! ## Testing -/

/-- A relation tested in an ordered type. -/
def test {α : Type} [LE α] [LT α] [DecidableLE α] [DecidableLT α] [BEq α] (r : Relation)
    (a b : α) : Except Field.Fault Bool :=
  match r with
  | le => .ok (a ≤ b)
  | lt => .ok (a < b)
  | eq => .ok (a == b)
  | ne => .ok (a != b)
  | ge => .ok (b ≤ a)
  | gt => .ok (b < a)
  | custom => .error (.undefinedRelation custom.code)

/-- A relation tested on floating-point numbers. -/
def testSingle (r : Relation) (a b : Single) : Except Field.Fault Bool :=
  if a.isNaN then .error (.notANumber a.bits)
  else
    match r with
    | eq => .ok (a.distance b ≤ Single.tolerance.value)
    | ne => .ok (Single.tolerance.value < a.distance b)
    | other => other.test a.value b.value

/-- The verdict of a relation between a value and a reference. Values of two
different kinds are never related: the verdict is `error`. -/
def judge (r : Relation) (value reference : Scalar) : Except Field.Fault Verdict :=
  match value, reference with
  | .uint8 a, .uint8 b => (r.test a b).map Verdict.ofBool
  | .int8 a, .int8 b => (r.test a b).map Verdict.ofBool
  | .uint16 a, .uint16 b => (r.test a b).map Verdict.ofBool
  | .int16 a, .int16 b => (r.test a b).map Verdict.ofBool
  | .uint32 a, .uint32 b => (r.test a b).map Verdict.ofBool
  | .int32 a, .int32 b => (r.test a b).map Verdict.ofBool
  | .single a, .single b => (r.testSingle a b).map Verdict.ofBool
  | _, _ => .ok .error

end Relation

end LimitMonitor
