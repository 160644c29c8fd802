import ChatDispatch.Fault
import ChatDispatch.Sorting

/-!
# The order of values

Numbers are ordered by size, whatever their kind, texts by their characters, and lists by
the first items that are not alike.  What is no number is before and behind none.  All other
values have no order, not even with themselves.
-/

namespace ChatDispatch

/-- The size of a floating-point number in units of the smallest one, behind a first
component that puts the infinities below and above all others. -/
def Binary64.measure (number : Binary64) : Int × Int :=
  let sign : Int := if number.isNegative then -1 else 1
  if number.isFinite then
    (0, sign * (number.significand * Nat.pow 2 (number.exponent + 1074).toNat))
  else
    (sign, 0)

namespace Value

def measure? : Value → Option (Int × Int)
  | .bool truth => some (0, if truth then Nat.pow 2 1074 else 0)
  | .int number => some (0, number * Nat.pow 2 1074)
  | .float number => some number.measure
  | _ => none

def isBelow (left right : Int × Int) : Bool :=
  left.1 < right.1 || (left.1 == right.1 && left.2 < right.2)

mutual

def before : Value → Value → Except Fault Bool
  | .text left, .text right => .ok (decide (left < right))
  | .list left, .list right => itemsBefore left right
  | left, right =>
      match left.measure?, right.measure? with
      | some leftSize, some rightSize =>
          .ok (!left.isNaN && !right.isNaN && isBelow leftSize rightSize)
      | _, _ => .error (.notOrdered left.kind right.kind)
termination_by structural left => left

/-- Whether one list comes before another; a beginning of a list comes before it. -/
def itemsBefore : List Value → List Value → Except Fault Bool
  | [], [] => .ok false
  | [], _ :: _ => .ok true
  | _ :: _, [] => .ok false
  | left :: lefts, right :: rights =>
      if left.alike right then itemsBefore lefts rights else before left right
termination_by structural left => left

end

def sorted (values : List Value) : Except Fault (List Value) :=
  Sorting.sort before values

/-- Different keys in increasing order; a value that cannot be a key is a fault. -/
def sortedSet (values : List Value) : Except Fault (List Value) :=
  match values.find? fun value => !value.isKey with
  | some value => .error (.notAKey value.kind)
  | none => sorted values.eraseDups

end Value

end ChatDispatch
