import ChatDispatch.Binary64

/-!
# Shortest decimals

A positive finite number is written with the fewest digits that read back as the
same number, and among those by the decimal nearest to it.

The decimals that read back fill an interval around the number, which reaches half
way to its two neighbours and includes its ends when the significand is even.  The
grids of multiples of a power of ten are tried from coarse to fine; only the two
grid points around the number have to be looked at.
-/

namespace ChatDispatch.Binary64

/-- The interval of reals that round to a number, in quarters of its last place: the
number lies at `centre`, and every quarter is `scale / divisor`. -/
structure Neighbourhood where
  low : Nat
  centre : Nat
  high : Nat
  closed : Bool
  scale : Nat
  divisor : Nat

/-- Below a power of two the next number is only half as far away. -/
def neighbourhood (number : Binary64) : Neighbourhood :=
  let significand := number.significand
  let narrow := number.fraction == 0 && 1 < number.exponentField
  let power := number.exponent - 2
  { low := if narrow then 4 * significand - 1 else 4 * significand - 2
    centre := 4 * significand
    high := 4 * significand + 2
    closed := significand % 2 == 0
    scale := if 0 ≤ power then Nat.pow 2 power.toNat else 1
    divisor := if 0 ≤ power then 1 else Nat.pow 2 (-power).toNat }

/-- A multiple of `10 ^ power` in the neighbourhood, the one nearest to the centre. -/
def Neighbourhood.onGrid? (around : Neighbourhood) (power : Int) : Option Nat :=
  let step := if 0 ≤ power then Nat.pow 10 power.toNat * around.divisor else around.divisor
  let quarter := if 0 ≤ power then around.scale else around.scale * Nat.pow 10 (-power).toNat
  let within (count : Nat) : Bool :=
    if around.closed then
      around.low * quarter ≤ count * step && count * step ≤ around.high * quarter
    else
      around.low * quarter < count * step && count * step < around.high * quarter
  let below := around.centre * quarter / step
  match within below && 0 < below, within (below + 1) with
  | true, true =>
      let left := around.centre * quarter - below * step
      let right := (below + 1) * step - around.centre * quarter
      if left < right || (left == right && below % 2 == 0) then some below else some (below + 1)
  | true, false => some below
  | false, true => some (below + 1)
  | false, false => none

/-- The first grid with a point in the neighbourhood, going down from `power`. -/
def Neighbourhood.search (around : Neighbourhood) : Nat → Int → Nat × Int
  | 0, power => (around.centre, power)
  | fuel + 1, power =>
      match around.onGrid? power with
      | some count => (count, power)
      | none => around.search fuel (power - 1)

/-- The digits of the shortest decimal and the power of ten of the last one.  The
search starts above the number and ends within the next twenty-five grids, since
seventeen digits always suffice. -/
def shortest (number : Binary64) : Nat × Int :=
  let magnitude : Int := number.significand.log2 + number.exponent + 1
  number.neighbourhood.search 25 (magnitude * 30103 / 100000 + 1)

end ChatDispatch.Binary64
