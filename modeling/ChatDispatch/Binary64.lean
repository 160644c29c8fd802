/-!
# Binary64 numbers

A floating-point number is kept as its 64 bits.  A finite one is, up to its sign,
`significand * 2 ^ exponent`; `ofRatio` rounds a quotient of naturals to the
nearest such number and `ofDecimal` reads a decimal the same way.
-/

namespace ChatDispatch

/-- A floating-point number of the binary64 format. -/
structure Binary64 where
  bits : UInt64
deriving DecidableEq, Inhabited, Repr

namespace Binary64

def isNegative (number : Binary64) : Bool :=
  Nat.pow 2 63 ≤ number.bits.toNat

def exponentField (number : Binary64) : Nat :=
  number.bits.toNat / Nat.pow 2 52 % 2048

/-- The bits of the significand below the implicit one. -/
def fraction (number : Binary64) : Nat :=
  number.bits.toNat % Nat.pow 2 52

/-- Only the largest biased exponent stands for infinities and for what is no number. -/
def isFinite (number : Binary64) : Bool :=
  number.exponentField != 2047

def isNaN (number : Binary64) : Bool :=
  !number.isFinite && number.fraction != 0

def significand (number : Binary64) : Nat :=
  if number.exponentField = 0 then number.fraction else Nat.pow 2 52 + number.fraction

/-- The power of two by which the significand is scaled. -/
def exponent (number : Binary64) : Int :=
  if number.exponentField = 0 then -1074 else (number.exponentField : Int) - 1075

def isZero (number : Binary64) : Bool :=
  number.exponentField == 0 && number.fraction == 0

/-- Packs a sign, a biased exponent and a fraction. -/
def pack (negative : Bool) (field fraction : Nat) : Binary64 :=
  ⟨UInt64.ofNat ((if negative then Nat.pow 2 63 else 0) + field * Nat.pow 2 52 + fraction)⟩

def infinity (negative : Bool) : Binary64 :=
  pack negative 2047 0

def zero (negative : Bool) : Binary64 :=
  pack negative 0 0

/-- The integer that a number is equal to, if there is one. -/
def integer? (number : Binary64) : Option Int :=
  if !number.isFinite then
    none
  else
    let signed (magnitude : Nat) : Int :=
      if number.isNegative then -(magnitude : Int) else magnitude
    if 0 ≤ number.exponent then
      some (signed (number.significand * Nat.pow 2 number.exponent.toNat))
    else
      let divisor := Nat.pow 2 (-number.exponent).toNat
      if number.significand % divisor = 0 then
        some (signed (number.significand / divisor))
      else
        none

/-- The natural number nearest to a quotient; a tie goes to the even neighbour. -/
def roundQuotient (numerator denominator : Nat) : Nat :=
  let quotient := numerator / denominator
  let remainder := numerator % denominator
  if 2 * remainder < denominator then
    quotient
  else if denominator < 2 * remainder then
    quotient + 1
  else if quotient % 2 = 0 then
    quotient
  else
    quotient + 1

/-- A quotient divided by a power of two, as numerator and denominator. -/
def descale (numerator denominator : Nat) (power : Int) : Nat × Nat :=
  if 0 ≤ power then
    (numerator, denominator * Nat.pow 2 power.toNat)
  else
    (numerator * Nat.pow 2 (-power).toNat, denominator)

/-- The number `significand * 2 ^ power`, where the significand has at most 53 bits
or is `2 ^ 53`, and less than 53 only at the lowest power. -/
def assemble (negative : Bool) (significand : Nat) (power : Int) : Binary64 :=
  let carried := Nat.pow 2 53 ≤ significand
  let significand := if carried then significand / 2 else significand
  let power := if carried then power + 1 else power
  if significand < Nat.pow 2 52 then
    pack negative 0 significand
  else if 972 ≤ power then
    infinity negative
  else
    pack negative (power + 1075).toNat (significand - Nat.pow 2 52)

/-- The number nearest to a quotient of naturals with a positive denominator; a tie
goes to the even significand, and what is out of range becomes an infinity. -/
def ofRatio (negative : Bool) (numerator denominator : Nat) : Binary64 :=
  if numerator = 0 then
    zero negative
  else
    let guess : Int := (numerator.log2 : Int) - denominator.log2 - 52
    let scaled := descale numerator denominator guess
    let power := if scaled.1 < Nat.pow 2 52 * scaled.2 then guess - 1 else guess
    let power := max power (-1074)
    let scaled := descale numerator denominator power
    assemble negative (roundQuotient scaled.1 scaled.2) power

/-- The number nearest to `digits * 10 ^ power`.  From `10 ^ 310` on a magnitude is
infinite and below `10 ^ (-330)` it is zero, which the binary length of the digits shows
in time: with `2 ^ k ≤ digits < 2 ^ (k + 1)`, the digits are at least `10 ^ (3 * k / 10)`
and less than `10 ^ (k / 3 + 1)`. -/
def ofDecimal (negative : Bool) (digits : Nat) (power : Int) : Binary64 :=
  if digits = 0 then
    zero negative
  else if 310 ≤ (3 * digits.log2 / 10 : Nat) + power then
    infinity negative
  else if (digits.log2 / 3 + 1 : Nat) + power ≤ -330 then
    zero negative
  else if 0 ≤ power then
    ofRatio negative (digits * Nat.pow 10 power.toNat) 1
  else
    ofRatio negative digits (Nat.pow 10 (-power).toNat)

end Binary64

end ChatDispatch
