import ChatDispatch.Binary64.Shortest

/-!
# The text of a number

The shortest decimal of a number is laid out positionally when its leading digit
stands between the fourth place after the point and the sixteenth before it, and
in scientific notation otherwise.
-/

namespace ChatDispatch.Binary64

/-- The decisions of a number format. -/
structure Layout where
  lowestPositional : Int
  highestPositional : Int
  exponentWidth : Nat
  infinityText : String
  nanText : String

/-- Positional from `0.0001` to sixteen digits before the point; an exponent has a
sign and at least two digits. -/
def layout : Layout :=
  { lowestPositional := -4
    highestPositional := 15
    exponentWidth := 2
    infinityText := "inf"
    nanText := "nan" }

/-- Digits and exponent in scientific notation, with at least the given width. -/
def Layout.scientific (form : Layout) (digits : List Char) (exponent : Int) : List Char :=
  let mantissa :=
    match digits with
    | [] => []
    | [digit] => [digit]
    | digit :: rest => digit :: '.' :: rest
  let power := Nat.toDigits 10 exponent.natAbs
  mantissa ++ ['e', if exponent < 0 then '-' else '+'] ++
    List.replicate (form.exponentWidth - power.length) '0' ++ power

/-- Digits around a decimal point, with at least one digit on each side of it. -/
def Layout.positional (digits : List Char) (exponent : Int) : List Char :=
  if exponent < 0 then
    '0' :: '.' :: (List.replicate (-exponent - 1).toNat '0' ++ digits)
  else
    let whole := exponent.toNat + 1
    let padded := digits ++ List.replicate (whole - digits.length) '0'
    let decimals := padded.drop whole
    padded.take whole ++ '.' :: (if decimals.isEmpty then ['0'] else decimals)

def Layout.magnitude (form : Layout) (number : Binary64) : List Char :=
  let (count, power) := number.shortest
  let written := Nat.toDigits 10 count
  let digits := (written.reverse.dropWhile (· == '0')).reverse
  let exponent : Int := written.length + power - 1
  if form.lowestPositional ≤ exponent && exponent ≤ form.highestPositional then
    Layout.positional digits exponent
  else
    form.scientific digits exponent

/-- The text of a number, with the sign of a negative zero kept; what is no number has no sign. -/
def text (number : Binary64) : String :=
  let magnitude :=
    if !number.isFinite then
      layout.infinityText.toList
    else if number.isZero then
      ['0', '.', '0']
    else
      layout.magnitude number
  if number.isNaN then layout.nanText
  else String.ofList (if number.isNegative then '-' :: magnitude else magnitude)

end ChatDispatch.Binary64
