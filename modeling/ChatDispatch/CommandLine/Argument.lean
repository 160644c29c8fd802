import ChatDispatch.Json

/-!
# Typed arguments

A token stands for a truth value, a number, a JSON array or object, or itself.  The
readings are tried in this order.
-/

namespace ChatDispatch.CommandLine

/-- Whether a token has the brackets of a JSON object or array around it. -/
def looksLikeJson (token : List Char) : Bool :=
  (token.head? == some '\x7b' && token.getLast? == some '\x7d') ||
    (token.head? == some '[' && token.getLast? == some ']')

/-- The truth value that a token writes in any case. -/
def truthValue? (token : List Char) : Option Bool :=
  let lowered := token.map Char.toLower
  if lowered = "true".toList then
    some true
  else if lowered = "false".toList then
    some false
  else
    none

/-- The digits of a decimal, before and after its point. -/
structure Decimal where
  negative : Bool
  whole : List Char
  decimals : Option (List Char)
deriving DecidableEq

/-- Digits, of which there is at least one, and nothing else. -/
def allDigits (text : List Char) : Bool :=
  !text.isEmpty && text.all Text.isAsciiDigit

/-- A token as a decimal: an optional minus sign, digits, and optionally a point with
more digits. -/
def decimal? (token : List Char) : Option Decimal :=
  let (negative, unsigned) :=
    match token with
    | '-' :: rest => (true, rest)
    | token => (false, token)
  let whole := unsigned.takeWhile Text.isAsciiDigit
  match unsigned.dropWhile Text.isAsciiDigit with
  | [] => if whole.isEmpty then none else some ⟨negative, whole, none⟩
  | '.' :: decimals =>
      if !whole.isEmpty && allDigits decimals then
        some ⟨negative, whole, some decimals⟩
      else
        none
  | _ => none

/-- A decimal without a point is an integer unless it has too many digits; all others
are rounded to a floating-point number. -/
def Decimal.value (decimal : Decimal) : Value :=
  match decimal.decimals with
  | some decimals =>
      let digits := Text.digitsValue (Text.digitsValue 0 decimal.whole) decimals
      .float (Binary64.ofDecimal decimal.negative digits (-(decimals.length : Int)))
  | none =>
      let digits := Text.digitsValue 0 decimal.whole
      if decimal.whole.length ≤ Json.limits.digits then
        .int (if decimal.negative then -(digits : Int) else digits)
      else
        .float (Binary64.ofDecimal decimal.negative digits 0)

/-- The value of a token; one that looks like JSON without being so is a text. -/
def argument (token : List Char) : Value :=
  match truthValue? token with
  | some truth => .bool truth
  | none =>
      match decimal? token with
      | some decimal => decimal.value
      | none =>
          if looksLikeJson token then
            (Json.read? token).getD (.text (String.ofList token))
          else
            .text (String.ofList token)

end ChatDispatch.CommandLine
