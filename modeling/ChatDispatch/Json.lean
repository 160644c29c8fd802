import ChatDispatch.Table
import ChatDispatch.Text.Digit
import ChatDispatch.Value

/-!
# Reading JSON

A strict reader of JSON texts.  Every reader takes the characters that are left and
gives what it read together with the characters after it, or nothing.  Values nest
to a bounded depth, on which the reader recurses; the members of an array or object
are read by `series`, which does not look into them.
-/

namespace ChatDispatch.Json

/-- The limits of the reader: how deep values nest, and how many digits an integer has. -/
structure Limits where
  depth : Nat
  digits : Nat

/-- An integer has at most 4300 digits, its leading zeros included. -/
def limits : Limits :=
  { depth := 990, digits := 4300 }

/-- The white space allowed between the tokens of a JSON text. -/
def isSpace (character : Char) : Bool :=
  character == ' ' || character == '\t' || character == '\n' || character == '\r'

def skipSpace (input : List Char) : List Char :=
  input.dropWhile isSpace

def hexDigit? (character : Char) : Option Nat :=
  let point := character.toNat
  if 48 ≤ point && point ≤ 57 then
    some (point - 48)
  else if 65 ≤ point && point ≤ 70 then
    some (point - 55)
  else if 97 ≤ point && point ≤ 102 then
    some (point - 87)
  else
    none

def hexFour : List Char → Option (Nat × List Char)
  | a :: b :: c :: d :: rest => do
      let a ← hexDigit? a
      let b ← hexDigit? b
      let c ← hexDigit? c
      let d ← hexDigit? d
      return (((a * 16 + b) * 16 + c) * 16 + d, rest)
  | _ => none

/-- The first halves of the pairs that stand for characters above the basic plane. -/
def isHighHalf (unit : Nat) : Bool :=
  0xD800 ≤ unit && unit ≤ 0xDBFF

def isLowHalf (unit : Nat) : Bool :=
  0xDC00 ≤ unit && unit ≤ 0xDFFF

/-- The character of a code unit, with the replacement character for a lone half. -/
def unitChar (unit : Nat) : Char :=
  if isHighHalf unit || isLowHalf unit then Char.ofNat 0xFFFD else Char.ofNat unit

def pairChar (high low : Nat) : Char :=
  Char.ofNat (0x10000 + (high - 0xD800) * 0x400 + (low - 0xDC00))

/-- A numeric escape, after its `\u`; a first half takes the second one with it. -/
def unicodeEscape (input : List Char) : Option (Char × List Char) := do
  let (unit, rest) ← hexFour input
  if isHighHalf unit then
    match rest with
    | '\\' :: 'u' :: following =>
        let (second, rest') ← hexFour following
        if isLowHalf second then
          return (pairChar unit second, rest')
        else
          return (unitChar unit, rest)
    | _ => return (unitChar unit, rest)
  else
    return (unitChar unit, rest)

def shortEscape? : Char → Option Char
  | '"' => some '"'
  | '\\' => some '\\'
  | '/' => some '/'
  | 'b' => some (Char.ofNat 8)
  | 'f' => some (Char.ofNat 12)
  | 'n' => some '\n'
  | 'r' => some '\r'
  | 't' => some '\t'
  | _ => none

/-- One character of a string, which is not its closing quote: an escape, or any
character but a control character. -/
def stringChar : List Char → Option (Char × List Char)
  | '\\' :: 'u' :: rest => unicodeEscape rest
  | '\\' :: letter :: rest => (shortEscape? letter).map (·, rest)
  | '\\' :: [] => none
  | character :: rest => if character.toNat < 32 then none else some (character, rest)
  | [] => none

/-- The rest of a string after its opening quote; the fuel bounds its length. -/
def stringTail : Nat → List Char → Option (List Char × List Char)
  | 0, _ => none
  | _ + 1, '"' :: rest => some ([], rest)
  | fuel + 1, input => do
      let (character, rest) ← stringChar input
      let (characters, rest) ← stringTail fuel rest
      return (character :: characters, rest)

def string (input : List Char) : Option (String × List Char) :=
  (stringTail (input.length + 1) input).map fun (characters, rest) =>
    (String.ofList characters, rest)

/-- The digits at the beginning of the input, and what follows them. -/
def digits (input : List Char) : List Char × List Char :=
  (input.takeWhile Text.isAsciiDigit, input.dropWhile Text.isAsciiDigit)

/-- The fraction of a number, empty when no digit follows the point. -/
def fraction : List Char → List Char × List Char
  | '.' :: rest =>
      match digits rest with
      | ([], _) => ([], '.' :: rest)
      | (decimals, rest) => (decimals, rest)
  | input => ([], input)

/-- The exponent of a number, if the letter is followed by one. -/
def exponent? : List Char → Option (Int × List Char)
  | letter :: rest =>
      if letter == 'e' || letter == 'E' then
        let (negative, unsigned) :=
          match rest with
          | '-' :: rest => (true, rest)
          | '+' :: rest => (false, rest)
          | rest => (false, rest)
        match digits unsigned with
        | ([], _) => none
        | (power, rest) =>
            let size : Int := Text.digitsValue 0 power
            some (if negative then -size else size, rest)
      else
        none
  | [] => none

/-- The digits before the point: a single zero, or digits that do not start with one. -/
def wholePart : List Char → Option (List Char × List Char)
  | '0' :: rest => some (['0'], rest)
  | input =>
      match digits input with
      | ([], _) => none
      | (whole, rest) => some (whole, rest)

def unsignedNumber (bounds : Limits) (negative : Bool) (input : List Char) :
    Option (Value × List Char) := do
  let (whole, rest) ← wholePart input
  let (decimals, rest) := fraction rest
  let (power, afterPower) :=
    match exponent? rest with
    | some (power, rest) => (some power, rest)
    | none => (none, rest)
  if decimals.isEmpty && power.isNone then
    if bounds.digits < whole.length then
      none
    else
      let size : Int := Text.digitsValue 0 whole
      return (.int (if negative then -size else size), afterPower)
  else
    let significant := Text.digitsValue (Text.digitsValue 0 whole) decimals
    let number := Binary64.ofDecimal negative significant (power.getD 0 - decimals.length)
    return (.float number, afterPower)

/-- A number: an integer when it has neither fraction nor exponent. -/
def number (bounds : Limits) : List Char → Option (Value × List Char)
  | '-' :: rest => unsignedNumber bounds true rest
  | input => unsignedNumber bounds false input

/-- Members separated by commas up to the closing bracket; the fuel bounds their number. -/
def series {α : Type} (member : List Char → Option (α × List Char)) (close : Char) :
    Nat → List Char → Option (List α × List Char)
  | 0, _ => none
  | fuel + 1, input => do
      let (first, rest) ← member input
      match skipSpace rest with
      | [] => none
      | character :: rest =>
          if character = close then
            return ([first], rest)
          else if character = ',' then
            let (others, rest) ← series member close fuel (skipSpace rest)
            return (first :: others, rest)
          else
            none

/-- A bracketed series, after its opening bracket; it may be empty. -/
def bracketed {α : Type} (member : List Char → Option (α × List Char)) (close : Char)
    (input : List Char) : Option (List α × List Char) :=
  match skipSpace input with
  | [] => none
  | character :: rest =>
      if character = close then
        some ([], rest)
      else
        series member close (input.length + 1) (character :: rest)

/-- A member of an object: a string, a colon and a value. -/
def field (value : List Char → Option (Value × List Char)) :
    List Char → Option ((Key × Value) × List Char)
  | '"' :: input => do
      let (key, rest) ← string input
      match skipSpace rest with
      | ':' :: rest =>
          let (content, rest) ← value (skipSpace rest)
          return ((.text key, content), rest)
      | _ => none
  | _ => none

/-- A value nested at most as deep as the first argument allows. -/
def value (bounds : Limits) : Nat → List Char → Option (Value × List Char)
  | 0, _ => none
  | _ + 1, '"' :: input => (string input).map fun (content, rest) => (.text content, rest)
  | depth + 1, '[' :: input =>
      (bracketed (value bounds depth) ']' input).map fun (items, rest) => (.list items, rest)
  | depth + 1, '\x7b' :: input =>
      (bracketed (field (value bounds depth)) '\x7d' input).map fun (fields, rest) =>
        (.map (Table.ofEntries fields), rest)
  | _ + 1, 'n' :: 'u' :: 'l' :: 'l' :: rest => some (.null, rest)
  | _ + 1, 't' :: 'r' :: 'u' :: 'e' :: rest => some (.bool true, rest)
  | _ + 1, 'f' :: 'a' :: 'l' :: 's' :: 'e' :: rest => some (.bool false, rest)
  | _ + 1, input => number bounds input

/-- The value of a JSON text, with nothing but white space around it. -/
def read? (text : List Char) : Option Value := do
  let (result, rest) ← value limits limits.depth (skipSpace text)
  if (skipSpace rest).isEmpty then return result else none

end ChatDispatch.Json
