import ChatDispatch.Text.Printable

/-!
# Quoted text

A text is shown between quotes with everything unprintable escaped. Apostrophes
delimit it unless it holds an apostrophe and no double quote.
-/

namespace ChatDispatch.Text

/-- The lower-case hexadecimal digits of a number, padded with zeros to a width. -/
def hexadecimal (width : Nat) (number : Nat) : List Char :=
  let digits := Nat.toDigits 16 number
  List.replicate (width - digits.length) '0' ++ digits

/-- The escaped form of an unprintable character, as short as its code point allows. -/
def escapeUnprintable (character : Char) : List Char :=
  let point := character.toNat
  if point < 256 then
    '\\' :: 'x' :: hexadecimal 2 point
  else if point < 65536 then
    '\\' :: 'u' :: hexadecimal 4 point
  else
    '\\' :: 'U' :: hexadecimal 8 point

/-- A character as it stands between the given quotes. -/
def quoteChar (quote character : Char) : List Char :=
  if character = quote || character = '\\' then
    ['\\', character]
  else if character = '\n' then
    ['\\', 'n']
  else if character = '\t' then
    ['\\', 't']
  else if character = '\r' then
    ['\\', 'r']
  else if isPrintable character then
    [character]
  else
    escapeUnprintable character

/-- The delimiter of a text: a double quote only where it saves an escape. -/
def chooseQuote (text : List Char) : Char :=
  if text.contains '\'' && !text.contains '"' then '"' else '\''

/-- A text between quotes, with its unprintable characters escaped. -/
def quoted (text : String) : String :=
  let quote := chooseQuote text.toList
  String.ofList (quote :: (text.toList.flatMap (quoteChar quote) ++ [quote]))

end ChatDispatch.Text
