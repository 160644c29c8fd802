import ChatDispatch.Text.Ranges

/-!
# Blank characters

The characters that separate the words of a command line and that are trimmed
from both ends of a text: the white space of Unicode together with the four
information separators of ASCII.
-/

namespace ChatDispatch.Text

/-- The blank characters as ranges of code points. -/
def blankRanges : List (Nat × Nat) :=
  [(9, 13), (28, 32), (133, 133), (160, 160), (5760, 5760), (8192, 8202), (8232, 8233),
   (8239, 8239), (8287, 8287), (12288, 12288)]

/-- A character is blank when its code point is listed in `blankRanges`. -/
def isBlank (character : Char) : Bool :=
  inRanges blankRanges character.toNat

/-- A text with the blank characters of both its ends removed. -/
def trim (text : List Char) : List Char :=
  ((text.dropWhile isBlank).reverse.dropWhile isBlank).reverse

/-- Whether a text has no visible character at all. -/
def isAllBlank (text : List Char) : Bool :=
  text.all isBlank

end ChatDispatch.Text
