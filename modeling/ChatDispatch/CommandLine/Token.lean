import ChatDispatch.Text.Blank

/-!
# Tokens of a command line

A line is scanned from left to right.  Blanks separate tokens unless they are quoted
or escaped; either quote opens a run that only the same quote closes; a backslash
takes the next character as it is, inside and outside of quotes.  Whatever is open at
the end of the line is closed there.
-/

namespace ChatDispatch.CommandLine

/-- The two characters that open and close a quoted run. -/
def isQuote (character : Char) : Bool :=
  character == '"' || character == '\''

/-- What a scanner remembers between two characters: the finished tokens, the last one
first, the token being read with its last character first, the quote that is open and
whether a backslash is pending. -/
structure Scanner where
  tokens : List (List Char)
  current : List Char
  openQuote : Option Char
  escaped : Bool
deriving DecidableEq, Repr

namespace Scanner

def start : Scanner :=
  { tokens := [], current := [], openQuote := none, escaped := false }

/-- Finishes the token being read; an empty one is dropped. -/
def finished (scanner : Scanner) : List (List Char) :=
  if scanner.current.isEmpty then
    scanner.tokens
  else
    scanner.current.reverse :: scanner.tokens

/-- Adds a character to the token being read. -/
def take (scanner : Scanner) (character : Char) : Scanner :=
  { scanner with current := character :: scanner.current, escaped := false }

def step (scanner : Scanner) (character : Char) : Scanner :=
  if scanner.escaped then
    scanner.take character
  else if character = '\\' then
    { scanner with escaped := true }
  else
    match scanner.openQuote with
    | some quote =>
        if character = quote then
          { scanner with openQuote := none }
        else
          scanner.take character
    | none =>
        if isQuote character then
          { scanner with openQuote := some character }
        else if Text.isBlank character then
          { scanner with tokens := scanner.finished, current := [] }
        else
          scanner.take character

def run (scanner : Scanner) (text : List Char) : Scanner :=
  text.foldl step scanner

/-- Neither inside quotes nor after a pending backslash. -/
def IsClosed (scanner : Scanner) : Prop :=
  scanner.openQuote = none ∧ scanner.escaped = false

end Scanner

def tokens (text : List Char) : List (List Char) :=
  (Scanner.start.run text).finished.reverse

def tokenize (text : String) : List String :=
  (tokens text.toList).map String.ofList

end ChatDispatch.CommandLine
