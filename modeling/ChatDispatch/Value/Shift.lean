import ChatDispatch.Value

/-!
# Callables made anew

What is made several times has callables of its own each time.  The numbers of the callables in a
value are shifted to numbers that are not in use.
-/

namespace ChatDispatch

def Callable.shift (offset : Nat) (callable : Callable) : Callable :=
  { callable with number := callable.number + offset }

/-- Shifts the number of a key that is a callable. -/
def Key.shift (offset : Nat) : Key → Key
  | .callable content => .callable (content.shift offset)
  | key => key

namespace Value

mutual

/-- Shifts the numbers of the callables in a value. -/
def shift (offset : Nat) : Value → Value
  | .null => .null
  | .bool truth => .bool truth
  | .int number => .int number
  | .float number => .float number
  | .text content => .text content
  | .list items => .list (shiftItems offset items)
  | .map entries => .map (shiftEntries offset entries)
  | .callable content attributes =>
      .callable (content.shift offset) (shiftEntries offset attributes)
termination_by structural value => value

/-- Shifts the numbers of the callables in the items of a list. -/
def shiftItems (offset : Nat) : List Value → List Value
  | [] => []
  | item :: items => shift offset item :: shiftItems offset items
termination_by structural items => items

/-- Shifts the numbers of the callables in the entries of a map. -/
def shiftEntries (offset : Nat) : Entries → Entries
  | [] => []
  | (key, value) :: entries => (key.shift offset, shift offset value) :: shiftEntries offset entries
termination_by structural entries => entries

end

end Value

end ChatDispatch
