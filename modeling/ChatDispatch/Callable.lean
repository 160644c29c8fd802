/-!
# Callables

Plugins and callers hand in callables, of which nothing is known but what shows: which ones they
are, how they print, and the code that they run.  What the code does is up to the surroundings.
-/

namespace ChatDispatch

/-- A callable.  Two callables of one code are told apart by their numbers; a suspendable one gives
something that has to be waited for. -/
structure Callable where
  number : Nat
  code : String
  suspendable : Bool
  shown : String
  typeName : String
  visible : shown ≠ ""
deriving DecidableEq, Repr

def Callable.function (number : Nat) (code : String) (suspendable : Bool) : Callable :=
  { number, code, suspendable, shown := "<function>", typeName := "function", visible := by decide }

instance : Inhabited Callable := ⟨.function 0 "" false⟩

end ChatDispatch
