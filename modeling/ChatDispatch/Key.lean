import ChatDispatch.Binary64
import ChatDispatch.Callable

/-!
# Keys

The keys of maps.  Keys are the same, besides being identical, when they are the same
number: a truth value, an integer and an integral floating-point number can be.  This is
the equality by which maps find their entries; a text is the same key as itself only.
-/

namespace ChatDispatch

/-- A key of a map. -/
inductive Key where
  | null
  | bool (truth : Bool)
  | int (number : Int)
  | float (number : Binary64)
  | text (content : String)
  | callable (content : Callable)
deriving DecidableEq, Inhabited, Repr

/-- Names are keys. -/
instance : Coe String Key := ⟨Key.text⟩

namespace Key

/-- The representative of a key: a number is an integer where possible. -/
def canonical : Key → Key
  | .null => .null
  | .bool truth => .int (if truth then 1 else 0)
  | .int number => .int number
  | .float number =>
      match number.integer? with
      | some integer => .int integer
      | none => .float number
  | .text content => .text content
  | .callable content => .callable content

/-- Whether two keys are the same. -/
def alike (left right : Key) : Bool :=
  decide (left.canonical = right.canonical)

theorem alike_iff {left right : Key} :
    left.alike right = true ↔ left.canonical = right.canonical := by
  simp [alike]

@[simp]
theorem alike_refl (key : Key) : key.alike key = true := by
  simp [alike]

theorem alike_symm {left right : Key} (agree : left.alike right = true) :
    right.alike left = true := by
  rw [alike_iff] at agree ⊢
  exact agree.symm

theorem alike_trans {left middle right : Key}
    (first : left.alike middle = true) (second : middle.alike right = true) :
    left.alike right = true := by
  rw [alike_iff] at first second ⊢
  exact first.trans second

@[simp]
theorem alike_text (left right : String) :
    (Key.text left).alike (.text right) = (left == right) := by
  by_cases equal : left = right <;> simp [alike, canonical, equal]

theorem eq_text_of_alike {key : Key} {content : String}
    (agree : key.alike (.text content) = true) : key = .text content := by
  rw [alike_iff] at agree
  cases key with
  | null => simp [canonical] at agree
  | bool truth => simp [canonical] at agree
  | int number => simp [canonical] at agree
  | float number =>
      simp only [canonical] at agree
      split at agree <;> simp at agree
  | text own => simpa [canonical] using agree
  | callable content => simp [canonical] at agree

/-- The place of a key in a fixed order: by its sort, its number and its text. -/
def rank : Key → Nat × Int × String
  | .null => (0, 0, "")
  | .bool truth => (1, if truth then 1 else 0, "")
  | .int number => (2, number, "")
  | .float number => (3, number.bits.toNat, "")
  | .text content => (4, 0, content)
  | .callable content => (5, content.number, content.code)

/-- Whether a key does not come after another one in the fixed order. -/
def notAfter (left right : Key) : Bool :=
  let (leftSort, leftNumber, leftText) := left.rank
  let (rightSort, rightNumber, rightText) := right.rank
  if leftSort ≠ rightSort then leftSort < rightSort
  else if leftNumber ≠ rightNumber then leftNumber < rightNumber
  else leftText ≤ rightText

end Key

/-- Tables find their entries by the sameness of keys. -/
instance : BEq Key := ⟨Key.alike⟩

theorem Key.beq_def (left right : Key) : (left == right) = left.alike right := rfl

@[simp]
theorem Key.beq_text (left right : String) :
    (Key.text left == Key.text right) = (left == right) :=
  Key.alike_text left right

instance : EquivBEq Key where
  rfl := Key.alike_refl _
  symm := Key.alike_symm
  trans := Key.alike_trans

end ChatDispatch
