import ChatDispatch.Key

/-!
# Values

The dynamic values that commands take and give: arguments, flags, settings and
results.  A callable may have attributes.  Besides identity there is a looser
equality, `alike`, under which a truth value, an integer and an integral
floating-point number are the same number and the order of a map's entries does not
count.

A value that is no collection can be the key of an entry.
-/

namespace ChatDispatch

/-- A dynamic value; the entries of a map are in insertion order. -/
inductive Value where
  | null
  | bool (truth : Bool)
  | int (number : Int)
  | float (number : Binary64)
  | text (content : String)
  | list (items : List Value)
  | map (entries : List (Key × Value))
  | callable (content : Callable) (attributes : List (Key × Value))
deriving Inhabited, Repr

/-- The kinds of values; a callable has a type of its own. -/
inductive Kind where
  | null
  | bool
  | int
  | float
  | text
  | list
  | map
  | callable (typeName : String)
deriving DecidableEq, Repr

namespace Value

mutual

def same : Value → Value → Bool
  | .null, .null => true
  | .bool left, .bool right => left == right
  | .int left, .int right => left == right
  | .float left, .float right => left == right
  | .text left, .text right => left == right
  | .list left, .list right => sameItems left right
  | .map left, .map right => sameEntries left right
  | .callable left leftAttributes, .callable right rightAttributes =>
      left == right && sameEntries leftAttributes rightAttributes
  | _, _ => false
termination_by structural left => left

def sameItems : List Value → List Value → Bool
  | [], [] => true
  | left :: lefts, right :: rights => same left right && sameItems lefts rights
  | _, _ => false
termination_by structural left => left

/-- Structural equality of lists of entries. -/
def sameEntries : List (Key × Value) → List (Key × Value) → Bool
  | [], [] => true
  | (leftKey, left) :: lefts, (rightKey, right) :: rights =>
      decide (leftKey = rightKey) && same left right && sameEntries lefts rights
  | _, _ => false
termination_by structural left => left

end

mutual

theorem same_iff : ∀ left right : Value, same left right = true ↔ left = right
  | .null, right => by cases right <;> simp [same]
  | .bool _, right => by cases right <;> simp [same]
  | .int _, right => by cases right <;> simp [same]
  | .float _, right => by cases right <;> simp [same]
  | .text _, right => by cases right <;> simp [same]
  | .list items, right => by cases right <;> simp [same, sameItems_iff items]
  | .map entries, right => by cases right <;> simp [same, sameEntries_iff entries]
  | .callable _ attributes, right => by
      cases right <;> simp [same, sameEntries_iff attributes]

theorem sameItems_iff :
    ∀ left right : List Value, sameItems left right = true ↔ left = right
  | [], right => by cases right <;> simp [sameItems]
  | item :: items, right => by
      cases right <;> simp [sameItems, same_iff item, sameItems_iff items]

theorem sameEntries_iff :
    ∀ left right : List (Key × Value), sameEntries left right = true ↔ left = right
  | [], right => by cases right <;> simp [sameEntries]
  | (key, value) :: entries, right => by
      cases right with
      | nil => simp [sameEntries]
      | cons entry rest =>
          cases entry
          simp [sameEntries, same_iff value, sameEntries_iff entries]

end

instance : DecidableEq Value := fun left right =>
  decidable_of_iff (same left right = true) (same_iff left right)

def kind : Value → Kind
  | .null => .null
  | .bool _ => .bool
  | .int _ => .int
  | .float _ => .float
  | .text _ => .text
  | .list _ => .list
  | .map _ => .map
  | .callable content _ => .callable content.typeName

/-- Zeros, empty collections, empty texts, `false` and `null` do not hold. -/
def holds : Value → Bool
  | .null => false
  | .bool truth => truth
  | .int number => number != 0
  | .float number => !number.isZero
  | .text content => content != ""
  | .list items => !items.isEmpty
  | .map entries => !entries.isEmpty
  | .callable _ _ => true

/-- A value, or a replacement for one that does not hold. -/
def orElse (value replacement : Value) : Value :=
  if value.holds then value else replacement

/-- A value as a key; only collections cannot be keys. -/
def key? : Value → Option Key
  | .null => some .null
  | .bool truth => some (.bool truth)
  | .int number => some (.int number)
  | .float number => some (.float number)
  | .text content => some (.text content)
  | .list _ => none
  | .map _ => none
  | .callable content _ => some (.callable content)

def isCallable : Value → Bool
  | .callable _ _ => true
  | _ => false

def isKey (value : Value) : Bool :=
  value.key?.isSome

mutual

/-- The representative of a value up to the looser equality: numbers as integers
where possible, maps ordered by key. -/
def canonical : Value → Value
  | .null => .null
  | .bool truth => .int (if truth then 1 else 0)
  | .int number => .int number
  | .float number =>
      match number.integer? with
      | some integer => .int integer
      | none => .float number
  | .text content => .text content
  | .list items => .list (canonicalItems items)
  | .map entries =>
      .map ((canonicalEntries entries).mergeSort fun left right => left.1.notAfter right.1)
  | .callable content attributes => .callable content attributes
termination_by structural value => value

/-- The representatives of the items of a list. -/
def canonicalItems : List Value → List Value
  | [] => []
  | item :: items => canonical item :: canonicalItems items
termination_by structural items => items

/-- The representatives of the entries of a map. -/
def canonicalEntries : List (Key × Value) → List (Key × Value)
  | [] => []
  | (key, value) :: entries => (key.canonical, canonical value) :: canonicalEntries entries
termination_by structural entries => entries

end

/-- The looser equality. -/
def alike (left right : Value) : Bool :=
  decide (left.canonical = right.canonical)

theorem alike_iff {left right : Value} :
    left.alike right = true ↔ left.canonical = right.canonical := by
  simp [alike]

@[simp]
theorem alike_refl (value : Value) : value.alike value = true := by
  simp [alike]

theorem alike_symm {left right : Value} (agree : left.alike right = true) :
    right.alike left = true := by
  rw [alike_iff] at agree ⊢
  exact agree.symm

theorem alike_trans {left middle right : Value}
    (first : left.alike middle = true) (second : middle.alike right = true) :
    left.alike right = true := by
  rw [alike_iff] at first second ⊢
  exact first.trans second

@[simp]
theorem alike_text (left right : String) :
    (Value.text left).alike (.text right) = (left == right) := by
  by_cases equal : left = right <;> simp [alike, canonical, equal]

end Value

/-- Whether a value is the floating-point number that stands for no number. -/
def Value.isNaN : Value → Bool
  | .float number => number.isNaN
  | _ => false

/-- Whether two values are equal: what is no number does not equal itself. -/
def Value.equals (left right : Value) : Bool :=
  left.alike right && !left.isNaN

theorem Value.isNaN_canonical (value : Value) : value.canonical.isNaN = value.isNaN := by
  cases value with
  | float number =>
      rw [canonical]
      split
      · rename_i integer whole
        have finite : number.isFinite = true := by
          cases known : number.isFinite with
          | true => rfl
          | false => simp [Binary64.integer?, known] at whole
        simp [isNaN, Binary64.isNaN, finite]
      · rfl
  | _ => rfl

theorem Value.equals_symm {left right : Value} (equal : left.equals right = true) :
    right.equals left = true := by
  rw [equals, Bool.and_eq_true, alike_iff, ← isNaN_canonical] at equal ⊢
  rw [← equal.1]
  exact ⟨rfl, equal.2⟩

theorem Value.equals_trans {left middle right : Value} (first : left.equals middle = true)
    (second : middle.equals right = true) : left.equals right = true := by
  rw [equals, Bool.and_eq_true, alike_iff] at first second ⊢
  exact ⟨first.1.trans second.1, first.2⟩

theorem Value.equals_self {value : Value} (proper : value.isNaN = false) :
    value.equals value = true := by
  rw [equals, alike_refl, proper, Bool.not_false, Bool.and_true]

def Key.value : Key → Value
  | .null => .null
  | .bool truth => .bool truth
  | .int number => .int number
  | .float number => .float number
  | .text content => .text content
  | .callable content => .callable content []

@[simp]
theorem Key.key?_value (key : Key) : key.value.key? = some key := by
  cases key <;> rfl

/-- The entries of a map, in insertion order. -/
abbrev Entries := List (Key × Value)

/-- Tables keyed by values compare their keys with the looser equality. -/
instance : BEq Value := ⟨Value.alike⟩

theorem Value.beq_def (left right : Value) : (left == right) = left.alike right := rfl

instance : EquivBEq Value where
  rfl := Value.alike_refl _
  symm := Value.alike_symm
  trans := Value.alike_trans

end ChatDispatch
