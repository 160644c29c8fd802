/-!
# Cutting a text at a mark

`cut` separates a text at the first occurrence of a mark, `split` at every
occurrence.
-/

namespace ChatDispatch.Text

/-- What stands before the first occurrence of the mark, and what follows it when
there is one. -/
def cut (mark : Char) : List Char → List Char × Option (List Char)
  | [] => ([], none)
  | character :: rest =>
      if character = mark then
        ([], some rest)
      else
        (character :: (cut mark rest).1, (cut mark rest).2)

/-- The pieces between the occurrences of the mark; there is always at least one. -/
def split (mark : Char) : List Char → List (List Char)
  | [] => [[]]
  | character :: rest =>
      if character = mark then
        [] :: split mark rest
      else
        match split mark rest with
        | [] => [[character]]
        | piece :: pieces => (character :: piece) :: pieces

/-- The pieces of a string between the occurrences of the mark. -/
def pieces (mark : Char) (text : String) : List String :=
  (split mark text.toList).map String.ofList

theorem split_ne_nil (mark : Char) (text : List Char) : split mark text ≠ [] := by
  cases text with
  | nil => simp [split]
  | cons character rest =>
      unfold split
      split
      · simp
      · split <;> simp

/-- Replaces every occurrence of one character by another. -/
def replaceChar (old new : Char) (text : String) : String :=
  String.ofList (text.toList.map fun character => if character = old then new else character)

end ChatDispatch.Text
