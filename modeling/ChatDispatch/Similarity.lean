/-!
# Similar spellings

Two words are compared by how many letters they share in matching blocks: the longest
common block is taken, then the longest ones to the left and to the right of it, and so
on.  The similarity is twice that number over the sum of the lengths.

In a long word, letters that occur too often never start a block; a block may still be
extended over them.

What is looked for need not be a text: a list is spelled by its items.
-/

namespace ChatDispatch.Similarity

/-- A letter of a word: a character, or something that occurs in no text. -/
abbrev Letter := Option Char

def spelling (content : String) : List Letter :=
  content.toList.map some

/-- A common block: where it starts in both words, and how long it is. -/
structure Block where
  left : Nat
  right : Nat
  size : Nat
deriving DecidableEq, Repr

/-- Words of this length or more have popular letters. -/
def longWord : Nat := 200

/-- The letters of a long word that make up more than about a hundredth of it. -/
def isPopular (word : List Letter) (letter : Letter) : Bool :=
  longWord ≤ word.length && word.length / 100 + 1 < word.count letter

/-- The popular letters of a word, each one once. -/
def popularLetters (word : List Letter) : List Letter :=
  if longWord ≤ word.length then word.eraseDups.filter (isPopular word) else []

/-- The lengths of the common blocks that end at one letter of the left word and at every
letter of the right one, from those for the letter before. -/
def nextRow (skip : Letter → Bool) (letter : Letter) (right : List Letter) (row : List Nat) :
    List Nat :=
  List.zipWith
    (fun other size => if other = letter && !skip other then size + 1 else 0)
    right (0 :: row)

/-- The longest block that ends in a row, the first one among equals, if it is longer
than the best block so far. -/
def improve (left : Nat) : Nat → List Nat → Block → Block
  | _, [], best => best
  | right, size :: sizes, best =>
      improve left (right + 1) sizes
        (if best.size < size then ⟨left + 1 - size, right + 1 - size, size⟩ else best)

/-- The longest block among the rows from `position` on. -/
def scan (skip : Letter → Bool) (right : List Letter) :
    Nat → List Letter → List Nat → Block → Block
  | _, [], _, best => best
  | position, letter :: rest, row, best =>
      let row := nextRow skip letter right row
      scan skip right (position + 1) rest row (improve position 0 row best)

/-- The length of the common beginning of two words. -/
def commonLength : List Letter → List Letter → Nat
  | left :: lefts, right :: rights => if left = right then commonLength lefts rights + 1 else 0
  | _, _ => 0

/-- Extends a block to both sides as far as the words agree. -/
def extend (left right : List Letter) (block : Block) : Block :=
  let before := commonLength (left.take block.left).reverse (right.take block.right).reverse
  let after :=
    commonLength (left.drop (block.left + block.size)) (right.drop (block.right + block.size))
  ⟨block.left - before, block.right - before, before + block.size + after⟩

/-- The longest common block, the earliest in the left word and then in the right one. -/
def longestBlock (skip : Letter → Bool) (left right : List Letter) : Block :=
  extend left right (scan skip right 0 left (List.replicate right.length 0) ⟨0, 0, 0⟩)

/-- The number of letters in matching blocks; the fuel bounds their number. -/
def matchedWithin (skip : Letter → Bool) : Nat → List Letter → List Letter → Nat
  | 0, _, _ => 0
  | fuel + 1, left, right =>
      let block := longestBlock skip left right
      if block.size = 0 then
        0
      else
        block.size +
          matchedWithin skip fuel (left.take block.left) (right.take block.right) +
          matchedWithin skip fuel (left.drop (block.left + block.size))
            (right.drop (block.right + block.size))

/-- A ratio of naturals. -/
structure Ratio where
  numerator : Nat
  denominator : Nat
deriving Repr

def Ratio.atMost (lower upper : Ratio) : Bool :=
  lower.numerator * upper.denominator ≤ upper.numerator * lower.denominator

/-- How similar a candidate is to a word; two empty words are equal. -/
def similarity (word candidate : List Letter) : Ratio :=
  let total := candidate.length + word.length
  let popular := popularLetters word
  if total = 0 then
    ⟨1, 1⟩
  else
    ⟨2 * matchedWithin popular.contains (candidate.length + 1) candidate word, total⟩

/-- A candidate comes before another if it is more similar, or equally similar and later
in the order of texts. -/
def comesBefore (first second : Ratio × String) : Bool :=
  if second.1.atMost first.1 then
    if first.1.atMost second.1 then decide (second.2 ≤ first.2) else true
  else
    false

/-- At most three candidates that are similar enough, the most similar one first. -/
def closest (threshold : Ratio) (word : List Letter) (candidates : List String) :
    List String :=
  let scored := candidates.map fun candidate =>
    (similarity word (spelling candidate), candidate)
  (((scored.filter fun entry => threshold.atMost entry.1).mergeSort comesBefore).take 3).map (·.2)

end ChatDispatch.Similarity
