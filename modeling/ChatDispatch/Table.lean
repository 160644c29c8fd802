/-!
# Ordered tables

A table is a list of entries whose keys differ.  Entries keep the order in which
their keys were first stored: storing under a present key changes the value in
place, under a new key appends.
-/

namespace ChatDispatch.Table

variable {κ β : Type} [BEq κ]

def lookup (key : κ) : List (κ × β) → Option β
  | [] => none
  | entry :: rest => if entry.1 == key then some entry.2 else lookup key rest

def holds (key : κ) (table : List (κ × β)) : Bool :=
  table.any fun entry => entry.1 == key

/-- Stores a value; a present key keeps its place and its spelling. -/
def store (key : κ) (value : β) : List (κ × β) → List (κ × β)
  | [] => [(key, value)]
  | entry :: rest =>
      if entry.1 == key then (entry.1, value) :: rest else entry :: store key value rest

def remove (key : κ) : List (κ × β) → List (κ × β)
  | [] => []
  | entry :: rest => if entry.1 == key then remove key rest else entry :: remove key rest

/-- The table that results from storing the entries one after the other. -/
def ofEntries (entries : List (κ × β)) : List (κ × β) :=
  entries.foldl (fun table entry => store entry.1 entry.2 table) []

/-- Stores all entries of one table in another. -/
def update (table : List (κ × β)) (entries : List (κ × β)) : List (κ × β) :=
  entries.foldl (fun merged entry => store entry.1 entry.2 merged) table

theorem holds_eq_isSome_lookup (key : κ) (table : List (κ × β)) :
    holds key table = (lookup key table).isSome := by
  induction table with
  | nil => rfl
  | cons entry rest inductionHypothesis =>
      cases present : entry.1 == key with
      | true => simp [holds, lookup, present]
      | false => simpa [holds, lookup, present] using inductionHypothesis

theorem lookup_store_self [ReflBEq κ] (key : κ) (value : β) (table : List (κ × β)) :
    lookup key (store key value table) = some value := by
  induction table with
  | nil => simp [store, lookup]
  | cons entry rest inductionHypothesis =>
      cases present : entry.1 == key with
      | true => simp [store, lookup, present]
      | false => simpa [store, lookup, present] using inductionHypothesis

theorem lookup_store_of_ne [EquivBEq κ] {key other : κ} (different : (key == other) = false)
    (value : β) (table : List (κ × β)) :
    lookup other (store key value table) = lookup other table := by
  induction table with
  | nil => simp [store, lookup, different]
  | cons entry rest inductionHypothesis =>
      cases present : entry.1 == key with
      | true =>
          have absent : (entry.1 == other) = false := by
            rw [BEq.congr_left present]
            exact different
          simp [store, lookup, present, absent]
      | false =>
          cases found : entry.1 == other with
          | true => simp [store, lookup, present, found]
          | false => simpa [store, lookup, present, found] using inductionHypothesis

/-- Storing under a present key keeps the keys, under a new one appends it. -/
theorem keys_store (key : κ) (value : β) (table : List (κ × β)) :
    (store key value table).map (·.1) =
      table.map (·.1) ++ (if holds key table then [] else [key]) := by
  induction table with
  | nil => simp [store, holds]
  | cons entry rest inductionHypothesis =>
      cases present : entry.1 == key with
      | true => simp [store, holds, present]
      | false =>
          have sameHolds : holds key (entry :: rest) = holds key rest := by
            simp [holds, present]
          rw [sameHolds]
          simp [store, present, inductionHypothesis]

end ChatDispatch.Table
