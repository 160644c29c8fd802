import Mathlib.Data.List.Basic
import Mathlib.Data.List.Pairwise

/-!
# Defining names again

A list of named items has one item of each name: a new item takes the place of the one that had
its name before, and goes to the end.  After some items are defined one after the other the list
has the last one of each name, in the order in which they were defined last, behind what was in
it before and was not defined again.
-/

namespace ChatDispatch.Redefining

variable {α κ : Type} [BEq κ] (name : α → κ)

def NamesApart (items : List α) : Prop :=
  items.Pairwise fun left right => (name left == name right) = false

/-- Adds an item at the end in place of those of its name. -/
def define (items : List α) (item : α) : List α :=
  items.filter (fun present => !(name present == name item)) ++ [item]

/-- The items whose names do not come again. -/
def lastOfEach : List α → List α
  | [] => []
  | item :: rest =>
      if rest.any fun later => name item == name later then lastOfEach rest
      else item :: lastOfEach rest

/-- The items whose names none of some others has. -/
def without (others items : List α) : List α :=
  items.filter fun item => !others.any fun other => name item == name other

def last? (key : κ) (items : List α) : Option α :=
  items.reverse.find? fun item => name item == key

variable {name}

theorem namesApart_define {items : List α} (apart : NamesApart name items) (item : α) :
    NamesApart name (define name items item) := by
  refine List.pairwise_append.mpr
    ⟨apart.sublist List.filter_sublist, List.pairwise_singleton _ _, ?_⟩
  intro present member last new
  obtain ⟨-, other⟩ := List.mem_filter.mp member
  rw [List.mem_singleton.mp new]
  exact Bool.not_eq_true' _ ▸ other

theorem find?_define [PartialEquivBEq κ] (key : κ) (items : List α) (item : α) :
    (define name items item).find? (fun present => name present == key) =
      if name item == key then some item
      else items.find? fun present => name present == key := by
  rw [define, List.find?_append, List.find?_singleton, List.find?_filter]
  split_ifs with named
  · rw [List.find?_eq_none.mpr, Option.none_or]
    intro present _
    rw [BEq.congr_right named]
    simp
  · rw [Option.or_none]
    congr 1
    funext present
    cases same : name present == key with
    | false => simp
    | true =>
        have other : (name present == name item) = false := by
          rw [BEq.congr_left same, BEq.comm]
          simpa using named
        simp [other]

theorem without_cons (item : α) (rest start : List α) :
    without name (item :: rest) start =
      without name rest (start.filter fun present => !(name present == name item)) := by
  rw [without, without, List.filter_filter]
  refine List.filter_congr fun present _ => ?_
  rw [List.any_cons, Bool.not_or, Bool.and_comm]

theorem lastOfEach_cons (item : α) (rest : List α) :
    lastOfEach name (item :: rest) = without name rest [item] ++ lastOfEach name rest := by
  rw [without, lastOfEach, List.filter_singleton]
  cases rest.any fun later => name item == name later <;> rfl

/-- What was there and was not defined again comes first, and then what was defined. -/
theorem foldl_define (items start : List α) :
    items.foldl (define name) start = without name items start ++ lastOfEach name items := by
  induction items generalizing start with
  | nil => simp [without, lastOfEach]
  | cons item rest induction =>
      rw [List.foldl_cons, induction, without_cons, lastOfEach_cons, ← List.append_assoc, define,
        without, List.filter_append]
      rfl

theorem namesApart_foldl_define {start : List α} (apart : NamesApart name start)
    (items : List α) : NamesApart name (items.foldl (define name) start) := by
  induction items generalizing start with
  | nil => exact apart
  | cons item rest induction => exact induction (namesApart_define apart item)

/-- Under a name there is the last item that was defined under it, or else what was there. -/
theorem find?_foldl_define [PartialEquivBEq κ] (key : κ) (items start : List α) :
    (items.foldl (define name) start).find? (fun item => name item == key) =
      (last? name key items).or (start.find? fun item => name item == key) := by
  induction items generalizing start with
  | nil => rfl
  | cons item rest induction =>
      rw [List.foldl_cons, induction, find?_define, last?, last?, List.reverse_cons,
        List.find?_append, Option.or_assoc, List.find?_singleton]
      congr 1
      split_ifs <;> rfl

end ChatDispatch.Redefining
