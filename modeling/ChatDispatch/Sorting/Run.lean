/-!
# Runs

A comparison of two items may fail.  Which items are compared, and in which order, decides
which fault a sort meets first, so both are fixed here: a list has a rising or falling run at
its beginning, and an item finds its place in a sorted list by halving.
-/

namespace ChatDispatch.Sorting

variable {α ε : Type}

/-- A comparison: whether one item comes before another, or why it cannot be told. -/
abbrev Comparison (α ε : Type) := α → α → Except ε Bool

/-- The end of a list from which it is looked at. -/
inductive Origin
  | front
  | back
deriving DecidableEq, Repr

/-- The middle of a range; of the two middle places of an even one, the one farther away. -/
def Origin.middle (origin : Origin) (low high : Nat) : Nat :=
  match origin with
  | .front => (low + high) / 2
  | .back => (low + high - 1) / 2

theorem Origin.le_middle (origin : Origin) {low high : Nat} (nonempty : low < high) :
    low ≤ origin.middle low high := by
  cases origin <;> simp only [Origin.middle] <;> omega

theorem Origin.middle_lt (origin : Origin) {low high : Nat} (nonempty : low < high) :
    origin.middle low high < high := by
  cases origin <;> simp only [Origin.middle] <;> omega

/-- The items that go on in a direction after a given one, and the rest.  Downwards each
item comes before the one in front of it, upwards it does not. -/
def run (before : Comparison α ε) (downwards : Bool) (last : α) :
    List α → Except ε (List α × List α)
  | [] => .ok ([], [])
  | next :: rest =>
      match before next last with
      | .error fault => .error fault
      | .ok comes =>
          if comes = downwards then
            (run before downwards next rest).map fun found => (next :: found.1, found.2)
          else
            .ok ([], next :: rest)

/-- The run at the beginning of a list in rising order, and the rest. -/
def firstRun (before : Comparison α ε) : List α → Except ε (List α × List α)
  | [] => .ok ([], [])
  | [only] => .ok ([only], [])
  | first :: second :: rest =>
      match before second first with
      | .error fault => .error fault
      | .ok downwards =>
          (run before downwards second rest).map fun found =>
            let whole := first :: second :: found.1
            (if downwards then whole.reverse else whole, found.2)

/-- The first place between two bounds whose item fails a test that all items in front of it
pass. -/
def bisect (origin : Origin) (passes : α → Except ε Bool) (items : List α) (low high : Nat) :
    Except ε Nat :=
  if low < high then
    match items[origin.middle low high]? with
    | none => .ok low
    | some item =>
        match passes item with
        | .error fault => .error fault
        | .ok true => bisect origin passes items (origin.middle low high + 1) high
        | .ok false => bisect origin passes items low (origin.middle low high)
  else
    .ok low
termination_by high - low
decreasing_by
  all_goals
    have lower := origin.le_middle ‹low < high›
    have upper := origin.middle_lt ‹low < high›
    omega

/-- Inserts an item into a sorted list, behind what it does not come before. -/
def insert (before : Comparison α ε) (item : α) (sorted : List α) : Except ε (List α) :=
  let passes := fun present => (before item present).map not
  (bisect .front passes sorted 0 sorted.length).map fun position =>
    sorted.take position ++ item :: sorted.drop position

/-- Inserts items into a sorted list one after the other. -/
def insertAll (before : Comparison α ε) (sorted : List α) : List α → Except ε (List α)
  | [] => .ok sorted
  | item :: items =>
      match insert before item sorted with
      | .error fault => .error fault
      | .ok grown => insertAll before grown items

/-- The run at the beginning of a list, made up to a least length by inserting the items
that follow it, and the rest. -/
def nextRun (before : Comparison α ε) (least : Nat) (items : List α) :
    Except ε (List α × List α) :=
  match firstRun before items with
  | .error fault => .error fault
  | .ok (found, rest) =>
      let missing := least - found.length
      (insertAll before found (rest.take missing)).map fun whole => (whole, rest.drop missing)

theorem exists_of_map_eq_ok {β : Type} {outcome : Except ε α} {change : α → β} {result : β}
    (done : outcome.map change = .ok result) :
    ∃ value, outcome = .ok value ∧ change value = result := by
  cases outcome with
  | error fault => simp [Except.map] at done
  | ok value => exact ⟨value, rfl, by simpa [Except.map] using done⟩

theorem run_append {before : Comparison α ε} {downwards : Bool} {last : α}
    {items : List α} {found : List α × List α}
    (done : run before downwards last items = .ok found) : found.1 ++ found.2 = items := by
  induction items generalizing last found with
  | nil =>
      simp only [run, Except.ok.injEq] at done
      simp [← done]
  | cons next rest inductionHypothesis =>
      simp only [run] at done
      split at done
      · simp at done
      · split at done
        · obtain ⟨further, split, rfl⟩ := exists_of_map_eq_ok done
          simp [inductionHypothesis split]
        · simp only [Except.ok.injEq] at done
          simp [← done]

theorem firstRun_perm {before : Comparison α ε} {items : List α} {found : List α × List α}
    (done : firstRun before items = .ok found) : (found.1 ++ found.2).Perm items := by
  match items with
  | [] =>
      simp only [firstRun, Except.ok.injEq] at done
      simp [← done]
  | [only] =>
      simp only [firstRun, Except.ok.injEq] at done
      simp [← done]
  | first :: second :: rest =>
      simp only [firstRun] at done
      split at done
      · simp at done
      · rename_i downwards _
        obtain ⟨further, split, rfl⟩ := exists_of_map_eq_ok done
        rw [← run_append split]
        cases downwards with
        | false => simp
        | true =>
            have reversed := List.reverse_perm (first :: second :: further.1)
            simpa using reversed.append_right further.2

theorem firstRun_ne_nil {before : Comparison α ε} {first : α} {rest : List α}
    {found : List α × List α} (done : firstRun before (first :: rest) = .ok found) :
    found.1 ≠ [] := by
  match rest with
  | [] =>
      simp only [firstRun, Except.ok.injEq] at done
      simp [← done]
  | second :: rest =>
      simp only [firstRun] at done
      split at done
      · simp at done
      · rename_i downwards _
        obtain ⟨further, _, rfl⟩ := exists_of_map_eq_ok done
        cases downwards <;> simp

theorem insert_perm {before : Comparison α ε} {item : α} {sorted grown : List α}
    (done : insert before item sorted = .ok grown) : grown.Perm (item :: sorted) := by
  obtain ⟨position, _, rfl⟩ := exists_of_map_eq_ok done
  have middle : (sorted.take position ++ item :: sorted.drop position).Perm
      (item :: (sorted.take position ++ sorted.drop position)) := List.perm_middle
  simpa using middle

theorem insertAll_perm {before : Comparison α ε} {sorted items whole : List α}
    (done : insertAll before sorted items = .ok whole) : whole.Perm (sorted ++ items) := by
  induction items generalizing sorted with
  | nil =>
      simp only [insertAll, Except.ok.injEq] at done
      simp [← done]
  | cons item items inductionHypothesis =>
      simp only [insertAll] at done
      split at done
      · simp at done
      · rename_i grown inserted
        refine (inductionHypothesis done).trans ?_
        refine ((insert_perm inserted).append_right items).trans ?_
        simpa using List.perm_middle.symm

theorem nextRun_perm {before : Comparison α ε} {least : Nat} {items : List α}
    {found : List α × List α} (done : nextRun before least items = .ok found) :
    (found.1 ++ found.2).Perm items := by
  simp only [nextRun] at done
  split at done
  · simp at done
  · rename_i start rest split
    obtain ⟨whole, inserted, rfl⟩ := exists_of_map_eq_ok done
    refine ((insertAll_perm inserted).append_right _).trans ?_
    simpa using firstRun_perm split

theorem nextRun_length_lt {before : Comparison α ε} {least : Nat} {first : α} {rest : List α}
    {found : List α × List α} (done : nextRun before least (first :: rest) = .ok found) :
    found.2.length < (first :: rest).length := by
  have same := (nextRun_perm done).length_eq
  simp only [nextRun] at done
  split at done
  · simp at done
  · rename_i start remaining split
    obtain ⟨whole, inserted, rfl⟩ := exists_of_map_eq_ok done
    have grown := (insertAll_perm inserted).length_eq
    have positive : 0 < start.length := List.length_pos_iff.mpr (firstRun_ne_nil split)
    simp only [List.length_append] at same grown ⊢
    omega

end ChatDispatch.Sorting
