import ChatDispatch.Sorting.Merge

/-!
# Sorting with a comparison that can fail

The items of a list need not all be comparable.  Which of them are compared, and in which
order, decides which fault a sort meets first.

A list is cut into runs.  A short run is made up by inserting the items that follow it.  Two
neighbouring runs are joined as soon as the boundary between them lies deeper, in the tree
that halves the list again and again, than the one behind them, and the runs that are left in
the end are joined from the back.  The sort is stable, and a list of fewer than 64 items is
one run.
-/

namespace ChatDispatch.Sorting

variable {α ε : Type}

/-- A sorted run that waits for its neighbour. -/
structure Pending (α : Type) where
  items : List α
  /-- The number of items in front of the run. -/
  start : Nat
  /-- The depth of the boundary in front of the run. -/
  depth : Nat
deriving Repr

/-- The least length of a run in a list, if that many items are left: the leading six bits of
the length, one more if any other bit is set. -/
def leastRun (size : Nat) : Nat :=
  if size < 64 then
    size
  else
    let shift := size.log2 - 5
    size / Nat.pow 2 shift + if size % Nat.pow 2 shift = 0 then 0 else 1

/-- How often a list of a size has to be halved until the middles of two neighbouring runs
fall into different parts. -/
def boundaryDepth (size start left right : Nat) : Nat :=
  let first := 2 * start + left
  let second := first + left + right
  let parted := fun depth =>
    first * Nat.pow 2 depth / size != second * Nat.pow 2 depth / size
  ((List.range (size.log2 + 2)).find? parted).getD (size.log2 + 2)

/-- Joins the last runs, the last one first, while the boundary between them lies deeper than
the one behind them. -/
def settle (before : Comparison α ε) (depth : Nat) :
    Nat → List (Pending α) → Except ε (Nat × List (Pending α))
  | patience, last :: previous :: rest =>
      if depth < last.depth then
        match join before patience previous.items last.items with
        | .error fault => .error fault
        | .ok (items, patience) =>
            settle before depth patience (⟨items, previous.start, previous.depth⟩ :: rest)
      else
        .ok (patience, last :: previous :: rest)
  | patience, pending => .ok (patience, pending)
termination_by _ pending => pending.length

def finish (before : Comparison α ε) : Nat → List (Pending α) → Except ε (List α)
  | patience, last :: previous :: earlier :: rest =>
      if earlier.items.length < last.items.length then
        match join before patience earlier.items previous.items with
        | .error fault => .error fault
        | .ok (items, patience) =>
            finish before patience (last :: ⟨items, earlier.start, earlier.depth⟩ :: rest)
      else
        match join before patience previous.items last.items with
        | .error fault => .error fault
        | .ok (items, patience) =>
            finish before patience
              (⟨items, previous.start, previous.depth⟩ :: earlier :: rest)
  | patience, [last, previous] =>
      (join before patience previous.items last.items).map Prod.fst
  | _, [only] => .ok only.items
  | _, [] => .ok []
termination_by _ pending => pending.length

/-- Makes room for a run that is found behind others. -/
def push (before : Comparison α ε) (size patience : Nat) (pending : List (Pending α))
    (start : Nat) (items : List α) : Except ε (Nat × List (Pending α)) :=
  match pending with
  | [] => .ok (patience, [⟨items, start, 0⟩])
  | last :: _ =>
      let depth := boundaryDepth size last.start last.items.length items.length
      (settle before depth patience pending).map fun settled =>
        (settled.1, ⟨items, start, depth⟩ :: settled.2)

/-- Sorts what is left of a list of a size behind the runs found so far. -/
def sortOnto (before : Comparison α ε) (size patience : Nat) (pending : List (Pending α))
    (start : Nat) (items : List α) : Except ε (List α) :=
  match items with
  | [] => finish before patience pending
  | first :: rest =>
      match found : nextRun before (leastRun size) (first :: rest) with
      | .error fault => .error fault
      | .ok (whole, further) =>
          have : further.length < (first :: rest).length := nextRun_length_lt found
          match push before size patience pending start whole with
          | .error fault => .error fault
          | .ok (patience, pending) =>
              sortOnto before size patience pending (start + whole.length) further
termination_by items.length
decreasing_by assumption

def sort (before : Comparison α ε) (items : List α) : Except ε (List α) :=
  sortOnto before items.length worthwhile [] 0 items

/-- The items of the pending runs in the order of the list. -/
def pendingItems : List (Pending α) → List α
  | [] => []
  | last :: rest => pendingItems rest ++ last.items

theorem settle_perm {before : Comparison α ε} {depth patience : Nat}
    {pending : List (Pending α)} {found : Nat × List (Pending α)}
    (done : settle before depth patience pending = .ok found) :
    (pendingItems found.2).Perm (pendingItems pending) := by
  fun_induction settle before depth patience pending with
  | case1 => simp at done
  | case2 patience last previous rest _ items patience' joined inductionHypothesis =>
      refine (inductionHypothesis done).trans ?_
      simpa [pendingItems] using (join_perm joined).append_left (pendingItems rest)
  | case3 =>
      simp only [Except.ok.injEq] at done
      simp [← done]
  | case4 =>
      simp only [Except.ok.injEq] at done
      simp [← done]

theorem finish_perm {before : Comparison α ε} {patience : Nat} {pending : List (Pending α)}
    {whole : List α} (done : finish before patience pending = .ok whole) :
    whole.Perm (pendingItems pending) := by
  fun_induction finish before patience pending with
  | case1 => simp at done
  | case2 patience last previous earlier rest _ items patience' joined inductionHypothesis =>
      refine (inductionHypothesis done).trans ?_
      have moved := ((join_perm joined).append_left (pendingItems rest)).append_right last.items
      simpa [pendingItems] using moved
  | case3 => simp at done
  | case4 patience last previous earlier rest _ items patience' joined inductionHypothesis =>
      refine (inductionHypothesis done).trans ?_
      have moved := (join_perm joined).append_left (pendingItems rest ++ earlier.items)
      simpa [pendingItems] using moved
  | case5 patience last previous =>
      obtain ⟨joined, merged, rfl⟩ := exists_of_map_eq_ok done
      simpa [pendingItems] using join_perm merged
  | case6 =>
      simp only [Except.ok.injEq] at done
      simp [← done, pendingItems]
  | case7 =>
      simp only [Except.ok.injEq] at done
      simp [← done, pendingItems]

theorem push_perm {before : Comparison α ε} {size patience start : Nat}
    {pending : List (Pending α)} {items : List α} {found : Nat × List (Pending α)}
    (done : push before size patience pending start items = .ok found) :
    (pendingItems found.2).Perm (pendingItems pending ++ items) := by
  cases pending with
  | nil =>
      simp only [push, Except.ok.injEq] at done
      simp [← done, pendingItems]
  | cons last rest =>
      obtain ⟨settled, further, rfl⟩ := exists_of_map_eq_ok done
      exact (settle_perm further).append_right items

theorem sortOnto_perm {before : Comparison α ε} {size patience start : Nat}
    {pending : List (Pending α)} {items whole : List α}
    (done : sortOnto before size patience pending start items = .ok whole) :
    whole.Perm (pendingItems pending ++ items) := by
  fun_induction sortOnto before size patience pending start items with
  | case1 => simpa using finish_perm done
  | case2 => simp at done
  | case3 => simp at done
  | case4 patience pending start first rest run further found _ patience' pending' pushed
      inductionHypothesis =>
      refine (inductionHypothesis done).trans ?_
      refine ((push_perm pushed).append_right further).trans ?_
      simpa using (nextRun_perm found).append_left (pendingItems pending)

theorem sort_perm {before : Comparison α ε} {items whole : List α}
    (done : sort before items = .ok whole) : whole.Perm items := by
  simpa [pendingItems] using sortOnto_perm done

end ChatDispatch.Sorting
