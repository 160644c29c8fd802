import ChatDispatch.Sorting.Run

/-!
# Merging two runs

Two neighbouring sorted runs become one.  What already stands in its place at the outer ends
is left alone.  Of what remains, the shorter run is set aside: a merge fills the list from
the front if that is the left run, and from the back if it is the right one.

Items are taken one at a time until one run has won several times in a row.  From then on
the merge looks with growing strides for all that can be taken at once, as long as this pays.
How often a run has to win, the patience, grows when strides did not pay and shrinks while
they do.
-/

namespace ChatDispatch.Sorting

variable {α ε : Type}

/-- Where strides of growing length leave a sorted list: all items before the first place
pass a test, and the item at the second one, if it exists, fails it. -/
def stride (passes : α → Except ε Bool) (items : List α) (low high : Nat) :
    Except ε (Nat × Nat) :=
  if inside : high < items.length then
    match passes items[high] with
    | .error fault => .error fault
    | .ok true => stride passes items (high + 1) (2 * high + 1)
    | .ok false => .ok (low, high)
  else
    .ok (low, items.length)
termination_by items.length - high

/-- The number of items at the beginning of a list that pass a test. -/
def leading (origin : Origin) (passes : α → Except ε Bool) (items : List α) : Except ε Nat :=
  match stride passes items 0 0 with
  | .error fault => .error fault
  | .ok (low, high) => bisect origin passes items low high

/-- Two runs on the way to one.  The `near` run is the one whose items are moved while the
other, the `far` one, is set aside; both stand with their next item first. -/
structure Merging (α : Type) where
  /-- What has been taken, the last item first. -/
  taken : List α
  near : List α
  far : List α
deriving Repr

namespace Merging

/-- All that is left stands in its order: the last item of the far run comes at the end. -/
def isDone : Merging α → Bool
  | ⟨_, [], _⟩ => true
  | ⟨_, _, []⟩ => true
  | ⟨_, _, [_]⟩ => true
  | _ => false

/-- The items in their order, once the merge is done. -/
def whole (merging : Merging α) : List α :=
  merging.taken.reverse ++ (merging.near ++ merging.far)

end Merging

/-- Whether an item of the near run is taken before one of the far run.  Of two items alike,
the one from the left run stays in front. -/
def isNext (origin : Origin) (before : Comparison α ε) (near far : α) : Except ε Bool :=
  match origin with
  | .front => before near far
  | .back => before far near

/-- Takes items one at a time until a run has won as often in a row as the patience says. -/
def singly (origin : Origin) (before : Comparison α ε) (patience nearWins farWins : Nat)
    (taken : List α) : List α → List α → Except ε (Merging α)
  | near :: nears, far :: next :: fars =>
      match isNext origin before near far with
      | .error fault => .error fault
      | .ok true =>
          if patience ≤ nearWins + 1 then
            .ok ⟨near :: taken, nears, far :: next :: fars⟩
          else
            singly origin before patience (nearWins + 1) 0 (near :: taken) nears
              (far :: next :: fars)
      | .ok false =>
          if patience ≤ farWins + 1 then
            .ok ⟨far :: taken, near :: nears, next :: fars⟩
          else
            singly origin before patience 0 (farWins + 1) (far :: taken) (near :: nears)
              (next :: fars)
  | nears, fars => .ok ⟨taken, nears, fars⟩
termination_by nears fars => nears.length + fars.length

/-- Takes from the far run all that goes before the next near item, and then that item. -/
def rushFar (origin : Origin) (before : Comparison α ε) :
    Merging α → Except ε (Nat × Merging α)
  | ⟨taken, near :: nears, fars⟩ =>
      match leading origin (fun far => (isNext origin before near far).map not) fars with
      | .error fault => .error fault
      | .ok count =>
          let rushed : Merging α :=
            ⟨(fars.take count).reverse ++ taken, near :: nears, fars.drop count⟩
          .ok (count, if rushed.isDone then rushed else ⟨near :: rushed.taken, nears, rushed.far⟩)
  | done => .ok (0, done)

/-- Takes from the near run all that goes before the next far item, and then that item. -/
def rushNear (origin : Origin) (before : Comparison α ε) :
    Merging α → Except ε (Nat × Merging α)
  | ⟨taken, nears, far :: fars⟩ =>
      match leading origin (fun near => isNext origin before near far) nears with
      | .error fault => .error fault
      | .ok count =>
          let rushed : Merging α :=
            ⟨(nears.take count).reverse ++ taken, nears.drop count, far :: fars⟩
          .ok (count, if rushed.isDone then rushed else ⟨far :: rushed.taken, rushed.near, fars⟩)
  | done => .ok (0, done)

/-- So many items at once are worth a stride. -/
def worthwhile : Nat := 7

/-- Rushes through both runs, the left one first, and says whether that was worthwhile. -/
def rushBoth (origin : Origin) (before : Comparison α ε) (merging : Merging α) :
    Except ε (Bool × Merging α) :=
  let rushes := match origin with
    | .front => (rushFar origin before, rushNear origin before)
    | .back => (rushNear origin before, rushFar origin before)
  match rushes.1 merging with
  | .error fault => .error fault
  | .ok (first, halfway) =>
      if halfway.isDone then
        .ok (true, halfway)
      else
        (rushes.2 halfway).map fun found =>
          (worthwhile ≤ first || worthwhile ≤ found.1, found.2)

/-- Merges to the end and gives the patience that is left; each step takes an item, and the
fuel bounds their number. -/
def mergeWithin (origin : Origin) (before : Comparison α ε) :
    Nat → Bool → Nat → Merging α → Except ε (Merging α × Nat)
  | 0, _, patience, merging => .ok (merging, patience)
  | fuel + 1, rushing, patience, merging =>
      if merging.isDone then
        .ok (merging, patience)
      else if rushing then
        match rushBoth origin before merging with
        | .error fault => .error fault
        | .ok (paid, next) =>
            if next.isDone then
              .ok (next, patience)
            else if paid then
              mergeWithin origin before fuel true (max 1 (patience - 1)) next
            else
              mergeWithin origin before fuel false (patience + 1) next
      else
        match singly origin before patience 0 0 merging.taken merging.near merging.far with
        | .error fault => .error fault
        | .ok next => mergeWithin origin before fuel true patience next

/-- Merges two runs from one end.  The first near item has its place already. -/
def mergeFrom (origin : Origin) (before : Comparison α ε) (patience : Nat) :
    List α → List α → Except ε (List α × Nat)
  | [], fars => .ok (fars, patience)
  | near :: nears, fars =>
      (mergeWithin origin before (nears.length + fars.length + 1) false patience
        ⟨[near], nears, fars⟩).map fun found => (found.1.whole, found.2)

/-- Merges two sorted runs and gives the patience that is left. -/
def merge (before : Comparison α ε) (patience : Nat) (left right : List α) :
    Except ε (List α × Nat) :=
  if left.length ≤ right.length then
    mergeFrom .front before patience right left
  else
    (mergeFrom .back before patience left.reverse right.reverse).map fun found =>
      (found.1.reverse, found.2)

/-- Joins two neighbouring sorted runs: what of the left run goes before the whole right run,
and what of the right run goes behind the whole left one, stays where it is. -/
def join (before : Comparison α ε) (patience : Nat) (left right : List α) :
    Except ε (List α × Nat) :=
  match right with
  | [] => .ok (left, patience)
  | head :: _ =>
      match leading .front (fun item => (before head item).map not) left with
      | .error fault => .error fault
      | .ok settled =>
          match (left.drop settled).getLast? with
          | none => .ok (left ++ right, patience)
          | some last =>
              match leading .back (fun item => (before item last).map not) right.reverse with
              | .error fault => .error fault
              | .ok behind =>
                  let moved := right.take (right.length - behind)
                  let stays := right.drop (right.length - behind)
                  if moved.isEmpty then
                    .ok (left ++ right, patience)
                  else
                    (merge before patience (left.drop settled) moved).map fun found =>
                      (left.take settled ++ (found.1 ++ stays), found.2)

namespace Merging

/-- All items of a merge, whatever their order. -/
def all (merging : Merging α) : List α :=
  merging.taken ++ (merging.near ++ merging.far)

theorem whole_perm (merging : Merging α) : merging.whole.Perm merging.all :=
  (List.reverse_perm merging.taken).append_right _

theorem take_near (taken far : List α) (item : α) (near : List α) :
    (⟨item :: taken, near, far⟩ : Merging α).all.Perm (taken ++ (item :: near ++ far)) := by
  simpa [all] using List.perm_middle.symm

theorem take_far (taken near : List α) (item : α) (far : List α) :
    (⟨item :: taken, near, far⟩ : Merging α).all.Perm (taken ++ (near ++ item :: far)) := by
  have moved : (item :: (taken ++ near ++ far)).Perm (taken ++ near ++ item :: far) :=
    List.perm_middle.symm
  simpa [all] using moved

theorem rush_near (taken near far : List α) (count : Nat) :
    (⟨(near.take count).reverse ++ taken, near.drop count, far⟩ : Merging α).all.Perm
      (taken ++ (near ++ far)) := by
  have swapped : ((near.take count).reverse ++ taken).Perm (taken ++ near.take count) :=
    List.perm_append_comm.trans ((List.reverse_perm _).append_left taken)
  have moved := swapped.append_right (near.drop count ++ far)
  rwa [List.append_assoc taken, ← List.append_assoc (near.take count),
    List.take_append_drop] at moved

theorem rush_far (taken near far : List α) (count : Nat) :
    (⟨(far.take count).reverse ++ taken, near, far.drop count⟩ : Merging α).all.Perm
      (taken ++ (near ++ far)) := by
  have swapped : ((far.take count).reverse ++ (taken ++ near)).Perm
      ((taken ++ near) ++ far.take count) :=
    List.perm_append_comm.trans ((List.reverse_perm _).append_left _)
  have moved := swapped.append_right (far.drop count)
  simpa [all] using moved

end Merging

theorem singly_perm {origin : Origin} {before : Comparison α ε}
    {patience nearWins farWins : Nat} {taken near far : List α} {next : Merging α}
    (done : singly origin before patience nearWins farWins taken near far = .ok next) :
    next.all.Perm (taken ++ (near ++ far)) := by
  fun_induction singly origin before patience nearWins farWins taken near far with
  | case1 => simp at done
  | case2 =>
      simp only [Except.ok.injEq] at done
      subst done
      exact Merging.take_near ..
  | case3 _ _ _ _ _ _ _ _ _ _ inductionHypothesis =>
      exact (inductionHypothesis done).trans (Merging.take_near ..)
  | case4 =>
      simp only [Except.ok.injEq] at done
      subst done
      exact Merging.take_far ..
  | case5 _ _ _ _ _ _ _ _ _ _ inductionHypothesis =>
      exact (inductionHypothesis done).trans (Merging.take_far ..)
  | case6 =>
      simp only [Except.ok.injEq] at done
      subst done
      exact .refl _

theorem rushFar_perm {origin : Origin} {before : Comparison α ε} {merging : Merging α}
    {found : Nat × Merging α} (done : rushFar origin before merging = .ok found) :
    found.2.all.Perm merging.all := by
  obtain ⟨taken, nears, fars⟩ := merging
  cases nears with
  | nil =>
      simp only [rushFar, Except.ok.injEq] at done
      simp [← done]
  | cons near nears =>
      simp only [rushFar] at done
      split at done
      · simp at done
      · rename_i count _
        simp only [Except.ok.injEq] at done
        subst done
        have rushed := Merging.rush_far taken (near :: nears) fars count
        split
        · exact rushed
        · exact (Merging.take_near ..).trans rushed

theorem rushNear_perm {origin : Origin} {before : Comparison α ε} {merging : Merging α}
    {found : Nat × Merging α} (done : rushNear origin before merging = .ok found) :
    found.2.all.Perm merging.all := by
  obtain ⟨taken, nears, fars⟩ := merging
  cases fars with
  | nil =>
      simp only [rushNear, Except.ok.injEq] at done
      simp [← done]
  | cons far fars =>
      simp only [rushNear] at done
      split at done
      · simp at done
      · rename_i count _
        simp only [Except.ok.injEq] at done
        subst done
        have rushed := Merging.rush_near taken nears (far :: fars) count
        split
        · exact rushed
        · exact (Merging.take_far ..).trans rushed

theorem rushBoth_perm {origin : Origin} {before : Comparison α ε} {merging : Merging α}
    {found : Bool × Merging α} (done : rushBoth origin before merging = .ok found) :
    found.2.all.Perm merging.all := by
  cases origin with
  | front =>
      simp only [rushBoth] at done
      split at done
      · simp at done
      · rename_i first halfway rushed
        split at done
        · simp only [Except.ok.injEq] at done
          subst done
          exact rushFar_perm rushed
        · obtain ⟨further, again, rfl⟩ := exists_of_map_eq_ok done
          exact (rushNear_perm again).trans (rushFar_perm rushed)
  | back =>
      simp only [rushBoth] at done
      split at done
      · simp at done
      · rename_i first halfway rushed
        split at done
        · simp only [Except.ok.injEq] at done
          subst done
          exact rushNear_perm rushed
        · obtain ⟨further, again, rfl⟩ := exists_of_map_eq_ok done
          exact (rushFar_perm again).trans (rushNear_perm rushed)

theorem mergeWithin_perm {origin : Origin} {before : Comparison α ε} {fuel patience : Nat}
    {rushing : Bool} {merging : Merging α} {found : Merging α × Nat}
    (done : mergeWithin origin before fuel rushing patience merging = .ok found) :
    found.1.all.Perm merging.all := by
  induction fuel generalizing rushing patience merging with
  | zero =>
      simp only [mergeWithin, Except.ok.injEq] at done
      simp [← done]
  | succ fuel inductionHypothesis =>
      simp only [mergeWithin] at done
      split at done
      · simp only [Except.ok.injEq] at done
        simp [← done]
      · split at done
        · split at done
          · simp at done
          · rename_i paid next rushed
            split at done
            · simp only [Except.ok.injEq] at done
              subst done
              exact rushBoth_perm rushed
            · split at done
              · exact (inductionHypothesis done).trans (rushBoth_perm rushed)
              · exact (inductionHypothesis done).trans (rushBoth_perm rushed)
        · split at done
          · simp at done
          · rename_i next stepped
            exact (inductionHypothesis done).trans (singly_perm stepped)

theorem mergeFrom_perm {origin : Origin} {before : Comparison α ε} {patience : Nat}
    {near far : List α} {found : List α × Nat}
    (done : mergeFrom origin before patience near far = .ok found) :
    found.1.Perm (near ++ far) := by
  cases near with
  | nil =>
      simp only [mergeFrom, Except.ok.injEq] at done
      simp [← done]
  | cons first near =>
      obtain ⟨merged, further, rfl⟩ := exists_of_map_eq_ok done
      exact merged.1.whole_perm.trans (mergeWithin_perm further)

theorem merge_perm {before : Comparison α ε} {patience : Nat} {left right : List α}
    {found : List α × Nat} (done : merge before patience left right = .ok found) :
    found.1.Perm (left ++ right) := by
  unfold merge at done
  split at done
  · exact (mergeFrom_perm done).trans List.perm_append_comm
  · obtain ⟨merged, further, rfl⟩ := exists_of_map_eq_ok done
    refine (List.reverse_perm _).trans ((mergeFrom_perm further).trans ?_)
    exact (List.reverse_perm left).append (List.reverse_perm right)

theorem join_perm {before : Comparison α ε} {patience : Nat} {left right : List α}
    {found : List α × Nat} (done : join before patience left right = .ok found) :
    found.1.Perm (left ++ right) := by
  unfold join at done
  split at done
  · simp only [Except.ok.injEq] at done
    simp [← done]
  · split at done
    · simp at done
    · split at done
      · simp only [Except.ok.injEq] at done
        simp [← done]
      · split at done
        · simp at done
        · rename_i head rest _ settled _ _ last _ _ behind _
          simp only at done
          split at done
          · simp only [Except.ok.injEq] at done
            simp [← done]
          · obtain ⟨merged, further, rfl⟩ := exists_of_map_eq_ok done
            have middle := (merge_perm further).append_right
              ((head :: rest).drop ((head :: rest).length - behind))
            have whole := middle.append_left (left.take settled)
            rw [List.append_assoc, List.take_append_drop] at whole
            rwa [← List.append_assoc (left.take settled) (left.drop settled),
              List.take_append_drop] at whole

end ChatDispatch.Sorting
