import Mathlib.Data.List.Induction
import ChatDispatch.FileTree

/-!
# Writing one file

Following names from a location leads where the names say, if there are directories on the way.
Whoever writes a file changes what is at its location, and nothing anywhere else: all that lies
above it was there before, and nothing can lie below.
-/

namespace ChatDispatch

namespace Location

/-- A location as paths denote it: upward steps only lead out of the tree. -/
def Normal (location : Location) : Prop :=
  (FilePath.ofLocation location).location = location

theorem normal_iff {location : Location} :
    location.Normal ↔ location.foldl Location.step [] = location :=
  Iff.rfl

theorem length_foldl_step (start : Location) (names : List String) :
    (names.foldl Location.step start).length ≤ start.length + names.length := by
  induction names generalizing start with
  | nil => exact Nat.le_refl _
  | cons name rest induction =>
      have one : (start.step name).length ≤ start.length + 1 := by
        unfold step
        split
        · split
          · simp
          · split
            · omega
            · split
              · simp
              · rw [List.length_dropLast]
                omega
        · simp
      have later := induction (start.step name)
      rw [List.foldl_cons, List.length_cons]
      omega

theorem Normal.of_concat {location : Location} {last : String}
    (normal : Normal (location ++ [last])) : Normal location := by
  rw [normal_iff, List.foldl_append, List.foldl_cons, List.foldl_nil, step] at normal
  have short := length_foldl_step [] location
  split at normal
  · split at normal
    · rename_i empty
      rw [List.getLast?_eq_none_iff] at empty
      have parts : [] ++ [".."] = location ++ [last] := normal
      obtain ⟨none, -⟩ := List.append_inj' parts rfl
      rw [normal_iff, empty, none]
    · split at normal
      · rw [normal, List.length_append] at short
        exact absurd short (by simp)
      · split at normal
        · exact (List.append_inj' normal rfl).1
        · have shorter := congrArg List.length normal
          rw [List.length_dropLast, List.length_append, List.length_singleton] at shorter
          rw [List.length_nil] at short
          omega
  · exact (List.append_inj' normal rfl).1

theorem Normal.of_append {location : Location} {names : List String}
    (normal : Normal (location ++ names)) : Normal location := by
  induction names using List.reverseRecOn with
  | nil => rwa [List.append_nil] at normal
  | append_singleton rest last induction =>
      rw [← List.append_assoc] at normal
      exact induction normal.of_concat

theorem Normal.step {location : Location} (normal : location.Normal) (name : String) :
    (location.step name).Normal := by
  have grown (appended : location.step name = location ++ [name]) :
      (location.step name).Normal := by
    rw [appended, normal_iff, List.foldl_append, normal_iff.mp normal]
    exact appended
  by_cases up : name = upward
  · subst up
    cases last : location.getLast? with
    | none =>
        have empty : location = [] := List.getLast?_eq_none_iff.mp last
        subst empty
        exact grown rfl
    | some final =>
        obtain ⟨before, rfl⟩ := List.getLast?_eq_some_iff.mp last
        by_cases top : final = ""
        · have same : Location.step (before ++ [final]) upward = before ++ [final] := by
            simp [Location.step, top]
          rwa [same]
        · by_cases outside : final = upward
          · exact grown (by simp [Location.step, outside, upward])
          · have back : Location.step (before ++ [final]) upward = before := by
              simp [Location.step, top, outside]
            rw [back]
            exact normal.of_concat
  · exact grown (if_neg up)

end Location

namespace FilePath

theorem normal_location {path : FilePath} (normal : path.start.Normal) :
    path.location.Normal := by
  suffices kept : ∀ (names : List String) (start : Location), start.Normal →
      (names.foldl Location.step start).Normal from kept path.names path.start normal
  intro names
  induction names with
  | nil => exact fun _ normal => normal
  | cons name rest induction => exact fun start normal => induction _ (normal.step name)

theorem normal_ofText (text : String) : (ofText text).start.Normal := by
  unfold ofText
  split
  · rfl
  · rfl

theorem normal_ofHomeText {accounts : List (String × List String)} {text : String}
    {path : FilePath} (read : ofHomeText accounts text = .ok path) : path.start.Normal := by
  unfold ofHomeText at read
  split at read
  · split at read
    · obtain rfl := Except.ok.inj read
      exact normal_ofText text
    · rename_i account _
      split at read
      · cases read
      · split at read
        · rename_i home known
          obtain rfl := Except.ok.inj read
          unfold Location.homeOf? at known
          split at known
          · obtain rfl := Option.some.inj known
            rfl
          · obtain ⟨names, -, rfl⟩ := Option.map_eq_some_iff.mp known
            have top : Location.top.Normal := rfl
            exact @normal_location ⟨Location.top, names⟩ top
        · cases read
  · obtain rfl := Except.ok.inj read
    exact normal_ofText text

end FilePath

namespace FileTree

variable {tree before after : FileTree} {target : Location}

theorem eq_foldl_of_walk {location place : Location} {names : List String}
    (walked : tree.walk location names = .ok place) :
    place = names.foldl Location.step location := by
  induction names generalizing location with
  | nil => exact (Except.ok.inj walked).symm
  | cons name rest induction =>
      unfold walk at walked
      split at walked
      · cases walked
      · split at walked
        · cases walked
        · exact induction walked
      · cases walked

theorem node?_of_walk {location place : Location} {earlier later : List String} {name : String}
    (walked : tree.walk location (earlier ++ name :: later) = .ok place) :
    tree.node? (earlier.foldl Location.step location) = some .directory := by
  induction earlier generalizing location with
  | nil =>
      rw [List.nil_append, walk] at walked
      split at walked
      · cases walked
      · rename_i found
        exact found
      · cases walked
  | cons first rest induction =>
      rw [List.cons_append, walk] at walked
      split at walked
      · cases walked
      · split at walked
        · cases walked
        · exact induction walked
      · cases walked

theorem eq_location_of_reach {path : FilePath} {place : Location}
    (reached : tree.reach path = .ok place) : place = path.location := by
  unfold reach at reached
  split at reached
  · cases reached
  · split at reached
    · cases reached
    · exact eq_foldl_of_walk reached

theorem eq_location_of_visit {path : FilePath} {place : Location} {node : FileNode}
    (visited : tree.visit path = .ok (place, node)) : place = path.location := by
  unfold visit at visited
  split at visited
  · cases visited
  · rename_i location reached
    split at visited
    · cases visited
    · obtain ⟨rfl, -⟩ := Prod.mk.inj (Except.ok.inj visited)
      exact eq_location_of_reach reached

theorem eq_location_of_look {path : FilePath} {place : Location} {node : FileNode}
    (looked : tree.look path = .ok (some (place, node))) : place = path.location := by
  unfold look at looked
  split at looked
  · rename_i visited
    cases looked
    exact eq_location_of_visit visited
  · cases looked
  · cases looked

/-- Two trees that differ only in what a file holds, or in whether it is there. -/
structure DifferAt (target : Location) (before after : FileTree) : Prop where
  elsewhere : ∀ location, location ≠ target → after.node? location = before.node? location
  noDirectory : before.node? target ≠ some .directory
  document : ∃ content, after.node? target = some (.document content)

theorem any_put (reaches : Location → Bool) (node : FileNode) :
    (tree.put target node).nodes.any (fun entry => reaches entry.1) =
      (tree.nodes.any (fun entry => reaches entry.1) || reaches target) := by
  unfold put
  induction tree.nodes with
  | nil => simp [Table.store]
  | cons entry rest induction =>
      cases same : entry.1 == target with
      | true => simp [Table.store, eq_of_beq same, Bool.or_comm]
      | false => simp [Table.store, same, induction, Bool.or_assoc]

/-- What is put somewhere is seen nowhere else, if everything above was a directory. -/
theorem node?_put {location : Location} {node : FileNode}
    (above : ∀ first names, target = location ++ first :: names →
      tree.node? location = some .directory)
    (apart : location ≠ target) :
    (tree.put target node).node? location = tree.node? location := by
  have elsewhere : Table.lookup location (tree.put target node).nodes =
      Table.lookup location tree.nodes :=
    Table.lookup_store_of_ne (beq_eq_false_iff_ne.mpr (Ne.symm apart)) node tree.nodes
  unfold node?
  rw [elsewhere]
  cases found : Table.lookup location tree.nodes with
  | some own => rfl
  | none =>
      dsimp only
      rw [any_put location.isPrefixOf node]
      cases under : location.isPrefixOf target with
      | false => rw [Bool.or_false]
      | true =>
          obtain ⟨names, parts⟩ := List.isPrefixOf_iff_prefix.mp under
          cases names with
          | nil => exact absurd (by rw [← parts, List.append_nil]) apart
          | cons first rest =>
              have directory := above first rest parts.symm
              unfold node? at directory
              rw [found] at directory
              dsimp only at directory
              rw [directory]
              simp

theorem accounts_save {path : FilePath} {content : Value}
    (saved : before.save path content = .ok after) : after.accounts = before.accounts := by
  unfold save at saved
  split at saved
  · cases saved
  · split at saved
    · cases saved
    · obtain rfl := Except.ok.inj saved
      rfl

/-- What is written to a file is all that differs afterwards. -/
theorem differAt_save {content : Value} (normal : target.Normal)
    (saved : before.save (.ofLocation target) content = .ok after) :
    before.reach (.ofLocation target) = .ok target ∧ DifferAt target before after ∧
      after.node? target = some (.document content) := by
  unfold save at saved
  split at saved
  · cases saved
  · rename_i place reached
    obtain rfl : place = target := (eq_location_of_reach reached).trans normal
    split at saved
    · cases saved
    · rename_i noDirectory
      obtain rfl := Except.ok.inj saved
      have stored : (before.put place (.document content)).node? place =
          some (.document content) := by
        rw [node?, put, Table.lookup_store_self]
      refine ⟨reached, ⟨?_, ?_, content, stored⟩, stored⟩
      · intro location apart
        refine node?_put (fun first names parts => ?_) apart
        have walked : before.walk [] (location ++ first :: names) = .ok place := by
          unfold reach at reached
          split at reached
          · cases reached
          · split at reached
            · cases reached
            · exact parts ▸ reached
        have directory := node?_of_walk walked
        rwa [(Location.normal_iff.mp (Location.Normal.of_append (parts ▸ normal)))] at directory
      · intro directory
        exact noDirectory (by rw [isDirectory, directory])

/-- A walk that does not end at the file ends as before, or it failed at the file and still
does. -/
theorem walk_of_differAt (differ : DifferAt target before after) (location : Location)
    (names : List String) :
    after.walk location names = before.walk location names ∨
      before.walk location names = .error .fileNotFound ∧
        after.walk location names = .error .notDirectory := by
  induction names generalizing location with
  | nil => exact .inl rfl
  | cons name rest induction =>
      by_cases here : location = target
      · subst here
        obtain ⟨content, document⟩ := differ.document
        have stuck : after.walk location (name :: rest) = .error .notDirectory := by
          rw [walk, document]
        cases found : before.node? location with
        | none => exact .inr ⟨by rw [walk, found], stuck⟩
        | some node =>
            refine .inl (stuck.trans ?_)
            rw [walk, found]
            cases node with
            | directory => exact absurd found differ.noDirectory
            | _ => rfl
      · unfold walk
        rw [differ.elsewhere location here]
        split
        · exact .inl rfl
        · split
          · exact .inl rfl
          · exact induction _
        · exact .inl rfl

theorem reach_of_differAt (differ : DifferAt target before after) (path : FilePath) :
    after.reach path = before.reach path ∨
      before.reach path = .error .fileNotFound ∧ after.reach path = .error .notDirectory := by
  unfold reach
  split
  · exact .inl rfl
  · split
    · exact .inl rfl
    · exact walk_of_differAt differ path.start path.names

/-- What a path leads to is the same, or it led to nothing and leads to nothing. -/
theorem visit_of_differAt (differ : DifferAt target before after) {path : FilePath}
    (apart : path.location ≠ target) :
    after.visit path = before.visit path ∨
      before.visit path = .error .fileNotFound ∧ after.visit path = .error .notDirectory := by
  unfold visit
  rcases reach_of_differAt differ path with same | ⟨failed, fails⟩
  · rw [same]
    cases reached : before.reach path with
    | error fault => exact .inl rfl
    | ok place =>
        obtain rfl := eq_location_of_reach reached
        dsimp only
        rw [differ.elsewhere _ apart]
        exact .inl rfl
  · rw [failed, fails]
    exact .inr ⟨rfl, rfl⟩

theorem look_of_differAt (differ : DifferAt target before after) {path : FilePath}
    (apart : path.location ≠ target) : after.look path = before.look path := by
  unfold look
  rcases visit_of_differAt differ apart with same | ⟨failed, fails⟩
  · rw [same]
  · rw [failed, fails]

theorem existing?_of_differAt (differ : DifferAt target before after) {text : String}
    (apart : (FilePath.ofText text).location ≠ target) :
    after.existing? text = before.existing? text := by
  unfold existing? visitWritten
  by_cases long : textLimit < text.utf8ByteSize
  · rw [if_pos long, if_pos long]
  · rw [if_neg long, if_neg long]
    rcases visit_of_differAt differ apart with same | ⟨failed, fails⟩
    · rw [same]
      cases visited : before.visit (FilePath.ofText text) with
      | error fault => rfl
      | ok found =>
          obtain ⟨place, node⟩ := found
          obtain rfl := eq_location_of_visit visited
          dsimp only
          rw [isDirectory, differ.elsewhere _ apart, isDirectory]
    · rw [failed, fails]

end FileTree

end ChatDispatch
