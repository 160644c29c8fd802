import Mathlib.Data.List.Induction
import ChatDispatch.Proofs.Table
import ChatDispatch.Settings

/-!
# Which settings prevail

A settings file can be a candidate in several roles: at home, in the project, in the current
directory and by name.  It is merged where its lowest role stands.  So the highest role prevails
unless another file comes up between two roles of the file that has it.
-/

namespace ChatDispatch.Settings

/-- The mapping that a candidate is read as, if it can be read. -/
def mapping? (tree : FileTree) (location : Location) : Option Entries :=
  match tree.look (.ofLocation location) with
  | .ok (some (_, node)) => (ofNode (.ofLocation location) node).toOption
  | _ => none

/-- The value that a candidate gives to a key; the last one counts. -/
def value? (tree : FileTree) (key : Key) (location : Location) : Option Value :=
  (mapping? tree location).bind fun entries => Table.lookup key entries.reverse

/-- The value that the highest of some roles gives to a key. -/
def prevailing? (tree : FileTree) (key : Key) (roles : List Location) : Option Value :=
  roles.reverse.findSome? (value? tree key)

/-- The locations of the candidates in all their roles, from the lowest to the highest. -/
def roles (tree : FileTree) (project explicit : Option String) :
    Except Fault (List Location) :=
  match explicitPath tree explicit with
  | .error fault => .error fault
  | .ok path => resolveAll (candidatePaths fileName project path)

/-- All roles can be looked up: no name on the way is too long. -/
def CanLook (tree : FileTree) (roles : List Location) : Prop :=
  ∀ role ∈ roles, tree.look (.ofLocation role) ≠ .error .nameTooLong

/-- Between two roles of a file that prevails, another one with another value for the key comes
up, and has not done so before; no file with a value for the key comes up after it. -/
def Overtaken (tree : FileTree) (key : Key) (roles : List Location) : Prop :=
  ∃ earlier prevailing between other later higher value otherValue,
    roles = (earlier ++ prevailing :: between) ++ other :: (later ++ prevailing :: higher) ∧
    value? tree key prevailing = some value ∧ value? tree key other = some otherValue ∧
    value ≠ otherValue ∧ other ∉ earlier ++ between ∧
    (∀ role ∈ later, role ∈ earlier ++ prevailing :: between ++ [other] ∨
      value? tree key role = none) ∧
    ∀ role ∈ higher, value? tree key role = none

variable {tree : FileTree} {key : Key}

theorem mem_distinct {roles : List Location} {role : Location} :
    role ∈ distinct roles ↔ role ∈ roles := by
  induction roles with
  | nil => rfl
  | cons first rest induction =>
      simp only [distinct, List.mem_cons, List.mem_filter, induction, bne_iff_ne]
      by_cases same : role = first
      · simp [same]
      · simp [same]

theorem distinct_append_singleton (roles : List Location) (last : Location) :
    distinct (roles ++ [last]) = distinct roles ++ if last ∈ roles then [] else [last] := by
  induction roles with
  | nil => rfl
  | cons first rest induction =>
      rw [List.cons_append, distinct, induction, List.filter_append, distinct, List.cons_append]
      by_cases same : last = first
      · by_cases before : last ∈ rest <;> simp [same]
      · by_cases before : last ∈ rest <;> simp [same, before]

/-- What the last of the different candidates with a value gives: it comes up, and all that come
up after it have done so before or have no value. -/
theorem findSome?_reverse_distinct {β : Type} {give : Location → Option β}
    {roles : List Location} {value : β} :
    (distinct roles).reverse.findSome? give = some value ↔
      ∃ before other after, roles = before ++ other :: after ∧ other ∉ before ∧
        give other = some value ∧
        ∀ role ∈ after, role ∈ before ++ [other] ∨ give role = none := by
  induction roles using List.reverseRecOn with
  | nil => simp [distinct]
  | append_singleton roles last induction =>
      have found : (distinct (roles ++ [last])).reverse.findSome? give = some value ↔
          (last ∉ roles ∧ give last = some value) ∨
            ((last ∈ roles ∨ give last = none) ∧
              (distinct roles).reverse.findSome? give = some value) := by
        rw [distinct_append_singleton]
        by_cases again : last ∈ roles
        · simp [again]
        · cases gives : give last <;> simp [again, gives]
      rw [found, induction]
      constructor
      · rintro (⟨new, gives⟩ | ⟨known, before, other, after, rfl, new, gives, silent⟩)
        · exact ⟨roles, last, [], rfl, new, gives, fun _ member => by cases member⟩
        · refine ⟨before, other, after ++ [last], by simp, new, gives, ?_⟩
          intro role member
          rcases List.mem_append.mp member with earlier | isLast
          · exact silent role earlier
          · rw [List.mem_singleton.mp isLast]
            rcases known with member | none
            · rw [List.append_cons, List.mem_append] at member
              exact member.elim .inl (silent last)
            · exact .inr none
      · rintro ⟨before, other, after, parts, new, gives, silent⟩
        rcases List.eq_nil_or_concat after with rfl | ⟨rest, role, rfl⟩
        · obtain ⟨rfl, rfl⟩ := List.append_inj' parts rfl |>.imp_right List.singleton_inj.mp
          exact .inl ⟨new, gives⟩
        · rw [List.concat_eq_append] at parts silent
          rw [← List.cons_append, ← List.append_assoc] at parts
          obtain ⟨rfl, same⟩ := List.append_inj' parts rfl
          obtain rfl := List.singleton_inj.mp same
          refine .inr ⟨?_, before, other, rest, rfl, new, gives, ?_⟩
          · refine (silent _ List.mem_concat_self).imp_left fun member => ?_
            rw [List.append_cons]
            exact List.mem_append_left _ member
          · exact fun role member => silent role (List.mem_append_left _ member)

theorem overtaken_of_ne {before after : List Location} {other : Location}
    {value otherValue : Value} (new : other ∉ before)
    (otherGives : value? tree key other = some otherValue)
    (silent : ∀ role ∈ after, role ∈ before ++ [other] ∨ value? tree key role = none)
    (prevails : prevailing? tree key (before ++ other :: after) = some value)
    (differ : otherValue ≠ value) : Overtaken tree key (before ++ other :: after) := by
  obtain ⟨higher, prevailing, lower, reversed, gives, highest⟩ :=
    List.findSome?_eq_some_iff.mp prevails
  have parts : before ++ other :: after = lower.reverse ++ prevailing :: higher.reverse := by
    simpa using congrArg List.reverse reversed
  have apart : prevailing ≠ other := by
    rintro rfl
    exact differ (Option.some.inj (otherGives.symm.trans gives))
  rcases List.append_eq_append_iff.mp parts with ⟨rest, -, tail⟩ | ⟨rest, -, tail⟩
  · cases rest with
    | nil => exact absurd (List.cons.inj tail).1.symm apart
    | cons first later =>
        obtain ⟨rfl, rfl⟩ := List.cons.inj tail
        have known : prevailing ∈ before := by
          rcases silent prevailing (by simp) with member | none
          · simpa [apart] using member
          · cases gives.symm.trans none
        obtain ⟨earlier, between, rfl⟩ := List.append_of_mem known
        refine ⟨earlier, prevailing, between, other, later, higher.reverse, value, otherValue,
          rfl, gives, otherGives, Ne.symm differ, ?_, ?_, ?_⟩
        · simp only [List.mem_append, List.mem_cons, not_or] at new ⊢
          exact ⟨new.1, new.2.2⟩
        · exact fun role member => silent role (List.mem_append_left _ member)
        · exact fun role member => highest role (List.mem_reverse.mp member)
  · cases rest with
    | nil => exact absurd (List.cons.inj tail).1 apart
    | cons first middle =>
        -- The other file would stand above the highest one with a value.
        have above : other ∈ higher := by
          rw [← List.mem_reverse, (List.cons.inj tail).2]
          simp
        cases otherGives.symm.trans (highest other above)

theorem prevailing?_distinct_iff {roles : List Location} :
    prevailing? tree key (distinct roles) = prevailing? tree key roles ↔
      ¬ Overtaken tree key roles := by
  constructor
  · rintro same ⟨earlier, prevailing, between, other, later, higher, value, otherValue, parts,
      gives, otherGives, differ, new, silent, highest⟩
    have apart : other ≠ prevailing := by
      rintro rfl
      exact differ (Option.some.inj (gives.symm.trans otherGives))
    have prevails : prevailing? tree key roles = some value := by
      refine List.findSome?_eq_some_iff.mpr ⟨higher.reverse, prevailing,
        ((earlier ++ prevailing :: between) ++ other :: later).reverse, ?_, gives, ?_⟩
      · simp [parts]
      · exact fun role member => highest role (List.mem_reverse.mp member)
    have overtakes : prevailing? tree key (distinct roles) = some otherValue := by
      refine findSome?_reverse_distinct.mpr
        ⟨earlier ++ prevailing :: between, other, later ++ prevailing :: higher, parts, ?_,
          otherGives, ?_⟩
      · simpa [apart] using new
      · intro role member
        rcases List.mem_append.mp member with before | after
        · exact silent role before
        · rcases List.mem_cons.mp after with rfl | last
          · exact .inl (by simp)
          · exact .inr (highest role last)
    rw [prevails, overtakes] at same
    exact differ (Option.some.inj same).symm
  · intro free
    cases overtakes : prevailing? tree key (distinct roles) with
    | none =>
        have silent := List.findSome?_eq_none_iff.mp overtakes
        refine (List.findSome?_eq_none_iff.mpr fun role member => silent role ?_).symm
        rw [List.mem_reverse, mem_distinct]
        exact List.mem_reverse.mp member
    | some otherValue =>
        obtain ⟨before, other, after, rfl, new, otherGives, silent⟩ :=
          findSome?_reverse_distinct.mp overtakes
        cases prevails : prevailing? tree key (before ++ other :: after) with
        | none =>
            have none := List.findSome?_eq_none_iff.mp prevails other (by simp)
            cases otherGives.symm.trans none
        | some value =>
            by_cases same : otherValue = value
            · rw [same]
            · exact absurd (overtaken_of_ne new otherGives silent prevails same) free

/-- Merges a candidate that can be looked up. -/
def absorb (tree : FileTree) (settings : Settings) (location : Location) : Settings :=
  match mapping? tree location with
  | none => settings
  | some entries =>
      { data := Table.update settings.data entries, file := some (.ofLocation location) }

theorem eq_nameTooLong_of_look {path : FilePath} {fault : Fault}
    (failed : tree.look path = .error fault) : fault = .nameTooLong := by
  unfold FileTree.look at failed
  split at failed
  · cases failed
  · exact (Except.error.inj failed).symm
  · cases failed

theorem merge_of_look {location : Location} {found : Option (Location × FileNode)}
    (looked : tree.look (.ofLocation location) = .ok found) (settings : Settings) :
    merge tree settings location = .ok (absorb tree settings location) := by
  rw [merge, absorb, mapping?, looked]
  cases found with
  | none => rfl
  | some entry =>
      dsimp only
      cases ofNode (.ofLocation location) entry.2 <;> rfl

theorem mergeAll_of_canLook {locations : List Location} (canLook : CanLook tree locations)
    (settings : Settings) :
    mergeAll tree settings locations = .ok (locations.foldl (absorb tree) settings) := by
  induction locations generalizing settings with
  | nil => rfl
  | cons location rest induction =>
      obtain ⟨here, later⟩ := List.forall_mem_cons.mp canLook
      cases looked : tree.look (.ofLocation location) with
      | error fault => exact absurd (eq_nameTooLong_of_look looked ▸ looked) here
      | ok found =>
          rw [mergeAll, merge_of_look looked]
          exact induction later _

theorem canLook_of_mergeAll {locations : List Location} {settings merged : Settings}
    (done : mergeAll tree settings locations = .ok merged) : CanLook tree locations := by
  induction locations generalizing settings with
  | nil => exact fun _ member => by cases member
  | cons location rest induction =>
      rw [mergeAll] at done
      split at done
      · cases done
      · rename_i middle here
        refine List.forall_mem_cons.mpr ⟨fun tooLong => ?_, induction done⟩
        rw [merge, tooLong] at here
        cases here

/-- Of several candidates that give a value to a key, the last one gives it to the settings. -/
theorem lookup_foldl_absorb (tree : FileTree) (key : Key) (locations : List Location)
    (settings : Settings) :
    Table.lookup key (locations.foldl (absorb tree) settings).data =
      (prevailing? tree key locations).or (Table.lookup key settings.data) := by
  induction locations generalizing settings with
  | nil => rfl
  | cons location rest induction =>
      rw [List.foldl_cons, induction]
      unfold prevailing?
      rw [List.reverse_cons, List.findSome?_append, Option.or_assoc]
      congr 1
      rw [absorb, List.findSome?_singleton, value?]
      cases mapping? tree location with
      | none => rfl
      | some entries => exact Table.lookup_update key settings.data entries

/-- Whatever roles there are, the value of the highest prevails exactly if all of them can be
looked up and it is not overtaken. -/
theorem merged_prevails_iff (roles : List Location) :
    (∃ merged, mergeAll tree ⟨[], none⟩ (distinct roles) = .ok merged ∧
        Table.lookup key merged.data = prevailing? tree key roles) ↔
      CanLook tree roles ∧ ¬ Overtaken tree key roles := by
  have all : CanLook tree (distinct roles) ↔ CanLook tree roles :=
    ⟨fun can role member => can role (mem_distinct.mpr member),
      fun can role member => can role (mem_distinct.mp member)⟩
  have found := lookup_foldl_absorb tree key (distinct roles) ⟨[], none⟩
  rw [Table.lookup, Option.or_none] at found
  constructor
  · rintro ⟨merged, done, same⟩
    have can := canLook_of_mergeAll done
    rw [mergeAll_of_canLook can] at done
    rw [← Except.ok.inj done, found] at same
    exact ⟨all.mp can, prevailing?_distinct_iff.mp same⟩
  · rintro ⟨can, free⟩
    refine ⟨_, mergeAll_of_canLook (all.mpr can) _, ?_⟩
    rw [found]
    exact prevailing?_distinct_iff.mpr free

/-- The settings are saved to the explicit file, if there is one. -/
def addressed (explicit : Option FilePath) (settings : Settings) : Settings :=
  match explicit with
  | some path => { settings with file := some (.ofLocation path.location) }
  | none => settings

theorem data_addressed (explicit : Option FilePath) (settings : Settings) :
    (addressed explicit settings).data = settings.data := by
  cases explicit <;> rfl

theorem load_of_roles (tree : FileTree) {project explicit : Option String}
    {candidates : List Location}
    (named : roles tree project explicit = .ok candidates) :
    ∃ path, explicitPath tree explicit = .ok path ∧
      load tree project explicit =
        (mergeAll tree ⟨[], none⟩ (distinct candidates)).map (addressed path) := by
  unfold roles at named
  split at named
  · cases named
  · rename_i path expanded
    refine ⟨path, expanded, ?_⟩
    rw [load, expanded]
    dsimp only
    rw [Settings.candidates, named]
    cases path <;> rfl

/-- The highest role prevails exactly if all roles can be looked up and none is overtaken.  This
is so for any roles, also if some directories are the same, and so for those that are loaded. -/
theorem prevails_iff_not_overtaken (tree : FileTree) (key : Key) :
    (∀ roles, (∃ merged, mergeAll tree ⟨[], none⟩ (distinct roles) = .ok merged ∧
        Table.lookup key merged.data = prevailing? tree key roles) ↔
      CanLook tree roles ∧ ¬ Overtaken tree key roles) ∧
    ∀ project explicit, (∃ settings candidates, load tree project explicit = .ok settings ∧
        roles tree project explicit = .ok candidates ∧
        Table.lookup key settings.data = prevailing? tree key candidates) ↔
      ∃ candidates, roles tree project explicit = .ok candidates ∧ CanLook tree candidates ∧
        ¬ Overtaken tree key candidates := by
  refine ⟨merged_prevails_iff, fun project explicit => ?_⟩
  constructor
  · rintro ⟨settings, candidates, loaded, named, same⟩
    refine ⟨candidates, named, (merged_prevails_iff candidates).mp ?_⟩
    obtain ⟨path, -, load⟩ := load_of_roles tree named
    rw [load] at loaded
    cases done : mergeAll tree ⟨[], none⟩ (distinct candidates) with
    | error fault =>
        rw [done] at loaded
        cases loaded
    | ok merged =>
        rw [done] at loaded
        obtain rfl := Except.ok.inj loaded
        exact ⟨merged, rfl, data_addressed path merged ▸ same⟩
  · rintro ⟨candidates, named, free⟩
    obtain ⟨merged, done, same⟩ := (merged_prevails_iff candidates).mpr free
    obtain ⟨path, -, load⟩ := load_of_roles tree named
    rw [done] at load
    exact ⟨addressed path merged, candidates, load, named, (data_addressed path merged).symm ▸ same⟩

/-- Settings at home and in the current directory. -/
def sampleLayout : FileTree :=
  { nodes :=
      [(Location.home ++ [fileName], .document (.map [(.text "a", .int 1)])),
        (Location.work ++ [fileName], .document (.map [(.text "a", .int 2)]))]
    accounts := [] }

/-- The settings at home do not prevail when they are named. -/
theorem named_home_is_overtaken :
    ∃ settings candidates,
      load sampleLayout none (some "~/.axiom.yml") = .ok settings ∧
      roles sampleLayout none (some "~/.axiom.yml") = .ok candidates ∧
      prevailing? sampleLayout (.text "a") candidates = some (.int 1) ∧
      Table.lookup (Key.text "a") settings.data = some (.int 2) := by
  refine ⟨_, _, rfl, rfl, ?_, ?_⟩
  · decide
  · decide

end ChatDispatch.Settings
