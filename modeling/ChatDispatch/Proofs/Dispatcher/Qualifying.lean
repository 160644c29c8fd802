import Mathlib.Data.List.TakeWhile
import ChatDispatch.Dispatcher.External
import ChatDispatch.Proofs.Dispatcher.Registered
import ChatDispatch.Proofs.Numbering

/-!
# Which plugins a load registers

A load goes through the plugins that it has created.  One whose declarations cannot be read is left
out, or ends the load if the fault is not one that loads put up with; so does one whose id cannot
be a key.  The others are registered one after the other, each id once.

What becomes of a plugin does not depend on the numbers of its callables.
-/

namespace ChatDispatch

/-- A fault by which a load only leaves a plugin out. -/
def Fault.isTolerated (fault : Fault) : Bool :=
  fault.category = .attribute || fault.category = .value

namespace Plugin

/-- The commands of a plugin, if all its declarations can be read. -/
def check (plugin : Plugin) : Except Fault (List PluginCommand) :=
  plugin.declarations.bind fun declared => declared.mapM Declaration.normalize

/-- All declarations of a plugin can be read. -/
def IsValid (plugin : Plugin) : Prop :=
  plugin.check.isOk = true

instance (plugin : Plugin) : Decidable plugin.IsValid :=
  inferInstanceAs (Decidable (_ = true))

/-- A plugin whose declarations can be read, or fail only as loads put up with. -/
def IsMild (plugin : Plugin) : Prop :=
  ∀ fault, plugin.check = .error fault → fault.isTolerated = true

instance (plugin : Plugin) : Decidable plugin.IsMild :=
  match checked : plugin.check with
  | .ok _ => .isTrue fun _ failed => nomatch checked.symm.trans failed
  | .error fault =>
      if tolerated : fault.isTolerated = true then
        .isTrue fun _ failed => Except.error.inj (checked.symm.trans failed) ▸ tolerated
      else
        .isFalse fun mild => tolerated (mild fault checked)

/-- The fault by which a plugin ends a load. -/
def fault? (plugin : Plugin) : Option Fault :=
  match plugin.check with
  | .error fault => if fault.isTolerated then none else some fault
  | .ok _ =>
      if plugin.id.holds && !plugin.id.isKey then some (.notAKey plugin.id.kind) else none

variable {plugin : Plugin}

theorem fault?_eq_none_iff_of_isMild (mild : plugin.IsMild) :
    plugin.fault? = none ↔
      (plugin.IsValid → plugin.id.holds = true → plugin.id.isKey = true) := by
  unfold fault? IsValid
  cases checked : plugin.check with
  | error fault => simp [mild fault checked, Except.isOk, Except.toBool]
  | ok commands =>
      cases plugin.id.holds <;> cases plugin.id.isKey <;> simp [Except.isOk, Except.toBool]

theorem mapM_normalize_shift (offset : Nat) (declared : List Declaration) :
    (declared.map (·.shift offset)).mapM Declaration.normalize =
      (declared.mapM Declaration.normalize).map (List.map (·.shift offset)) := by
  induction declared with
  | nil => rfl
  | cons declaration rest induction =>
      rw [List.map_cons, List.mapM_cons, List.mapM_cons, induction, Declaration.normalize_shift]
      rcases declaration.normalize with fault | command
      · rfl
      · rcases rest.mapM Declaration.normalize with fault | commands
        · rfl
        · rfl

theorem check_shift (offset : Nat) (plugin : Plugin) :
    (plugin.shift offset).check = plugin.check.map (List.map (·.shift offset)) := by
  unfold check
  rw [declarations_shift]
  rcases plugin.declarations with fault | declared
  · rfl
  · exact mapM_normalize_shift offset declared

theorem isValid_shift (offset : Nat) (plugin : Plugin) :
    (plugin.shift offset).IsValid ↔ plugin.IsValid := by
  unfold IsValid
  rw [check_shift]
  cases plugin.check <;> rfl

theorem fault?_shift (offset : Nat) (plugin : Plugin) :
    (plugin.shift offset).fault? = plugin.fault? := by
  unfold fault?
  rw [check_shift]
  cases plugin.check <;> rfl

/-- A plugin is another one up to the numbers of its callables. -/
def Renumbers (plugin made : Plugin) : Prop :=
  ∃ offset, made = plugin.shift offset

end Plugin

/-- How plugins would be registered that have the handles from a first one on: the valid ones under
their ids, unless these are empty. -/
def candidates (first : Nat) : List Plugin → List (Value × Nat)
  | [] => []
  | plugin :: rest =>
      if plugin.IsValid ∧ plugin.id.holds = true then
        (plugin.id, first) :: candidates (first + 1) rest
      else
        candidates (first + 1) rest

/-- The plugins before the first one that ends a load. -/
def beforeFault (created : List Plugin) : List Plugin :=
  created.takeWhile fun plugin => plugin.fault?.isNone

theorem candidates_cons (first : Nat) (plugin : Plugin) (rest : List Plugin) :
    candidates first (plugin :: rest) =
      candidates first [plugin] ++ candidates (first + 1) rest := by
  rw [candidates, candidates]
  split <;> rfl

theorem candidates_add (base first : Nat) (created : List Plugin) :
    candidates (base + first) created =
      (candidates first created).map fun entry => (entry.1, base + entry.2) := by
  induction created generalizing first with
  | nil => rfl
  | cons plugin rest induction =>
      rw [candidates, candidates, Nat.add_assoc, induction]
      split <;> rfl

theorem le_of_mem_candidates {first : Nat} {created : List Plugin} {entry : Value × Nat}
    (member : entry ∈ candidates first created) : first ≤ entry.2 := by
  induction created generalizing first with
  | nil => cases member
  | cons plugin rest induction =>
      rw [candidates] at member
      split at member
      · rcases List.mem_cons.mp member with rfl | later
        · exact Nat.le_refl _
        · exact Nat.le_of_succ_le (induction later)
      · exact Nat.le_of_succ_le (induction member)

theorem pairwise_candidates (first : Nat) (created : List Plugin) :
    (candidates first created).Pairwise fun entry later => entry.2 < later.2 := by
  induction created generalizing first with
  | nil => exact .nil
  | cons plugin rest induction =>
      rw [candidates]
      split
      · exact .cons (fun _ member => le_of_mem_candidates member) (induction (first + 1))
      · exact induction (first + 1)

/-- Of the candidates for an id, the first one is the first valid plugin with that id. -/
theorem mem_firstOfEach_candidates_iff {first : Nat} {created : List Plugin} {id : Value}
    {handle : Nat} :
    (id, handle) ∈ Table.firstOfEach (candidates first created) ↔
      ∃ front plugin back, created = front ++ plugin :: back ∧ handle = first + front.length ∧
        plugin.id = id ∧ plugin.IsValid ∧ id.holds = true ∧
        ∀ other ∈ front, other.IsValid → other.id.holds = true → (other.id == id) = false := by
  induction created generalizing first with
  | nil => simp [candidates, Table.firstOfEach]
  | cons head rest induction =>
      have others := @induction (first + 1)
      have moved (front : List Plugin) :
          first + 1 + front.length = first + (head :: front).length := by
        rw [List.length_cons, Nat.add_assoc, Nat.add_comm 1]
      by_cases admitted : head.IsValid ∧ head.id.holds = true
      · rw [candidates, if_pos admitted, Table.firstOfEach, List.mem_cons, List.mem_filter, others]
        constructor
        · rintro (same | ⟨⟨front, plugin, back, rfl, rfl, rfl, valid, holds, new⟩, apart⟩)
          · cases same
            exact ⟨[], head, rest, rfl, rfl, rfl, admitted.1, admitted.2,
              List.forall_mem_nil _⟩
          · refine ⟨head :: front, plugin, back, rfl, moved front, rfl, valid, holds, ?_⟩
            exact List.forall_mem_cons.mpr ⟨fun _ _ => by simpa using apart, new⟩
        · rintro ⟨front, plugin, back, split, rfl, rfl, valid, holds, new⟩
          cases front with
          | nil =>
              cases split
              exact .inl rfl
          | cons own front =>
              cases split
              obtain ⟨apart, new⟩ := List.forall_mem_cons.mp new
              have later : (!(head.id == plugin.id)) = true := by
                rw [apart admitted.1 admitted.2, Bool.not_false]
              exact .inr
                ⟨⟨front, plugin, back, rfl, (moved front).symm, rfl, valid, holds, new⟩, later⟩
      · rw [candidates, if_neg admitted, others]
        constructor
        · rintro ⟨front, plugin, back, rfl, rfl, rfl, valid, holds, new⟩
          refine ⟨head :: front, plugin, back, rfl, moved front, rfl, valid, holds, ?_⟩
          exact List.forall_mem_cons.mpr
            ⟨fun validHead holdsHead => absurd ⟨validHead, holdsHead⟩ admitted, new⟩
        · rintro ⟨front, plugin, back, split, rfl, rfl, valid, holds, new⟩
          cases front with
          | nil =>
              cases split
              exact absurd ⟨valid, holds⟩ admitted
          | cons own front =>
              cases split
              exact ⟨front, plugin, back, rfl, (moved front).symm, rfl, valid, holds,
                (List.forall_mem_cons.mp new).2⟩

theorem candidates_eq_nil_iff {first : Nat} {created : List Plugin} :
    candidates first created = [] ↔
      ∀ plugin ∈ created, plugin.IsValid → plugin.id.holds = false := by
  induction created generalizing first with
  | nil => exact ⟨fun _ => List.forall_mem_nil _, fun _ => rfl⟩
  | cons plugin rest induction =>
      have others := @induction (first + 1)
      rw [candidates, List.forall_mem_cons, ← others]
      split
      · rename_i admitted
        simp [admitted]
      · rename_i refused
        rw [not_and, Bool.not_eq_true] at refused
        exact ⟨fun none => ⟨refused, none⟩, And.right⟩

section

variable {offered made : List Plugin} (renumbered : List.Forall₂ Plugin.Renumbers offered made)
include renumbered

theorem candidates_of_renumbers (first : Nat) :
    candidates first made = candidates first offered := by
  induction renumbered generalizing first with
  | nil => rfl
  | cons own _ induction =>
      obtain ⟨offset, rfl⟩ := own
      simp only [candidates, induction, Plugin.isValid_shift]
      rfl

theorem findSome?_fault?_of_renumbers :
    made.findSome? Plugin.fault? = offered.findSome? Plugin.fault? := by
  induction renumbered with
  | nil => rfl
  | cons own _ induction =>
      obtain ⟨offset, rfl⟩ := own
      rw [List.findSome?_cons, List.findSome?_cons, induction, Plugin.fault?_shift]

theorem beforeFault_of_renumbers :
    List.Forall₂ Plugin.Renumbers (beforeFault offered) (beforeFault made) := by
  induction renumbered with
  | nil => exact .nil
  | cons own _ induction =>
      obtain ⟨offset, rfl⟩ := own
      rw [beforeFault, beforeFault, List.takeWhile_cons, List.takeWhile_cons, Plugin.fault?_shift]
      split
      · exact .cons ⟨offset, rfl⟩ induction
      · exact .nil

end

theorem beforeFault_eq_self_iff {created : List Plugin} :
    beforeFault created = created ↔ ∀ plugin ∈ created, plugin.fault? = none := by
  rw [beforeFault, List.takeWhile_eq_self_iff]
  simp only [Option.isNone_iff_eq_none]

theorem beforeFault_append_of_findSome? {created : List Plugin} {fault : Fault}
    (found : created.findSome? Plugin.fault? = some fault) :
    ∃ plugin rest,
      created = beforeFault created ++ plugin :: rest ∧ plugin.fault? = some fault := by
  obtain ⟨before, plugin, rest, rfl, faulty, harmless⟩ := List.findSome?_eq_some_iff.mp found
  have stops : beforeFault (before ++ plugin :: rest) = before := by
    have spared : ∀ other ∈ before, other.fault?.isNone = true := fun other member => by
      rw [harmless other member, Option.isNone_none]
    rw [beforeFault, List.takeWhile_append_of_pos spared, List.takeWhile_cons, faulty,
      Option.isNone_some, if_neg Bool.false_ne_true, List.append_nil]
  exact ⟨plugin, rest, by rw [stops], faulty⟩

namespace Dispatcher

variable {state : Dispatcher}

/-- The external plugins of a dispatcher replaced. -/
def withExternals (state : Dispatcher) (handles : List (Value × Nat)) : Dispatcher :=
  { state with registered := state.registered.setSort handles .external }

theorem withExternals_self (state : Dispatcher) :
    state.withExternals state.registered.external = state :=
  rfl

theorem unmoved_withExternals {before after : Dispatcher} (unmoved : Unmoved before after)
    (handles : List (Value × Nat)) :
    Unmoved (before.withExternals handles) (after.withExternals handles) := by
  refine ⟨?_⟩
  rw [withExternals, unmoved.frame]
  rfl

theorem qualifies_eq {handle : Nat} {plugin : Plugin}
    (present : state.plugin? handle = some plugin) :
    state.qualifies handle =
      match plugin.check with
      | .ok _ => .ok true
      | .error fault => if fault.isTolerated then .ok false else .error fault := by
  unfold qualifies
  simp only [declarationsOf, present]
  change (match plugin.check with | .ok _ => _ | .error fault => _) = _
  cases plugin.check with
  | ok commands => rfl
  | error fault =>
      cases category : fault.category <;> simp [Fault.isTolerated, category]

/-- A plugin whose id can be a key is registered if its id is free. -/
theorem registerPlugin_of_isKey {handle : Nat} {plugin : Plugin}
    (present : state.plugin? handle = some plugin) (holds : plugin.id.holds = true)
    (key : plugin.id.isKey = true) :
    ∃ next accepted, state.registerPlugin (some handle) .external = (next, .ok accepted) ∧
      Unmoved
        (state.withExternals (Table.extend state.registered.external [(plugin.id, handle)]))
        next := by
  have table : state.registered.ofSort .external = state.registered.external := rfl
  cases taken : Table.holds plugin.id state.registered.external with
  | true =>
      refine ⟨state, false, ?_, ?_⟩
      · simp [registerPlugin, present, holds, key, table, taken]
      · rw [Table.extend_cons_of_holds taken, Table.extend_nil_right, withExternals_self]
        exact .refl state
  | false =>
      rw [Table.extend_cons_of_not_holds taken, Table.extend_nil_right]
      refine ⟨_, true, ?_, unmoved_announce .pluginRegistered
        (pluginPayload plugin.id .external) _⟩
      simp [registerPlugin, present, holds, key, table, taken, withExternals,
        Table.store_of_not_holds taken]

/-- The first plugin ends the load, or it is registered if it is a candidate and its id is free. -/
theorem registerLoaded_cons {handle : Nat} {plugin : Plugin}
    (present : state.plugin? handle = some plugin) (rest : List Nat) :
    (∃ fault, plugin.fault? = some fault ∧
      state.registerLoaded (handle :: rest) = (state, .error fault)) ∨
    plugin.fault? = none ∧ ∃ next,
      state.registerLoaded (handle :: rest) = next.registerLoaded rest ∧
        Unmoved
          (state.withExternals
            (Table.extend state.registered.external (candidates handle [plugin]))) next := by
  have still (none : candidates handle [plugin] = []) :
      Unmoved
        (state.withExternals
          (Table.extend state.registered.external (candidates handle [plugin]))) state := by
    rw [none, Table.extend_nil_right, withExternals_self]
    exact .refl state
  rw [registerLoaded, qualifies_eq present]
  unfold Plugin.fault?
  cases checked : plugin.check with
  | error fault =>
      have invalid : ¬ plugin.IsValid := by
        simp [Plugin.IsValid, checked, Except.isOk, Except.toBool]
      cases tolerated : fault.isTolerated with
      | false => exact .inl ⟨fault, by simp [tolerated], by simp [tolerated]⟩
      | true =>
          refine .inr ⟨by simp [tolerated], state, by simp [tolerated], still ?_⟩
          simp [candidates, invalid]
  | ok commands =>
      have valid : plugin.IsValid := by simp [Plugin.IsValid, checked, Except.isOk, Except.toBool]
      cases holds : plugin.id.holds with
      | false =>
          refine .inr ⟨by simp, state, ?_, still (by simp [candidates, holds])⟩
          simp [registerPlugin, present, holds]
      | true =>
          cases key : plugin.id.isKey with
          | false =>
              refine .inl ⟨.notAKey plugin.id.kind, by simp, ?_⟩
              simp [registerPlugin, present, holds, key]
          | true =>
              obtain ⟨next, accepted, registers, unmoved⟩ :=
                registerPlugin_of_isKey present holds key
              have candidate : candidates handle [plugin] = [(plugin.id, handle)] := by
                simp [candidates, valid, holds]
              rw [candidate]
              exact .inr ⟨by simp, next, by simp [registers], unmoved⟩

/-- The plugins before the first one at fault are registered, each id once. -/
theorem registerLoaded_ends {front created : List Plugin}
    (plugins : state.plugins = front ++ created) :
    ∃ after,
      state.registerLoaded (List.range' front.length created.length) =
        (after,
          match created.findSome? Plugin.fault? with
          | none => .ok ()
          | some fault => .error fault) ∧
      Unmoved
        (state.withExternals
          (Table.extend state.registered.external (candidates front.length (beforeFault created))))
        after := by
  induction created generalizing front state with
  | nil =>
      refine ⟨state, rfl, ?_⟩
      rw [beforeFault, List.takeWhile_nil, candidates, Table.extend_nil_right, withExternals_self]
      exact .refl state
  | cons plugin rest induction =>
      have present : state.plugin? front.length = some plugin := by
        rw [plugin?, plugins]
        simp
      rw [List.length_cons, List.range'_succ, List.findSome?_cons, beforeFault, List.takeWhile_cons]
      rcases registerLoaded_cons present (List.range' (front.length + 1) rest.length) with
        ⟨fault, faulty, ended⟩ | ⟨harmless, next, goes, first⟩
      · refine ⟨state, by rw [ended, faulty], ?_⟩
        rw [faulty, Option.isNone_some, if_neg Bool.false_ne_true, candidates,
          Table.extend_nil_right, withExternals_self]
        exact .refl state
      · have grown : next.plugins = (front ++ [plugin]) ++ rest := by
          rw [first.plugins, List.append_assoc]
          exact plugins
        have external : next.registered.external =
            Table.extend state.registered.external (candidates front.length [plugin]) := by
          rw [first.registered]
          rfl
        obtain ⟨after, ended, others⟩ := induction grown
        rw [List.length_append, List.length_singleton] at ended others
        refine ⟨after, by rw [goes, ended, harmless], ?_⟩
        rw [external, Table.extend_append, ← candidates_cons] at others
        rw [harmless, Option.isNone_none, if_pos rfl]
        exact (unmoved_withExternals first _).trans others

end Dispatcher

end ChatDispatch
