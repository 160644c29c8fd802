import ChatDispatch.Proofs.FileTree
import ChatDispatch.Proofs.ModelStore
import ChatDispatch.Proofs.Settings.Precedence

/-!
# Saved settings are loaded again

Settings are saved to one of the files that they were merged from, or to one that is named.  No
file above it could be read, and what the files below it say is in the saved settings already.
So the settings that are loaded afterwards are those that were saved, and a model that was
switched to is still the active one.
-/

namespace ChatDispatch.Settings

open FileTree

/-- The explicit file, if there is one, is none of the default ones. -/
def IsApart (tree : FileTree) (project explicit : Option String) : Prop :=
  ∀ path, explicitPath tree explicit = .ok (some path) →
    path.location ∉ (candidatePaths fileName project none).map FilePath.location

/-- The candidates that settings can be loaded from, and the explicit one among them. -/
structure Loads (tree : FileTree) (project explicit : Option String) (given : Option FilePath)
    (candidates : List Location) : Prop where
  expanded : explicitPath tree explicit = .ok given
  named : roles tree project explicit = .ok candidates
  canLook : CanLook tree (distinct candidates)

/-- Where settings are saved to: what is above it among the candidates could not be read, and
it is the explicit file, if there is one. -/
structure Placed (tree : FileTree) (given : Option FilePath) (candidates : List Location)
    (lower : List Location) (target : Location) (higher : List Location) : Prop where
  parts : distinct candidates = lower ++ target :: higher
  silent : ∀ location ∈ higher, mapping? tree location = none
  explicit : ∀ path, given = some path → path.location = target

variable {tree before after : FileTree} {target : Location} {project explicit : Option String}
  {candidates : List Location} {settings : Settings}

theorem eq_map_of_resolveAll {paths : List FilePath} {locations : List Location}
    (resolved : resolveAll paths = .ok locations) :
    locations = paths.map FilePath.location := by
  induction paths generalizing locations with
  | nil => exact (Except.ok.inj resolved).symm
  | cons path rest induction =>
      rw [resolveAll] at resolved
      split at resolved
      · cases resolved
      · rename_i location here
        have own : location = path.location := by
          unfold FilePath.resolve at here
          split at here
          · cases here
          · exact (Except.ok.inj here).symm
        cases later : resolveAll rest with
        | error fault =>
            rw [later] at resolved
            cases resolved
        | ok others =>
            rw [later] at resolved
            rw [← Except.ok.inj resolved, own, induction later]
            rfl

theorem Loads.candidates_eq {given : Option FilePath}
    (loads : Loads tree project explicit given candidates) :
    candidates = (candidatePaths fileName project given).map FilePath.location := by
  have named := loads.named
  rw [roles, loads.expanded] at named
  exact eq_map_of_resolveAll named

theorem Loads.load_eq {given : Option FilePath}
    (loads : Loads tree project explicit given candidates) :
    load tree project explicit =
      .ok (addressed given ((distinct candidates).foldl (absorb tree) ⟨[], none⟩)) := by
  obtain ⟨own, expanded, load⟩ := load_of_roles tree loads.named
  obtain rfl := Except.ok.inj (expanded.symm.trans loads.expanded)
  rw [load, mergeAll_of_canLook loads.canLook]
  rfl

theorem exists_loads (loaded : load tree project explicit = .ok settings) :
    ∃ given candidates, Loads tree project explicit given candidates := by
  cases expanded : explicitPath tree explicit with
  | error fault =>
      rw [load, expanded] at loaded
      cases loaded
  | ok given =>
      cases resolved : resolveAll (candidatePaths fileName project given) with
      | error fault =>
          rw [load, expanded] at loaded
          dsimp only at loaded
          rw [Settings.candidates, resolved] at loaded
          cases loaded
      | ok candidates =>
          have named : roles tree project explicit = .ok candidates := by
            rw [roles, expanded]
            exact resolved
          obtain ⟨own, -, load⟩ := load_of_roles tree named
          rw [load] at loaded
          cases merged : mergeAll tree ⟨[], none⟩ (distinct candidates) with
          | error fault =>
              rw [merged] at loaded
              cases loaded
          | ok settings =>
              exact ⟨given, candidates, expanded, named, canLook_of_mergeAll merged⟩

theorem normal_of_explicitPath {path : FilePath}
    (expanded : explicitPath tree explicit = .ok (some path)) : path.start.Normal := by
  unfold explicitPath at expanded
  split at expanded
  · cases expanded
  · rename_i text _
    cases read : FilePath.ofHomeText tree.accounts text with
    | error fault =>
        rw [read] at expanded
        cases expanded
    | ok own =>
        rw [read] at expanded
        obtain rfl := Option.some.inj (Except.ok.inj expanded)
        exact FilePath.normal_ofHomeText read

theorem Loads.normal {given : Option FilePath}
    (loads : Loads tree project explicit given candidates) :
    ∀ location ∈ candidates, location.Normal := by
  intro location member
  rw [loads.candidates_eq] at member
  obtain ⟨path, among, rfl⟩ := List.mem_map.mp member
  apply FilePath.normal_location
  simp only [candidatePaths, List.mem_append, List.mem_singleton, Option.mem_toList] at among
  rcases among with ((rfl | inProject) | rfl) | rfl
  · rfl
  · obtain ⟨text, -, rfl⟩ := Option.map_eq_some_iff.mp inProject
    exact FilePath.normal_ofText text
  · rfl
  · exact normal_of_explicitPath loads.expanded

/-- The settings remember the last candidate that could be read. -/
theorem exists_last_of_file {locations : List Location} {path : FilePath}
    (filed : (locations.foldl (absorb tree) ⟨[], none⟩).file = some path) :
    ∃ lower target higher, locations = lower ++ target :: higher ∧ path = .ofLocation target ∧
      ∀ location ∈ higher, mapping? tree location = none := by
  induction locations using List.reverseRecOn with
  | nil => cases filed
  | append_singleton rest last induction =>
      rw [List.foldl_append, List.foldl_cons, List.foldl_nil, absorb] at filed
      cases read : mapping? tree last with
      | none =>
          rw [read] at filed
          obtain ⟨lower, target, higher, rfl, same, silent⟩ := induction filed
          refine ⟨lower, target, higher ++ [last], by simp, same, ?_⟩
          intro location member
          rcases List.mem_append.mp member with earlier | isLast
          · exact silent location earlier
          · rwa [List.mem_singleton.mp isLast]
      | some entries =>
          rw [read] at filed
          exact ⟨rest, last, [], rfl, (Option.some.inj filed).symm, fun _ member => by cases member⟩

/-- Settings that have a file are saved to one of the candidates. -/
theorem Loads.exists_placed {given : Option FilePath}
    (loads : Loads tree project explicit given candidates) (apart : IsApart tree project explicit)
    {path : FilePath}
    (filed : (addressed given ((distinct candidates).foldl (absorb tree) ⟨[], none⟩)).file =
      some path) :
    ∃ lower target higher, Placed tree given candidates lower target higher ∧
      path = .ofLocation target := by
  cases given with
  | none =>
      obtain ⟨lower, target, higher, parts, same, silent⟩ := exists_last_of_file filed
      exact ⟨lower, target, higher, ⟨parts, silent, fun _ named => by cases named⟩, same⟩
  | some own =>
      let defaults := (candidatePaths fileName project none).map FilePath.location
      have all : candidates = defaults ++ [own.location] := by
        rw [loads.candidates_eq]
        simp [defaults, candidatePaths]
      refine ⟨distinct defaults, own.location, [], ⟨?_, List.forall_mem_nil _, ?_⟩,
        (Option.some.inj filed).symm⟩
      · rw [all, distinct_append_singleton, if_neg (apart own loads.expanded)]
      · exact fun path named => by rw [Option.some.inj named]

theorem nodup_distinct (locations : List Location) : (distinct locations).Nodup := by
  induction locations with
  | nil => exact List.nodup_nil
  | cons first rest induction =>
      refine List.nodup_cons.mpr ⟨?_, induction.filter _⟩
      simp

theorem foldl_absorb_congr {locations : List Location}
    (same : ∀ location ∈ locations, mapping? after location = mapping? before location)
    (settings : Settings) :
    locations.foldl (absorb after) settings = locations.foldl (absorb before) settings := by
  induction locations generalizing settings with
  | nil => rfl
  | cons location rest induction =>
      obtain ⟨here, later⟩ := List.forall_mem_cons.mp same
      have first : absorb after settings location = absorb before settings location := by
        rw [absorb, here, absorb]
      rw [List.foldl_cons, List.foldl_cons, first]
      exact induction later _

theorem foldl_absorb_silent {locations : List Location}
    (silent : ∀ location ∈ locations, mapping? tree location = none) (settings : Settings) :
    locations.foldl (absorb tree) settings = settings := by
  induction locations with
  | nil => rfl
  | cons location rest induction =>
      obtain ⟨here, later⟩ := List.forall_mem_cons.mp silent
      rw [List.foldl_cons, absorb, here]
      exact induction later

theorem look_of_document {content : Value} (reached : after.reach (.ofLocation target) = .ok target)
    (document : after.node? target = some (.document content)) :
    after.look (.ofLocation target) = .ok (some (target, .document content)) := by
  rw [look, visit, reached]
  dsimp only
  rw [document]

/-- After a save the file has what was saved, and the other candidates are as before. -/
theorem look_of_save {given : Option FilePath} {entries : Entries}
    (loads : Loads tree project explicit given candidates) (candidate : target ∈ candidates)
    (saved : tree.save (.ofLocation target) (.map entries) = .ok after) :
    after.look (.ofLocation target) = .ok (some (target, .document (.map entries))) ∧
      ∀ location ∈ candidates, location ≠ target →
        after.look (.ofLocation location) = tree.look (.ofLocation location) := by
  obtain ⟨reached, differ, document⟩ := differAt_save (loads.normal target candidate) saved
  have reachedAfter : after.reach (.ofLocation target) = .ok target := by
    rcases reach_of_differAt differ (.ofLocation target) with same | ⟨failed, -⟩
    · rw [same, reached]
    · cases reached.symm.trans failed
  refine ⟨look_of_document reachedAfter document, fun location member other => ?_⟩
  exact look_of_differAt differ (by rwa [loads.normal location member])

theorem explicitPath_of_save {path : FilePath} {content : Value}
    (saved : tree.save path content = .ok after) (explicit : Option String) :
    explicitPath after explicit = explicitPath tree explicit := by
  rw [explicitPath, accounts_save saved, explicitPath]

theorem roles_of_save {path : FilePath} {content : Value}
    (saved : tree.save path content = .ok after) (project explicit : Option String) :
    roles after project explicit = roles tree project explicit := by
  rw [roles, explicitPath_of_save saved, roles]

theorem Loads.of_save {given : Option FilePath} {entries : Entries}
    (loads : Loads tree project explicit given candidates) (candidate : target ∈ candidates)
    (saved : tree.save (.ofLocation target) (.map entries) = .ok after) :
    Loads after project explicit given candidates := by
  obtain ⟨looked, others⟩ := look_of_save loads candidate saved
  refine ⟨(explicitPath_of_save saved explicit).trans loads.expanded,
    (roles_of_save saved project explicit).trans loads.named, fun location member => ?_⟩
  by_cases here : location = target
  · rw [here, looked]
    exact fun failed => by cases failed
  · rw [others location (mem_distinct.mp member) here]
    exact loads.canLook location member

/-- What is saved is loaded again, if it has the keys of the files below in their order. -/
theorem load_of_save {given : Option FilePath} {lower higher : List Location} {entries : Entries}
    (loads : Loads tree project explicit given candidates)
    (placed : Placed tree given candidates lower target higher)
    (distinct : Table.Distinct entries)
    (keys : ∃ more, entries.map (·.1) =
      (lower.foldl (absorb tree) ⟨[], none⟩).data.map (·.1) ++ more)
    (saved : tree.save (.ofLocation target) (.map entries) = .ok after) :
    load after project explicit = .ok { data := entries, file := some (.ofLocation target) } := by
  obtain ⟨more, keys⟩ := keys
  have among : ∀ location ∈ lower ++ target :: higher, location ∈ candidates := by
    intro location member
    rwa [← placed.parts, mem_distinct] at member
  have candidate := among target (by simp)
  obtain ⟨looked, others⟩ := look_of_save loads candidate saved
  have own : mapping? after target = some entries := by
    rw [mapping?, looked]
    rfl
  have same {location : Location} (member : location ∈ candidates) (other : location ≠ target) :
      mapping? after location = mapping? tree location := by
    rw [mapping?, others location member other, mapping?]
  have unique := nodup_distinct candidates
  rw [placed.parts] at unique
  obtain ⟨-, uniqueRest, apart⟩ := List.nodup_append.mp unique
  have below : lower.foldl (absorb after) ⟨[], none⟩ = lower.foldl (absorb tree) ⟨[], none⟩ := by
    refine foldl_absorb_congr (fun location member => ?_) _
    exact same (among location (by simp [member])) fun here =>
      apart location member target List.mem_cons_self here
  have above : ∀ location ∈ higher, mapping? after location = none := by
    intro location member
    rw [same (among location (by simp [member])) fun here =>
      (List.nodup_cons.mp uniqueRest).1 (here ▸ member)]
    exact placed.silent location member
  rw [(loads.of_save candidate saved).load_eq, placed.parts, List.foldl_append, List.foldl_cons,
    below, foldl_absorb_silent above, absorb, own]
  dsimp only
  rw [Table.update_of_keys distinct keys]
  cases given with
  | none => rfl
  | some path => rw [addressed, placed.explicit path rfl]

theorem distinct_foldl_absorb {locations : List Location}
    (distinct : Table.Distinct settings.data) :
    Table.Distinct (locations.foldl (absorb tree) settings).data := by
  induction locations generalizing settings with
  | nil => exact distinct
  | cons location rest induction =>
      refine induction ?_
      unfold absorb
      split
      · exact distinct
      · exact Table.distinct_update distinct _

theorem exists_keys_absorb (tree : FileTree) (settings : Settings) (location : Location) :
    ∃ more, (absorb tree settings location).data.map (·.1) =
      settings.data.map (·.1) ++ more := by
  unfold absorb
  split
  · exact ⟨[], (List.append_nil _).symm⟩
  · exact Table.exists_keys_update _ _

theorem differAt_of_save (loaded : load tree project explicit = .ok settings)
    (apart : IsApart tree project explicit) {path : FilePath} (filed : settings.file = some path)
    {content : Value} (saved : tree.save path content = .ok after) :
    DifferAt path.location tree after := by
  obtain ⟨given, candidates, loads⟩ := exists_loads loaded
  obtain rfl := Except.ok.inj (loaded.symm.trans loads.load_eq)
  obtain ⟨lower, target, higher, placed, rfl⟩ := loads.exists_placed apart filed
  have normal : target.Normal := loads.normal target (mem_distinct.mp (by simp [placed.parts]))
  rw [normal]
  exact (differAt_save normal saved).2.1

/-- Loaded settings in which an entry was stored, and which were saved, are loaded again. -/
theorem load_of_store (loaded : load tree project explicit = .ok settings)
    (apart : IsApart tree project explicit) {path : FilePath} (filed : settings.file = some path)
    (key : Key) (value : Value)
    (saved : tree.save path (.map (Table.store key value settings.data)) = .ok after) :
    load after project explicit =
      .ok { settings with data := Table.store key value settings.data } := by
  obtain ⟨given, candidates, loads⟩ := exists_loads loaded
  obtain rfl := Except.ok.inj (loaded.symm.trans loads.load_eq)
  obtain ⟨lower, target, higher, placed, rfl⟩ := loads.exists_placed apart filed
  rw [data_addressed] at saved
  rw [filed, data_addressed]
  refine load_of_save loads placed ?_ ?_ saved
  · exact Table.distinct_store (distinct_foldl_absorb Table.distinct_nil) key value
  · obtain ⟨more, merged⟩ := exists_keys_absorb tree
      (lower.foldl (absorb tree) ⟨[], none⟩) target
    rw [placed.parts, List.foldl_append, List.foldl_cons, foldl_absorb_silent placed.silent,
      Table.keys_store, merged, List.append_assoc]
    exact ⟨_, rfl⟩

end ChatDispatch.Settings

namespace ChatDispatch.Model

open FileTree

variable {before after : FileTree} {target : Location}

/-- No listed file is the one at a location. -/
def Unlisted (target : Location) (listed : Value) : Prop :=
  ∀ items, Declaration.itemsOf listed = .ok items →
    ∀ text, Value.text text ∈ items → (FilePath.ofText text).location ≠ target

theorem mergeFile_of_differAt (differ : DifferAt target before after) {text : String}
    (apart : (FilePath.ofText text).location ≠ target) (models : List Model) :
    mergeFile after models text = mergeFile before models text := by
  rw [mergeFile, existing?_of_differAt differ apart, mergeFile]

theorem mergeFiles_of_differAt (differ : DifferAt target before after) {items : List Value}
    (apart : ∀ text, Value.text text ∈ items → (FilePath.ofText text).location ≠ target)
    (models : List Model) : mergeFiles after models items = mergeFiles before models items := by
  induction items generalizing models with
  | nil => rfl
  | cons item rest induction =>
      have later (models : List Model) :
          mergeFiles after models rest = mergeFiles before models rest :=
        induction (fun text member => apart text (List.mem_cons_of_mem _ member)) models
      cases item with
      | text text =>
          rw [mergeFiles, mergeFile_of_differAt differ (apart text List.mem_cons_self), mergeFiles]
          split
          · rfl
          · rw [later]
      | _ =>
          unfold mergeFiles
          split
          · rfl
          · rfl
          · exact later models

theorem withListed_of_differAt (differ : DifferAt target before after) {listed : Value}
    (unlisted : Unlisted target listed) : withListed after listed = withListed before listed := by
  unfold withListed
  cases items : Declaration.itemsOf listed with
  | error fault => rfl
  | ok paths =>
      dsimp only
      rw [mergeFiles_of_differAt differ (unlisted paths items)]

end ChatDispatch.Model

namespace ChatDispatch.ModelStore

theorem find?_filesSetting_store (name : Value) (entries : Entries) :
    Nested.find? filesSetting (Table.store (Key.text activeSetting) name entries) =
      Nested.find? filesSetting entries := by
  have spelled : Nested.spellings filesSetting =
      ["model-settings-files", "model_settings_files"] := by decide
  have kept {spelling : String} (apart : activeSetting ≠ spelling) :
      Table.lookup (Key.text spelling) (Table.store (Key.text activeSetting) name entries) =
        Table.lookup (Key.text spelling) entries := by
    refine Table.lookup_store_of_ne ?_ name entries
    rw [Key.beq_text]
    exact beq_eq_false_iff_ne.mpr apart
  unfold Nested.find?
  rw [spelled]
  simp only [List.findSome?_cons, List.findSome?_nil]
  rw [kept (by decide), kept (by decide)]

theorem get_filesSetting_set (settings : Settings) (name default : Value) :
    (settings.set activeSetting name).get [filesSetting] default =
      settings.get [filesSetting] default := by
  have alone : Nested.segments filesSetting = [filesSetting] := by decide
  have followed : Nested.follow [filesSetting] (.map (settings.set activeSetting name).data) =
      Nested.follow [filesSetting] (.map settings.data) := by
    rw [Nested.follow, Nested.select, set_activeSetting, find?_filesSetting_store]
    rfl
  have first : Nested.readFirst (.map (settings.set activeSetting name).data) [filesSetting] =
      Nested.readFirst (.map settings.data) [filesSetting] := by
    unfold Nested.readFirst
    rw [alone, followed]
    rfl
  exact congrArg (Except.map fun found => found.getD default) first

theorem models_of_ofModels {settings : Settings} {models : List Model} {store : ModelStore}
    (built : ofModels settings models = .ok store) : store.models = models := by
  unfold ofModels at built
  cases active : settings.get [activeSetting] .null with
  | error fault =>
      rw [active] at built
      cases built
  | ok value =>
      rw [active] at built
      rw [← Except.ok.inj built]

/-- After a restart the settings are those that a switch has saved, unless the explicit file is
one of the default ones.  A new store begins with the model that was switched to.  If it reads
listed files, which could be read before, the file of the settings must not be among them. -/
theorem switch_survives {tree : FileTree} {project explicit : Option String} {settings : Settings}
    (loaded : Settings.load tree project explicit = .ok settings)
    (apart : Settings.IsApart tree project explicit) {path : FilePath}
    (filed : settings.file = some path) {store : ModelStore} {name answer : Value}
    (done : (store.switch settings tree name true).outcome = .ok answer) :
    let switched := store.switch settings tree name true
    Settings.load switched.files project explicit = .ok switched.settings ∧
      (∀ models, ofModels switched.settings models =
        .ok { models, active := name, isEntry := true }) ∧
      ∀ former listed, settings.get [filesSetting] (.list []) = .ok listed →
        ofSettings tree settings = .ok former → Model.Unlisted path.location listed →
          ofSettings switched.files switched.settings =
            .ok { former with active := name, isEntry := true } := by
  obtain ⟨holds, left, saved, written⟩ := exists_save_of_switch done
  rw [switch_of_save holds written]
  dsimp only
  have noted : Table.lookup (Key.text activeSetting) (settings.set activeSetting name).data =
      some name := by
    rw [set_activeSetting]
    exact Table.lookup_store_self _ _ _
  have begins := ofModels_of_noted holds noted
  have put : tree.save path (.map (Table.store (Key.text activeSetting) name settings.data)) =
      .ok left := by
    rw [set_activeSetting, Settings.save, filed] at written
    dsimp only at written
    cases put : tree.save path (.map (Table.store (Key.text activeSetting) name settings.data)) with
    | error fault =>
        rw [put] at written
        cases written
    | ok own =>
        rw [put] at written
        rw [(Prod.mk.inj (Except.ok.inj written)).1]
  refine ⟨?_, begins, ?_⟩
  · rw [set_activeSetting]
    exact Settings.load_of_store loaded apart filed _ _ put
  · intro former listed files built unlisted
    have differ := Settings.differAt_of_save loaded apart filed put
    rw [ofSettings, files] at built
    dsimp only at built
    rw [ofSettings, get_filesSetting_set, files]
    dsimp only
    rw [Model.withListed_of_differAt differ unlisted]
    cases read : Model.withListed tree listed with
    | error fault =>
        rw [read] at built
        cases built
    | ok models =>
        rw [read] at built
        dsimp only at built ⊢
        rw [begins models, models_of_ofModels built]

/-- Settings at home that list the file of another model list. -/
def listingLayout : FileTree :=
  { nodes :=
      [(Location.home ++ [Settings.fileName],
        .document (.map [(.text filesSetting, .list [.text "mine.yml"]), (.text "a", .int 1)]))]
    accounts := [] }

theorem isApart_of_location {tree : FileTree} {project explicit : Option String} (own : FilePath)
    (expanded : Settings.explicitPath tree explicit = .ok (some own))
    (apart : own.location ∉
      (Settings.candidatePaths Settings.fileName project none).map FilePath.location) :
    Settings.IsApart tree project explicit := by
  intro path other
  obtain rfl := Option.some.inj (Except.ok.inj (expanded.symm.trans other))
  exact apart

/-- What is loaded from there when a file is named that does not exist. -/
def ownSettings : Settings :=
  { data := [(.text filesSetting, .list [.text "mine.yml"]), (.text "a", .int 1)]
    file := some (.ofLocation (Location.home ++ ["own.yml"])) }

def ownStore : ModelStore :=
  { models := Model.bundled
    active := (Model.bundled.head?.map (·.name)).getD .null
    isEntry := false }

/-- A switch that makes a new file survives, with all that was at home. -/
theorem switch_survives_in_new_file :
    let switched := ownStore.switch ownSettings listingLayout (.text "m") true
    Settings.load listingLayout none (some "~/own.yml") = .ok ownSettings ∧
      ofSettings listingLayout ownSettings = .ok ownStore ∧
      switched.outcome = .ok (.text "m") ∧
      Settings.load switched.files none (some "~/own.yml") = .ok switched.settings ∧
      ofSettings switched.files switched.settings =
        .ok { ownStore with active := .text "m", isEntry := true } := by
  have loaded : Settings.load listingLayout none (some "~/own.yml") = .ok ownSettings := rfl
  have built : ofSettings listingLayout ownSettings = .ok ownStore := rfl
  have done : (ownStore.switch ownSettings listingLayout (.text "m") true).outcome =
      .ok (.text "m") := rfl
  have apart : Settings.IsApart listingLayout none (some "~/own.yml") :=
    isApart_of_location ⟨Location.home, ["own.yml"]⟩ rfl (by decide)
  have unlisted : Model.Unlisted (Location.home ++ ["own.yml"]) (.list [.text "mine.yml"]) := by
    intro items listed text member
    obtain rfl := Except.ok.inj listed
    obtain rfl := Value.text.inj (List.mem_singleton.mp member)
    decide
  obtain ⟨reloaded, -, again⟩ := switch_survives loaded apart rfl done
  exact ⟨loaded, built, done, reloaded, again ownStore _ rfl built unlisted⟩

/-- A settings file that is listed as a model list is no list any more once it is saved. -/
theorem switch_breaks_listed_file :
    ∃ settings store, Settings.load listingLayout none (some "mine.yml") = .ok settings ∧
      Settings.IsApart listingLayout none (some "mine.yml") ∧
      ofSettings listingLayout settings = .ok store ∧
      (let switched := store.switch settings listingLayout (.text "m") true
      switched.outcome = .ok (.text "m") ∧
        Settings.load switched.files none (some "mine.yml") = .ok switched.settings ∧
        ∃ fault, ofSettings switched.files switched.settings = .error fault) := by
  have apart : Settings.IsApart listingLayout none (some "mine.yml") :=
    isApart_of_location ⟨Location.work, ["mine.yml"]⟩ rfl (by decide)
  exact ⟨_, _, rfl, apart, rfl, rfl, rfl, _, rfl⟩

end ChatDispatch.ModelStore
