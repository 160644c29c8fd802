import ChatDispatch.Proofs.Dispatcher.FrontEnd
import ChatDispatch.Proofs.ScriptFile

/-!
# What a load replaces the external plugins by

Which plugins the scripts under some paths offer can be told from the files and the cached modules
as they are before the load: scripts that are loaded do not change what the others offer.  A load
creates the offered plugins with new numbers for their callables, and puts those that are valid in
the place of the external plugins, the first one of each id.

All external plugins are removed at the beginning, and a load stops at the first fault that is not
one of those it puts up with.  Then nothing is put back.
-/

namespace ChatDispatch

/-- The plugin that a script makes, if it has a factory that succeeds. -/
def Script.offered? : Script → Option Plugin
  | .factory blueprint _ _ none => blueprint.build.toOption
  | _ => none

namespace Loading

variable {reload : Bool} {files : FileTree} {script : ScriptFile}

/-- A script makes what its content offers, and changes no contents. -/
theorem script_makes_offered (loading : Loading) (reload : Bool) (files : FileTree)
    (proper : script.IsProper) :
    ∃ made,
      (loading.script reload files script).created = loading.created ++ made ∧
        List.Forall₂ Plugin.Renumbers
          ((loading.modules.content? files reload script.place).bind Script.offered?).toList made ∧
        ∀ place, (loading.script reload files script).modules.content? files reload place =
          loading.modules.content? files reload place := by
  obtain ⟨content, kept⟩ := ModuleCache.content?_load loading.modules files reload proper
  unfold Loading.script
  rcases came : loading.modules.load script.location script.source none reload
    (script.node files) with ⟨modules, fault | module⟩
  · rw [came] at content kept
    rw [← content]
    exact ⟨[], (List.append_nil _).symm, .nil, kept⟩
  · rw [came] at content kept
    rw [← content]
    dsimp only [Except.toOption, Option.map_some, Option.bind_some]
    cases module.content with
    | empty => exact ⟨[], (List.append_nil _).symm, .nil, kept⟩
    | notCallable => exact ⟨[], (List.append_nil _).symm, .nil, kept⟩
    | factory blueprint width importFailure factoryFailure =>
        cases factoryFailure with
        | some failure => exact ⟨[], (List.append_nil _).symm, .nil, kept⟩
        | none =>
            refine ⟨_, rfl, ?_, kept⟩
            dsimp only [Script.offered?]
            rw [Blueprint.build_shift]
            cases blueprint.build with
            | error fault => exact .nil
            | ok plugin => exact .cons ⟨loading.nextCallable, rfl⟩ .nil

theorem scripts_make_offered (loading : Loading) (reload : Bool) (files : FileTree)
    {scripts : List ScriptFile} (proper : ∀ script ∈ scripts, script.IsProper) :
    ∃ made,
      (loading.scripts reload files scripts).created = loading.created ++ made ∧
        List.Forall₂ Plugin.Renumbers
          ((scripts.map (·.place)).filterMap fun place =>
            (loading.modules.content? files reload place).bind Script.offered?) made := by
  induction scripts generalizing loading with
  | nil => exact ⟨[], (List.append_nil _).symm, .nil⟩
  | cons script rest induction =>
      obtain ⟨properFirst, properRest⟩ := List.forall_mem_cons.mp proper
      obtain ⟨made, created, renumbered, kept⟩ :=
        loading.script_makes_offered reload files properFirst
      obtain ⟨others, createdRest, renumberedRest⟩ :=
        induction (loading.script reload files script) properRest
      refine ⟨made ++ others, ?_, ?_⟩
      · rw [scripts, List.foldl_cons]
        exact createdRest.trans (by rw [created, List.append_assoc])
      · simp only [kept] at renumberedRest
        rw [List.map_cons, List.filterMap_cons]
        generalize (loading.modules.content? files reload script.place).bind Script.offered? =
          offers at renumbered ⊢
        cases offers with
        | none => exact List.rel_append renumbered renumberedRest
        | some plugin => exact List.rel_append renumbered renumberedRest

end Loading

namespace Dispatcher

variable {state : Dispatcher} {reload : Bool}

/-- The plugin that the script at a place offers. -/
def offeredAt? (state : Dispatcher) (reload : Bool) (place : Location) : Option Plugin :=
  (state.modules.content? state.files reload place).bind Script.offered?

/-- The plugins that the scripts under some paths offer, one script after the other. -/
def offered (state : Dispatcher) (paths : Value) (reload : Bool) : List Plugin :=
  match state.scriptsUnder paths with
  | .error _ => []
  | .ok scripts => (scripts.map (·.place)).filterMap (state.offeredAt? reload)

/-- Which of the offered plugins a load registers: the first valid one of each id that is not
empty, with its number among the offered ones. -/
def chosen (offered : List Plugin) : List (Value × Nat) :=
  Table.firstOfEach (candidates 0 offered)

/-- A plugin is chosen if it is the first valid one with its id, and this is not empty. -/
theorem mem_chosen_iff {offered : List Plugin} {id : Value} {index : Nat} :
    (id, index) ∈ chosen offered ↔
      ∃ front plugin back, offered = front ++ plugin :: back ∧ index = front.length ∧
        plugin.id = id ∧ plugin.IsValid ∧ id.holds = true ∧
        ∀ other ∈ front, other.IsValid → other.id.holds = true → (other.id == id) = false := by
  rw [chosen, mem_firstOfEach_candidates_iff]
  simp only [Nat.zero_add]

/-- The chosen plugins stand in the order in which they are offered. -/
theorem pairwise_chosen (offered : List Plugin) :
    (chosen offered).Pairwise fun entry later => entry.2 < later.2 :=
  (pairwise_candidates 0 offered).sublist (Table.firstOfEach_sublist _)

theorem chosen_eq_nil_iff {offered : List Plugin} :
    chosen offered = [] ↔ ∀ plugin ∈ offered, plugin.IsValid → plugin.id.holds = false := by
  rw [chosen, Table.firstOfEach_eq_nil_iff, candidates_eq_nil_iff]

/-- Handles for plugins that come after those of a dispatcher. -/
def handlesFor (state : Dispatcher) (numbered : List (Value × Nat)) : List (Value × Nat) :=
  numbered.map fun entry => (entry.1, state.plugins.length + entry.2)

theorem handlesFor_chosen (state : Dispatcher) (offered : List Plugin) :
    state.handlesFor (chosen offered) =
      Table.firstOfEach (candidates state.plugins.length offered) := by
  have shifted := candidates_add state.plugins.length 0 offered
  rw [Nat.add_zero] at shifted
  rw [shifted, Table.firstOfEach_map, handlesFor, chosen]

theorem length_handlesFor (state : Dispatcher) (numbered : List (Value × Nat)) :
    (state.handlesFor numbered).length = numbered.length :=
  List.length_map _

theorem isProper_of_scriptsUnder {paths : Value} {scripts : List ScriptFile}
    (found : state.scriptsUnder paths = .ok scripts) : ∀ script ∈ scripts, script.IsProper := by
  unfold scriptsUnder at found
  cases listed : Declaration.itemsOf (paths.orElse (.list [])) with
  | error fault =>
      rw [listed] at found
      cases found
  | ok items =>
      rw [listed] at found
      obtain ⟨texts, rfl⟩ := ScriptFile.exists_texts_of_underAll found
      exact (ScriptFile.listsAll_of_underAll found).2

/-- A load creates the offered plugins, with numbers of its own for their callables. -/
theorem renumbers_creations (keys : state.IdsAreKeys) (paths : Value) (reload : Bool) :
    List.Forall₂ Plugin.Renumbers (state.offered paths reload) (state.creations paths reload) := by
  have modules : state.unregisterExternals.modules = state.modules := by
    rw [(unmoved_unregisterExternals (keys .external)).frame]
    rfl
  unfold offered creations
  cases found : state.scriptsUnder paths with
  | error fault => exact .nil
  | ok scripts =>
      obtain ⟨made, created, renumbered⟩ :=
        state.unregisterExternals.loading.scripts_make_offered reload state.files
          (isProper_of_scriptsUnder found)
      rw [loading, List.nil_append] at created
      rw [loading, modules] at renumbered
      dsimp only
      rw [loading, created]
      exact renumbered

/-- A load registers the chosen ones of the plugins before the first one at fault, and nothing
else as external.  It fails if the paths are at fault or some plugin is. -/
theorem loadExternal_of_offered (keys : state.IdsAreKeys) (paths : Value) (reload : Bool) :
    (state.loadExternal paths reload).1.registered =
        ⟨state.registered.internal,
          state.handlesFor (chosen (beforeFault (state.offered paths reload)))⟩ ∧
      ((state.loadExternal paths reload).2 =
        (state.scriptsUnder paths).bind fun _ =>
          match (state.offered paths reload).findSome? Plugin.fault? with
          | none => .ok (chosen (state.offered paths reload)).length
          | some fault => .error fault) ∧
      ∀ scripts, state.scriptsUnder paths = .ok scripts →
        ∃ made, List.Forall₂ Plugin.Renumbers (state.offered paths reload) made ∧
          (state.loadExternal paths reload).1.plugins = state.plugins ++ made := by
  have renumbered := renumbers_creations keys paths reload
  rcases loadExternal_ends (keys .external) paths reload with
    ⟨fault, after, missed, ended, registered⟩ |
      ⟨scripts, after, found, ended, plugins, registered⟩
  · have nothing : state.offered paths reload = [] := by rw [offered, missed]
    rw [ended, missed, nothing]
    exact ⟨registered, rfl, nofun⟩
  · rw [candidates_of_renumbers (beforeFault_of_renumbers renumbered), ← handlesFor_chosen]
      at registered
    rw [ended, found]
    refine ⟨registered, ?_, fun _ _ => ⟨_, renumbered, plugins⟩⟩
    dsimp only [Except.bind]
    rw [findSome?_fault?_of_renumbers renumbered]
    cases faults : (state.offered paths reload).findSome? Plugin.fault? with
    | some fault => rfl
    | none =>
        rw [List.findSome?_eq_none_iff] at faults
        rw [registered, length_handlesFor, beforeFault_eq_self_iff.mpr faults]

theorem loadExternal_ok_iff (keys : state.IdsAreKeys) {paths : Value} {count : Nat} :
    (state.loadExternal paths reload).2 = .ok count ↔
      (∃ scripts, state.scriptsUnder paths = .ok scripts) ∧
        (∀ plugin ∈ state.offered paths reload, plugin.fault? = none) ∧
          count = (chosen (state.offered paths reload)).length := by
  rw [(loadExternal_of_offered keys paths reload).2.1, ← List.findSome?_eq_none_iff]
  cases state.scriptsUnder paths with
  | error fault => exact ⟨nofun, fun ⟨⟨_, found⟩, _⟩ => nomatch found⟩
  | ok scripts =>
      dsimp only [Except.bind]
      cases (state.offered paths reload).findSome? Plugin.fault? with
      | some fault => exact ⟨nofun, fun ⟨_, harmless, _⟩ => nomatch harmless⟩
      | none =>
          refine ⟨fun counted => ⟨⟨scripts, rfl⟩, rfl, (Except.ok.inj counted).symm⟩, ?_⟩
          rintro ⟨-, -, rfl⟩
          rfl

/-- What a load puts in the place of the external plugins. -/
structure Replaces (before : Dispatcher) (offered : List Plugin) (after : Dispatcher) : Prop where
  internal : after.registered.internal = before.registered.internal
  external : after.registered.external = before.handlesFor (chosen offered)
  plugins : ∃ made, List.Forall₂ Plugin.Renumbers offered made ∧
    after.plugins = before.plugins ++ made

theorem replaces_of_ok (keys : state.IdsAreKeys) {paths : Value} {count : Nat}
    (loaded : (state.loadExternal paths reload).2 = .ok count) :
    Replaces state (state.offered paths reload) (state.loadExternal paths reload).1 := by
  obtain ⟨registered, -, plugins⟩ := loadExternal_of_offered keys paths reload
  obtain ⟨⟨scripts, found⟩, harmless, -⟩ := (loadExternal_ok_iff keys).mp loaded
  rw [beforeFault_eq_self_iff.mpr harmless] at registered
  refine ⟨?_, ?_, plugins scripts found⟩
  · rw [registered]
  · rw [registered]

def pathList (texts : List String) : Value :=
  .list (texts.map .text)

theorem scriptsUnder_pathList (state : Dispatcher) (texts : List String) :
    state.scriptsUnder (pathList texts) =
      ScriptFile.underAll state.files (texts.map .text) := by
  rw [scriptsUnder, pathList, Value.orElse]
  cases texts <;> rfl

theorem exists_scriptsUnder_pathList_iff {texts : List String} :
    (∃ scripts, state.scriptsUnder (pathList texts) = .ok scripts) ↔
      ∀ text ∈ texts, ScriptFile.Searchable state.files text := by
  rw [scriptsUnder_pathList]
  exact ScriptFile.exists_underAll_iff

theorem offered_pathList {texts : List String}
    (searchable : ∀ text ∈ texts, ScriptFile.Searchable state.files text) :
    ∃ places, ScriptFile.ListsAll state.files texts places ∧
      state.offered (pathList texts) reload = places.filterMap (state.offeredAt? reload) := by
  obtain ⟨scripts, found⟩ := exists_scriptsUnder_pathList_iff.mpr searchable
  refine ⟨scripts.map (·.place), ?_, by rw [offered, found]⟩
  rw [scriptsUnder_pathList] at found
  exact (ScriptFile.listsAll_of_underAll found).1

theorem scriptsUnder_congr {other : Dispatcher} (files : other.files = state.files)
    (paths : Value) : other.scriptsUnder paths = state.scriptsUnder paths := by
  rw [scriptsUnder, files, scriptsUnder]

theorem offered_congr {other : Dispatcher} (files : other.files = state.files)
    (modules : other.modules = state.modules) (paths : Value) (reload : Bool) :
    other.offered paths reload = state.offered paths reload := by
  have each : other.offeredAt? reload = state.offeredAt? reload := by
    funext place
    rw [offeredAt?, files, modules, offeredAt?]
  rw [offered, scriptsUnder_congr files, each, offered]

/-- A load under a list of paths, whose plugins can be read or fail only as loads put up with,
goes well exactly if all paths can be searched and the ids of all valid plugins can be keys.  Then
the external plugins are the first valid ones of each id that the scripts offer, in the order of
the scripts, and their number is given.  What was registered before does not matter. -/
theorem loadExternal_replaces_iff (keys : state.IdsAreKeys) (texts : List String) (reload : Bool)
    (mild : ∀ plugin ∈ state.offered (pathList texts) reload, plugin.IsMild) :
    let offered := state.offered (pathList texts) reload
    let loads := state.loadExternal (pathList texts) reload
    ((∃ count, loads.2 = .ok count) ↔
      (∀ text ∈ texts, ScriptFile.Searchable state.files text) ∧
        ∀ plugin ∈ offered, plugin.IsValid → plugin.id.holds = true → plugin.id.isKey = true) ∧
    (∀ count, loads.2 = .ok count →
      (∃ places, ScriptFile.ListsAll state.files texts places ∧
        offered = places.filterMap (state.offeredAt? reload)) ∧
      Replaces state offered loads.1 ∧ count = loads.1.registered.external.length) ∧
    ∀ other : Dispatcher, other.files = state.files → other.modules = state.modules →
      other.IdsAreKeys →
        let reloads := other.loadExternal (pathList texts) reload
        other.offered (pathList texts) reload = offered ∧ reloads.2 = loads.2 ∧
          ∃ numbered, loads.1.registered.external = state.handlesFor numbered ∧
            reloads.1.registered.external = other.handlesFor numbered := by
  intro offered loads
  have harmless : (∀ plugin ∈ offered, plugin.fault? = none) ↔
      ∀ plugin ∈ offered, plugin.IsValid → plugin.id.holds = true → plugin.id.isKey = true :=
    forall₂_congr fun plugin member => Plugin.fault?_eq_none_iff_of_isMild (mild plugin member)
  refine ⟨?succeeds, fun count loaded => ?replaces, fun other files modules otherKeys => ?anew⟩
  case succeeds =>
    rw [← exists_scriptsUnder_pathList_iff, ← harmless]
    constructor
    · rintro ⟨count, loaded⟩
      obtain ⟨found, unharmed, -⟩ := (loadExternal_ok_iff keys).mp loaded
      exact ⟨found, unharmed⟩
    · rintro ⟨found, unharmed⟩
      exact ⟨_, (loadExternal_ok_iff keys).mpr ⟨found, unharmed, rfl⟩⟩
  case replaces =>
    obtain ⟨found, -, counted⟩ := (loadExternal_ok_iff keys).mp loaded
    have replaces := replaces_of_ok keys loaded
    refine ⟨offered_pathList (exists_scriptsUnder_pathList_iff.mp found), replaces, ?_⟩
    rw [counted, replaces.external, length_handlesFor]
  case anew =>
    intro reloads
    have same := offered_congr files modules (pathList texts) reload
    obtain ⟨registered, outcome, -⟩ := loadExternal_of_offered keys (pathList texts) reload
    obtain ⟨otherRegistered, otherOutcome, -⟩ :=
      loadExternal_of_offered otherKeys (pathList texts) reload
    rw [same, scriptsUnder_congr files] at otherOutcome
    rw [same] at otherRegistered
    refine ⟨same, otherOutcome.trans outcome.symm, chosen (beforeFault offered), ?_, ?_⟩
    · rw [registered]
    · rw [otherRegistered]

/-- A script of a plugin that declares one command, if listing it does not fail. -/
def sampleScript (id : Value) (fields : Entries) (listing : Option Fault)
    (importFailure factoryFailure : Option String) : FileNode :=
  let traits : PluginTraits :=
    { id
      name := .text ""
      description := .text ""
      requiresReady := .bool false
      notice := none
      offers := [.declared (.mapping fields)] }
  let conduct : ForeignConduct := ⟨listing, none, fun name _ => .ok name⟩
  .script (.factory (.foreign (.bool true) (.bool true) conduct traits) 0 importFailure
    factoryFailure)

/-- A directory of scripts, few of which give a plugin that can be registered, some scripts beside
it, and an external plugin that has been registered before. -/
def sampleShelf : Dispatcher :=
  let named : Entries := [(.text "name", .text "add")]
  let shelf := Location.work ++ ["shelf"]
  let former : Plugin :=
    { id := .text "notes"
      name := .text "former"
      description := .text ""
      enabled := .bool true
      ready := .bool true
      requiresReady := .bool false
      notice := none
      body := .managed [] }
  { blank with
    files :=
      { nodes := [
          (shelf, .directory),
          (shelf ++ ["_own.py"], sampleScript (.text "own") named none none none),
          (shelf ++ ["again.py"], sampleScript (.text "notes") named none none none),
          (shelf ++ ["broken.py"], sampleScript (.text "broken") named none (some "import") none),
          (shelf ++ ["empty.py"], .script (.empty "")),
          (shelf ++ ["failing.py"],
            sampleScript (.text "failing") named none none (some "factory")),
          (shelf ++ ["nameless.py"], sampleScript (.text "todo") [] none none none),
          (shelf ++ ["none.py"], .script (.factory (.other .null) 0 none none)),
          (shelf ++ ["notes.py"], sampleScript (.text "notes") named none none none),
          (shelf ++ ["refusing.py"],
            sampleScript (.text "refusing") named (some (.raised .value "")) none none),
          (shelf ++ ["tasks.py"], sampleScript (.text "tasks") named none none none),
          (Location.work ++ ["listed.py"], sampleScript (.list [.int 1]) named none none none),
          (Location.work ++ ["words.py"],
            sampleScript (.text "words") (named ++ [(.text "examples", .int 5)]) none none none)]
        accounts := [] }
    plugins := [former]
    registered := ⟨[], [(.text "notes", 0)]⟩ }

/-- The directory, nothing, and a script in the directory. -/
def samplePaths : List String :=
  ["shelf", "nowhere", "shelf/again.py"]

/-- Where the scripts under these paths are. -/
def samplePlaces : List Location :=
  ["again.py", "broken.py", "empty.py", "failing.py", "nameless.py", "none.py", "notes.py",
    "refusing.py", "tasks.py", "again.py"].map fun name => Location.work ++ ["shelf", name]

theorem idsAreKeys_sampleShelf : sampleShelf.IdsAreKeys := by
  intro sort entry member
  cases sort with
  | internal => cases member
  | external =>
      rw [List.mem_singleton.mp member]
      rfl

-- The names in a directory are sorted by a recursion that does not evaluate; but here they are
-- in order already.
theorem children_sampleShelf :
    sampleShelf.files.children (Location.work ++ ["shelf"]) =
      ["_own.py", "again.py", "broken.py", "empty.py", "failing.py", "nameless.py", "none.py",
        "notes.py", "refusing.py", "tasks.py"] :=
  List.mergeSort_of_pairwise (by decide +kernel)

theorem offered_sampleShelf :
    sampleShelf.offered (pathList samplePaths) false =
      samplePlaces.filterMap (sampleShelf.offeredAt? false) := by
  have expands : FilePath.ofHomeText [] "shelf" = .ok (.ofText "shelf") := rfl
  have found : sampleShelf.files.look (.ofText "shelf") =
      .ok (some (Location.work ++ ["shelf"], .directory)) := rfl
  have folder := ScriptFile.under_of_folder expands found
  rw [children_sampleShelf] at folder
  have rest : ScriptFile.underAll sampleShelf.files
      (["nowhere", "shelf/again.py"].map Value.text) =
        .ok [⟨Location.work ++ ["shelf", "again.py"], Location.work ++ ["shelf", "again.py"],
          "again.py"⟩] := rfl
  rw [offered, scriptsUnder_pathList, samplePaths, List.map_cons, ScriptFile.underAll, folder, rest]
  dsimp only [Except.map]
  congr 1

/-- The first valid plugins of the directory take the place of the former one. -/
theorem loadExternal_replaces_shelf :
    let offered := sampleShelf.offered (pathList samplePaths) false
    let loads := sampleShelf.loadExternal (pathList samplePaths) false
    (∀ plugin ∈ offered, plugin.IsMild) ∧ loads.2 = .ok 2 ∧ Replaces sampleShelf offered loads.1 ∧
      loads.1.registered.external = [(.text "notes", 1), (.text "tasks", 6)] := by
  intro offered loads
  have listed : offered = samplePlaces.filterMap (sampleShelf.offeredAt? false) :=
    offered_sampleShelf
  have mild : ∀ plugin ∈ offered, plugin.IsMild := by
    rw [listed]
    decide +kernel
  have keyed : ∀ plugin ∈ offered, plugin.IsValid → plugin.id.holds = true →
      plugin.id.isKey = true := by
    rw [listed]
    decide +kernel
  have searchable : ∀ text ∈ samplePaths, ScriptFile.Searchable sampleShelf.files text := by
    simp only [samplePaths, List.forall_mem_cons]
    exact ⟨⟨_, _, rfl, rfl⟩, ⟨_, _, rfl, rfl⟩, ⟨_, _, rfl, rfl⟩, nofun⟩
  obtain ⟨succeeds, replaces, -⟩ :=
    loadExternal_replaces_iff idsAreKeys_sampleShelf samplePaths false mild
  obtain ⟨count, loaded⟩ := succeeds.mpr ⟨searchable, keyed⟩
  obtain ⟨-, replaced, counted⟩ := replaces count loaded
  have external : loads.1.registered.external = [(.text "notes", 1), (.text "tasks", 6)] := by
    rw [replaced.external]
    change sampleShelf.handlesFor (chosen offered) = _
    rw [listed]
    decide +kernel
  have counts : loads.1.registered.external.length = 2 := by
    rw [external]
    rfl
  exact ⟨mild, loaded.trans (congrArg Except.ok (counted.trans counts)), replaced, external⟩

/-- A path to the home directory of an unknown account ends the load, though the other path has a
script that can be loaded. -/
theorem not_replaces_unknown_home :
    let known := sampleShelf.loadExternal (pathList ["shelf/notes.py"]) false
    let unknown :=
      sampleShelf.loadExternal (pathList ["~stranger/notes.py", "shelf/notes.py"]) false
    (∀ plugin ∈ sampleShelf.offered (pathList ["shelf/notes.py"]) false, plugin.IsMild) ∧
      known.2 = .ok 1 ∧ known.1.registered.external = [(.text "notes", 1)] ∧
      unknown.2 = .error .noHome ∧ unknown.1.registered.external = [] := by
  decide +kernel

theorem lt_of_mem_external (keyed : state.Keyed) {entry : Value × Nat}
    (member : entry ∈ state.registered.external) : entry.2 < state.plugins.length := by
  obtain ⟨plugin, present, -⟩ := keyed.owned .external entry member
  exact (List.getElem?_eq_some_iff.mp present).1

/-- A dispatcher has no handles yet for plugins that come after its own. -/
theorem handlesFor_eq_external_iff (keyed : state.Keyed) {numbered : List (Value × Nat)} :
    state.handlesFor numbered = state.registered.external ↔
      state.registered.external = [] ∧ numbered = [] := by
  constructor
  · intro same
    have none : numbered = [] := by
      refine List.eq_nil_iff_forall_not_mem.mpr fun entry member => ?_
      have known : (entry.1, state.plugins.length + entry.2) ∈ state.registered.external := by
        rw [← same]
        exact List.mem_map_of_mem member
      exact absurd (lt_of_mem_external keyed known) (Nat.not_lt.mpr (Nat.le_add_right _ _))
    rw [← same, none]
    exact ⟨rfl, rfl⟩
  · rintro ⟨before, rfl⟩
    rw [before]
    rfl

/-- Nothing is put back after a load that fails, whatever its paths are.  The external plugins are
those that were registered before the fault, which is one of the paths or of the first plugin that
is not left out.  So the tables are as they were only if there were no external plugins and none
was registered before the fault. -/
theorem registered_of_failed_load (keyed : state.Keyed) (keys : state.IdsAreKeys) (paths : Value)
    (reload : Bool) {fault : Fault}
    (failed : (state.loadExternal paths reload).2 = .error fault) :
    let offered := state.offered paths reload
    let loads := state.loadExternal paths reload
    (state.scriptsUnder paths = .error fault ∨
      ∃ plugin rest, offered = beforeFault offered ++ plugin :: rest ∧ plugin.fault? = some fault) ∧
    loads.1.registered =
      ⟨state.registered.internal, state.handlesFor (chosen (beforeFault offered))⟩ ∧
    (loads.1.registered = state.registered ↔
      state.registered.external = [] ∧
        ∀ plugin ∈ beforeFault offered, plugin.IsValid → plugin.id.holds = false) := by
  intro offered loads
  obtain ⟨registered, outcome, -⟩ := loadExternal_of_offered keys paths reload
  refine ⟨?cause, registered, ?restored⟩
  case cause =>
    rw [failed] at outcome
    cases found : state.scriptsUnder paths with
    | error missed =>
        rw [found] at outcome
        exact .inl (congrArg Except.error (Except.error.inj outcome).symm)
    | ok scripts =>
        rw [found] at outcome
        dsimp only [Except.bind] at outcome
        cases faults : (state.offered paths reload).findSome? Plugin.fault? with
        | none =>
            rw [faults] at outcome
            cases outcome
        | some first =>
            rw [faults] at outcome
            cases outcome
            exact .inr (beforeFault_append_of_findSome? faults)
  case restored =>
    rw [registered, ← chosen_eq_nil_iff, ← handlesFor_eq_external_iff keyed]
    constructor
    · exact fun same => congrArg PluginTables.external same
    · intro same
      rw [same]

theorem keyed_sampleShelf : sampleShelf.Keyed where
  distinct := fun sort => by
    cases sort with
    | internal => exact Table.distinct_nil
    | external => exact List.pairwise_singleton _ _
  owned := fun sort entry member => by
    cases sort with
    | internal => cases member
    | external =>
        rw [List.mem_singleton.mp member]
        exact ⟨_, rfl, by decide⟩

/-- A plugin whose examples cannot be read ends a load after another plugin has been registered. -/
theorem registered_of_failed_load_words :
    let paths := pathList ["shelf/tasks.py", "words.py", "shelf/notes.py"]
    let loads := sampleShelf.loadExternal paths false
    loads.2 = .error (.notIterable .int) ∧
      loads.1.registered = ⟨[], [(.text "tasks", 1)]⟩ ∧
      loads.1.registered ≠ sampleShelf.registered := by
  intro paths
  have failed : (sampleShelf.loadExternal paths false).2 = .error (.notIterable .int) := by
    decide +kernel
  obtain ⟨-, registered, restored⟩ :=
    registered_of_failed_load keyed_sampleShelf idsAreKeys_sampleShelf paths false failed
  have chosen : sampleShelf.handlesFor (chosen (beforeFault (sampleShelf.offered paths false))) =
      [(.text "tasks", 1)] := by decide +kernel
  refine ⟨failed, registered.trans (by rw [chosen]; rfl), fun same => ?_⟩
  exact absurd (restored.mp same).1 (List.cons_ne_nil _ _)

/-- A plugin that was registered before is gone after a load that fails. -/
theorem not_kept_by_failed_load :
    let loads := sampleShelf.loadExternal (pathList ["words.py"]) false
    loads.2 = .error (.notIterable .int) ∧
      sampleShelf.registered.external = [(.text "notes", 0)] ∧
      loads.1.registered.external = [] := by
  decide +kernel

end Dispatcher

end ChatDispatch
