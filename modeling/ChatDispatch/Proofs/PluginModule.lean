import Mathlib.Data.List.Dedup
import ChatDispatch.PluginModule
import ChatDispatch.Proofs.Table

/-!
# Coherence of the module cache

Between files that change in any way, modules are loaded: by any spelling of a path, under any
name, with or without a reload.  A load does one of three things: it fails and leaves the cache
as it was, it returns the cached module of the location and runs nothing, or it runs the script
and caches a new module (`loadPath_cases`).

`coherent_of_history` says what follows for all histories: the cache holds, for each location,
the module that the last run there returned, and it has one entry for each location that was
ever loaded.
-/

namespace ChatDispatch.ModuleCache

/-- What a path that is read as it is written leads to. -/
def nodeUnder (files : FileTree) (source : String) : Except Fault FileNode :=
  (files.visitWritten (FilePath.fullText source) (FilePath.ofText source)).map (·.2)

section

variable {cache : ModuleCache} {files : FileTree} {source : String} {name : Option String}
  {reload : Bool} {location : Location}

theorem loadPath_of_resolve (resolved : (FilePath.ofText source).resolve = .ok location) :
    cache.loadPath files source name reload =
      cache.load location source name reload (nodeUnder files source) := by
  unfold loadPath
  dsimp only
  rw [resolved]
  rfl

/-- A cached module is served, whatever has become of the file and whatever name is wanted. -/
theorem loadPath_of_cached {cached : PluginModule}
    (resolved : (FilePath.ofText source).resolve = .ok location)
    (held : Table.lookup location cache.modules = some cached) :
    cache.loadPath files source name false = (cache, .ok cached) := by
  rw [loadPath_of_resolve resolved, load, held]
  rfl

theorem execute_cases (cache : ModuleCache) (location : Location) (source : String)
    (name : ModuleName) (node : Except Fault FileNode) :
    (∃ fault, cache.execute location source name node = (cache, .error fault)) ∨
    ∃ content, node.bind (run source) = .ok content ∧
      cache.execute location source name node =
        (⟨Table.store location ⟨cache.runs, name, content⟩ cache.modules, cache.runs + 1⟩,
          .ok ⟨cache.runs, name, content⟩) := by
  unfold execute
  cases hasEnding scriptEnding source with
  | false => exact .inl ⟨_, rfl⟩
  | true =>
      cases done : node.bind (run source) with
      | error fault => exact .inl ⟨fault, rfl⟩
      | ok content => exact .inr ⟨content, rfl, rfl⟩

theorem load_cases (cache : ModuleCache) (location : Location) (source : String)
    (name : Option String) (reload : Bool) (node : Except Fault FileNode) :
    (∃ cached, Table.lookup location cache.modules = some cached ∧
      cache.load location source name reload node = (cache, .ok cached)) ∨
    ∃ given, cache.load location source name reload node =
      cache.execute location source given node := by
  unfold load
  cases held : Table.lookup location cache.modules with
  | none => exact .inr ⟨_, rfl⟩
  | some cached =>
      cases reload with
      | true => exact .inr ⟨_, rfl⟩
      | false => exact .inl ⟨cached, rfl, rfl⟩

/-- A load fails, serves what is cached, or runs the script. -/
theorem loadPath_cases (cache : ModuleCache) (files : FileTree) (source : String)
    (name : Option String) (reload : Bool) :
    (∃ fault, cache.loadPath files source name reload = (cache, .error fault)) ∨
    ∃ location, (FilePath.ofText source).resolve = .ok location ∧
      ((∃ cached, Table.lookup location cache.modules = some cached ∧
        cache.loadPath files source name reload = (cache, .ok cached)) ∨
      ∃ given content, (nodeUnder files source).bind (run source) = .ok content ∧
        cache.loadPath files source name reload =
          (⟨Table.store location ⟨cache.runs, given, content⟩ cache.modules, cache.runs + 1⟩,
            .ok ⟨cache.runs, given, content⟩)) := by
  cases resolved : (FilePath.ofText source).resolve with
  | error fault =>
      refine .inl ⟨fault, ?_⟩
      unfold loadPath
      dsimp only
      rw [resolved]
  | ok location =>
      rw [loadPath_of_resolve resolved]
      rcases load_cases cache location source name reload (nodeUnder files source) with
        served | ⟨given, ran⟩
      · exact .inr ⟨location, rfl, .inl served⟩
      · rw [ran]
        rcases execute_cases cache location source given (nodeUnder files source) with
          failed | ⟨content, done, stored⟩
        · exact .inl failed
        · exact .inr ⟨location, rfl, .inr ⟨given, content, done, stored⟩⟩

theorem loadPath_of_error {fault : Fault}
    (failed : (cache.loadPath files source name reload).2 = .error fault) :
    (cache.loadPath files source name reload).1 = cache := by
  rcases loadPath_cases cache files source name reload with
    ⟨_, outcome⟩ | ⟨_, -, ⟨_, -, outcome⟩ | ⟨_, _, -, outcome⟩⟩
  · rw [outcome]
  · rw [outcome]
  · rw [outcome] at failed
    cases failed

end

/-- What happens at a time: the files become others, or a module is loaded. -/
inductive Occasion where
  | write (files : FileTree)
  | load (source : String) (name : Option String) (reload : Bool)

/-- A load that succeeded: the location of the path, whether there is one more run since, and the
module that was returned. -/
structure Success where
  location : Location
  isRun : Bool
  result : PluginModule

/-- The files and the cache, and the loads that succeeded, the last one first. -/
structure History where
  files : FileTree
  cache : ModuleCache
  successes : List Success

namespace History

/-- Before anything happens, nothing is cached. -/
def start (files : FileTree) : History := ⟨files, .empty, []⟩

def step (history : History) : Occasion → History
  | .write files => { history with files }
  | .load source name reload =>
      let loaded := history.cache.loadPath history.files source name reload
      { history with
        cache := loaded.1
        successes :=
          match loaded.2 with
          | .error _ => history.successes
          | .ok result =>
              ⟨(FilePath.ofText source).location, history.cache.runs < loaded.1.runs, result⟩ ::
                history.successes }

/-- The history of what happens, over files that are there before. -/
def after (files : FileTree) (occasions : List Occasion) : History :=
  occasions.foldl step (start files)

/-- The module that the last run of the script at a location returned. -/
def lastRun? (history : History) (location : Location) : Option PluginModule :=
  (history.successes.find? fun success => success.isRun && location == success.location).map
    (·.result)

/-- The locations of all modules that were loaded, each once. -/
def locations (history : History) : List Location :=
  (history.successes.map (·.location)).dedup

/-- What the cache has to do with the loads before: it holds what the last runs returned, under
the locations of the loads, and what was returned before has a smaller number than the next
module. -/
structure Coherent (history : History) : Prop where
  held : ∀ location,
    Table.lookup location history.cache.modules = history.lastRun? location
  loaded : ∀ location,
    Table.holds location history.cache.modules = true ↔
      location ∈ history.successes.map (·.location)
  distinct : Table.Distinct history.cache.modules
  numbered : ∀ success ∈ history.successes, success.result.number < history.cache.runs

theorem coherent_start (files : FileTree) : (start files).Coherent where
  held _ := rfl
  loaded _ := ⟨nofun, nofun⟩
  distinct := Table.distinct_nil
  numbered _ member := nomatch member

variable {history : History} {files : FileTree} {location : Location} {result : PluginModule}

theorem Coherent.served (coherent : history.Coherent)
    (held : Table.lookup location history.cache.modules = some result) :
    Coherent { history with successes := ⟨location, false, result⟩ :: history.successes } where
  held other := by
    rw [coherent.held other]
    rfl
  loaded other := by
    have known : location ∈ history.successes.map (·.location) := by
      rw [← coherent.loaded, Table.holds_eq_isSome_lookup, held]
      rfl
    rw [coherent.loaded, List.map_cons, List.mem_cons]
    constructor
    · exact .inr
    · rintro (rfl | member)
      · exact known
      · exact member
  distinct := coherent.distinct
  numbered := by
    intro success member
    rcases List.mem_cons.mp member with rfl | earlier
    · rw [coherent.held, lastRun?, Option.map_eq_some_iff] at held
      obtain ⟨run, found, rfl⟩ := held
      exact coherent.numbered run (List.mem_of_find?_eq_some found)
    · exact coherent.numbered success earlier

theorem Coherent.ran (coherent : history.Coherent) (numbered : result.number = history.cache.runs) :
    Coherent { history with
      cache := ⟨Table.store location result history.cache.modules, history.cache.runs + 1⟩
      successes := ⟨location, true, result⟩ :: history.successes } where
  held other := by
    by_cases same : other = location
    · subst same
      simp [lastRun?, Table.lookup_store_self]
    · have apart : (location == other) = false := beq_false_of_ne (Ne.symm same)
      have unlike : (other == location) = false := beq_false_of_ne same
      rw [Table.lookup_store_of_ne apart, coherent.held other]
      simp [lastRun?, unlike]
  loaded other := by
    rw [Table.holds_eq_isSome_lookup]
    by_cases same : other = location
    · subst same
      simp [Table.lookup_store_self]
    · have apart : (location == other) = false := beq_false_of_ne (Ne.symm same)
      rw [Table.lookup_store_of_ne apart, ← Table.holds_eq_isSome_lookup, coherent.loaded other,
        List.map_cons, List.mem_cons]
      exact ⟨.inr, fun member => member.resolve_left same⟩
  distinct := Table.distinct_store coherent.distinct location result
  numbered := by
    intro success member
    rcases List.mem_cons.mp member with rfl | earlier
    · rw [numbered]
      exact Nat.lt_succ_self _
    · exact Nat.lt_succ_of_lt (coherent.numbered success earlier)

theorem location_of_resolve {path : FilePath} (resolved : path.resolve = .ok location) :
    path.location = location := by
  unfold FilePath.resolve at resolved
  split at resolved
  · cases resolved
  · exact Except.ok.inj resolved

theorem Coherent.step (coherent : history.Coherent) (occasion : Occasion) :
    (history.step occasion).Coherent := by
  cases occasion with
  | write files =>
      exact ⟨coherent.held, coherent.loaded, coherent.distinct, coherent.numbered⟩
  | load source name reload =>
      unfold History.step
      dsimp only
      rcases loadPath_cases history.cache history.files source name reload with
        ⟨fault, outcome⟩ | ⟨location, resolved, ⟨cached, held, outcome⟩ |
          ⟨given, content, -, outcome⟩⟩
      · rw [outcome]
        exact coherent
      · rw [outcome, location_of_resolve resolved]
        simpa using coherent.served held
      · rw [outcome, location_of_resolve resolved]
        have numbered : (PluginModule.mk history.cache.runs given content).number =
            history.cache.runs := rfl
        simpa using coherent.ran numbered

theorem coherent_after (files : FileTree) (occasions : List Occasion) :
    (after files occasions).Coherent := by
  suffices kept : ∀ history : History, history.Coherent →
      (occasions.foldl History.step history).Coherent from kept _ (coherent_start files)
  induction occasions with
  | nil => exact fun _ coherent => coherent
  | cons occasion rest induction => exact fun _ coherent => induction _ (coherent.step occasion)

theorem Coherent.length_modules (coherent : history.Coherent) :
    history.cache.modules.length = history.locations.length := by
  have unique : (history.cache.modules.map (·.1)).Nodup := by
    rw [List.Nodup, List.pairwise_map]
    exact coherent.distinct.imp fun apart same => by simp [same] at apart
  have same : ∀ location,
      location ∈ history.cache.modules.map (·.1) ↔ location ∈ history.locations := by
    intro location
    rw [locations, List.mem_dedup, ← coherent.loaded, Table.holds, List.any_eq_true,
      List.mem_map]
    simp only [beq_iff_eq]
  rw [← List.length_map (·.1),
    ((List.perm_ext_iff_of_nodup unique (List.nodup_dedup _)).mpr same).length_eq]
  rfl

/-- After any history, the cache holds what the last runs returned.  From there on a cached
module is served without a run, whatever the files have become; a load that fails leaves the
cache as it was, so that the same modules are served after it; and a load with one more run has
run the file as it is now, and returns a module that was not returned before.  The cache is as
large as there are locations that were loaded. -/
theorem coherent_of_history (files : FileTree) (occasions : List Occasion) :
    let history := after files occasions
    let cache := history.cache
    (∀ location, Table.lookup location cache.modules = history.lastRun? location) ∧
    (∀ source location cached, (FilePath.ofText source).resolve = .ok location →
      Table.lookup location cache.modules = some cached →
        ∀ now name, cache.loadPath now source name false = (cache, .ok cached)) ∧
    (∀ now source name reload fault,
      (cache.loadPath now source name reload).2 = .error fault →
        (cache.loadPath now source name reload).1 = cache ∧
        ∀ spelling location cached, (FilePath.ofText spelling).resolve = .ok location →
          Table.lookup location cache.modules = some cached →
            ∀ later other, ((cache.loadPath now source name reload).1.loadPath later spelling
              other false).2 = .ok cached) ∧
    (∀ now source name reload result,
      (cache.loadPath now source name reload).2 = .ok result →
        cache.runs < (cache.loadPath now source name reload).1.runs →
          (nodeUnder now source).bind (run source) = .ok result.content ∧
          ∀ success ∈ history.successes, success.result.number ≠ result.number) ∧
    cache.modules.length = history.locations.length := by
  intro history cache
  have coherent : history.Coherent := coherent_after files occasions
  refine ⟨coherent.held, ?served, ?failed, ?ran, coherent.length_modules⟩
  case served =>
    intro source location cached resolved held now name
    exact loadPath_of_cached resolved held
  case failed =>
    intro now source name reload fault failed
    have kept : (cache.loadPath now source name reload).1 = cache := loadPath_of_error failed
    refine ⟨kept, ?_⟩
    intro spelling location cached resolved held later other
    rw [kept, loadPath_of_cached resolved held]
  case ran =>
    intro now source name reload result returned more
    rcases loadPath_cases cache now source name reload with
      ⟨fault, outcome⟩ | ⟨location, -, ⟨cached, -, outcome⟩ | ⟨given, content, done, outcome⟩⟩
    · rw [outcome] at more
      exact absurd more (Nat.lt_irrefl _)
    · rw [outcome] at more
      exact absurd more (Nat.lt_irrefl _)
    · rw [outcome] at returned
      obtain rfl := Except.ok.inj returned
      exact ⟨done, fun success member => Nat.ne_of_lt (coherent.numbered success member)⟩

/-- A script that is broken after it was loaded by two spellings of its path, and then mended. -/
def sampleOccasions : List Occasion :=
  [ .load "p.py" none false, .load "./up/../p.py" (some "q") false,
    .write ⟨[(["work", "p.py"], .malformed)], []⟩, .load "p.py" (some "q") true,
    .load "../work/p.py" none false,
    .write ⟨[(["work", "p.py"], .script (.notCallable "create_plugin = 1"))], []⟩,
    .load "p.py" none true ]

/-- The module is served while the script is broken; the mended script gives another one, which
any spelling of the path leads to. -/
theorem coherent_sampleOccasions :
    let history := after ⟨[(["work", "p.py"], .script (.empty "x = 1"))], []⟩ sampleOccasions
    history.successes.map (fun success => (success.isRun, success.result.number)) =
        [(true, 1), (false, 0), (false, 0), (true, 0)] ∧
      history.cache.modules.length = 1 ∧
      (history.cache.loadPath ⟨[], []⟩ "nowhere/../p.py" none false).2 =
        .ok ⟨1, .generated "p", .notCallable "create_plugin = 1"⟩ := by
  intro history
  obtain ⟨-, served, -, -, size⟩ :=
    coherent_of_history ⟨[(["work", "p.py"], .script (.empty "x = 1"))], []⟩ sampleOccasions
  refine ⟨by decide, by rw [size]; decide, ?_⟩
  rw [served "nowhere/../p.py" ["work", "p.py"]
    ⟨1, .generated "p", .notCallable "create_plugin = 1"⟩ rfl rfl]

end History

end ChatDispatch.ModuleCache
