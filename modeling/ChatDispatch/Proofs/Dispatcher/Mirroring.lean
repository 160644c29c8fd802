import ChatDispatch.Proofs.Dispatcher.Apart
import ChatDispatch.Proofs.Dispatcher.FrontEnd
import ChatDispatch.Proofs.Dispatcher.Rendering

/-!
# Keeping up with the registered plugins

A listener that is told about plugins can keep a list of their own of what is registered: it adds
what has been registered, and drops what no longer is.  Nothing goes past it.  However plugins
come and go, one by one or with a load that fails on the way, its list is that of the plugin
tables after every call (`mirrors_registry`).

The listener does not have to be alone.  Others may fail, leave or register commands when they
are told, which is told in turn, but never as an event about plugins (`mirror_announce`).
-/

namespace ChatDispatch

open CommandTables

/-- The topics of the events about what is registered. -/
def Topic.ofRegistration : List Topic :=
  [.pluginRegistered, .pluginUnregistered]

/-- What a listener holds: ids of plugins, each behind the word for its sort. -/
abbrev Mirror := List (Value × Value)

namespace Mirror

/-- The word and the id in the payload of an event about a plugin. -/
def subject? : List Value → Option (Value × Value)
  | [.map entries] =>
      (Table.lookup (Key.text "type") entries).bind fun word =>
        (Table.lookup (Key.text "id") entries).map fun id => (word, id)
  | _ => none

/-- Adds what has been registered, and drops what no longer is. -/
def heed (mirror : Mirror) (event : Event) : Mirror :=
  match subject? event.payload with
  | none => mirror
  | some subject =>
      if event.topic = .pluginRegistered then
        if mirror.any (· == subject) then mirror else mirror ++ [subject]
      else if event.topic = .pluginUnregistered then
        mirror.filter fun held => !(held == subject)
      else
        mirror

def ids (sort : PluginSort) (mirror : Mirror) : List Value :=
  (mirror.filter fun held => held.1 == .text sort.text).map (·.2)

/-- The mirror holds the ids under which plugins are registered, in their order, and nothing
else. -/
structure Shows (mirror : Mirror) (tables : PluginTables) : Prop where
  listed : ∀ sort, mirror.ids sort = (tables.ofSort sort).map (·.1)
  sorted : ∀ held ∈ mirror, ∃ sort : PluginSort, held.1 = .text sort.text

variable {mirror : Mirror} {tables : PluginTables}

theorem subject?_pluginPayload (id : Value) (sort : PluginSort) :
    subject? (Dispatcher.pluginPayload id sort) = some (.text sort.text, id) := by
  rfl

theorem text_beq_text (sort other : PluginSort) :
    (Value.text sort.text == Value.text other.text) = decide (sort = other) := by
  cases sort <;> cases other <;> rfl

theorem heed_heed (mirror : Mirror) (event : Event) :
    (mirror.heed event).heed event = mirror.heed event := by
  unfold heed
  cases subject? event.payload with
  | none => rfl
  | some subject =>
      by_cases added : event.topic = .pluginRegistered
      · by_cases held : mirror.any (· == subject) = true
        · simp only [added, if_true, held]
        · simp [added, held]
      · by_cases dropped : event.topic = .pluginUnregistered
        · simp [dropped]
        · simp only [added, dropped, if_false]

theorem heed_of_not_mem {event : Event} (other : event.topic ∉ Topic.ofRegistration)
    (mirror : Mirror) : mirror.heed event = mirror := by
  have added : event.topic ≠ .pluginRegistered := fun same => other (by rw [same]; decide)
  have dropped : event.topic ≠ .pluginUnregistered := fun same => other (by rw [same]; decide)
  unfold heed
  cases subject? event.payload with
  | none => rfl
  | some subject => simp only [added, dropped, if_false]

theorem any_eq_holds (shown : mirror.Shows tables) (id : Value) (sort : PluginSort) :
    mirror.any (· == (Value.text sort.text, id)) = Table.holds id (tables.ofSort sort) := by
  have keys : Table.holds id (tables.ofSort sort) =
      ((tables.ofSort sort).map (·.1)).any (· == id) := by
    rw [List.any_map]
    rfl
  rw [keys, ← shown.listed, ids, List.any_map, List.any_filter]
  rfl

/-- What is registered appears in the mirror, at the end of the ids of its sort. -/
theorem Shows.register (shown : mirror.Shows tables) (id : Value) (handle : Nat)
    (sort : PluginSort) :
    (mirror.heed ⟨.pluginRegistered, Dispatcher.pluginPayload id sort⟩).Shows
      (tables.setSort (Table.store id handle (tables.ofSort sort)) sort) := by
  have heeded : mirror.heed ⟨.pluginRegistered, Dispatcher.pluginPayload id sort⟩ =
      if Table.holds id (tables.ofSort sort) then mirror
      else mirror ++ [(.text sort.text, id)] := by
    rw [← any_eq_holds shown]
    simp only [heed, subject?_pluginPayload, if_true]
  rw [heeded]
  refine ⟨fun other => ?_, ?_⟩
  · by_cases same : other = sort
    · subst same
      rw [Dispatcher.ofSort_setSort, if_pos rfl, Table.keys_store, ← shown.listed]
      split
      · rw [List.append_nil]
      · simp [ids]
    · rw [Dispatcher.ofSort_setSort, if_neg same, ← shown.listed]
      split
      · rfl
      · have unlike : (Value.text sort.text == Value.text other.text) = false := by
          rw [text_beq_text]
          exact decide_eq_false (Ne.symm same)
        simp [ids, unlike]
  · intro held member
    split at member
    · exact shown.sorted held member
    · rcases List.mem_append.mp member with earlier | new
      · exact shown.sorted held earlier
      · obtain rfl := List.mem_singleton.mp new
        exact ⟨sort, rfl⟩

theorem Shows.unregister (shown : mirror.Shows tables) (id : Value) (sort : PluginSort) :
    (mirror.heed ⟨.pluginUnregistered, Dispatcher.pluginPayload id sort⟩).Shows
      (tables.setSort (Table.remove id (tables.ofSort sort)) sort) := by
  have heeded : mirror.heed ⟨.pluginUnregistered, Dispatcher.pluginPayload id sort⟩ =
      mirror.filter fun held => !(held.1 == .text sort.text && held.2 == id) := by
    have other : Topic.pluginUnregistered ≠ .pluginRegistered := by decide
    simp only [heed, subject?_pluginPayload, if_true, if_neg other]
    rfl
  rw [heeded]
  refine ⟨fun other => ?_, fun held member => shown.sorted held (List.mem_of_mem_filter member)⟩
  rw [Dispatcher.ofSort_setSort, ids, List.filter_filter]
  by_cases same : other = sort
  · subst same
    rw [if_pos rfl, Table.keys_remove, ← shown.listed, ids,
      List.filter_map, List.filter_filter]
    congr 1
    refine List.filter_congr fun held _ => ?_
    cases held.1 == Value.text other.text <;> simp
  · rw [if_neg same, ← shown.listed, ids]
    congr 1
    refine List.filter_congr fun held _ => ?_
    cases sorted : held.1 == Value.text other.text with
    | false => rfl
    | true =>
        have unlike : (held.1 == Value.text sort.text) = false := by
          rw [BEq.congr_left sorted, text_beq_text]
          exact decide_eq_false same
        simp [unlike]

end Mirror

/-- The topic that a subscriber notes of an event. -/
def Subscriber.notedTopic (topic : Topic) : Subscriber → Topic
  | .listener ⟨_, first, _⟩ => first
  | _ => topic

namespace Dispatcher

variable {state : Dispatcher} {name : String}

/-- What has been noted under a name about what is registered, in order. -/
def heeded (name : String) (state : Dispatcher) : List Event :=
  ((state.notes.filter fun note => note.1 = name).map (·.2)).filter fun event =>
    event.topic ∈ Topic.ofRegistration

/-- What a listener of the name holds after all that it was told. -/
def mirror (name : String) (state : Dispatcher) : Mirror :=
  (state.heeded name).foldl Mirror.heed []

/-- Somebody who stays notes under the name that a plugin was registered or removed, and whoever
notes under it notes what has happened. -/
structure Follows (name : String) (state : Dispatcher) : Prop where
  hears : ∀ topic ∈ Topic.ofRegistration, ∃ entry ∈ state.subscriptions, entry.1 = topic ∧
    entry.2.stays = true ∧ entry.2.noteName? = some name
  honest : ∀ entry ∈ state.subscriptions, entry.2.noteName? = some name →
    entry.2.notedTopic entry.1 = entry.1

theorem Follows.of_leaves {before after : Dispatcher} (follows : before.Follows name)
    (leaves : Leaves before.subscriptions after.subscriptions) : after.Follows name where
  hears := by
    intro topic member
    obtain ⟨entry, subscribed, own, stays, named⟩ := follows.hears topic member
    exact ⟨entry, leaves.stays entry subscribed stays, own, stays, named⟩
  honest := fun entry member => follows.honest entry (leaves.sublist.subset member)

theorem abides_follows : Abides (Follows name) where
  tables := fun _ follows => follows.of_leaves (.refl _)
  counted := fun _ follows => follows.of_leaves (.refl _)
  record := fun _ _ _ follows => follows.of_leaves (.refl _)
  schedule := fun follows => by
    unfold scheduleRefresh
    split
    · exact follows.of_leaves (.refl _)
    · exact follows.of_leaves (.refl _)
  leave := fun topic _ leaving follows => follows.of_leaves (.erase _ topic leaving)

theorem mirror_of_deliveries {before after : Dispatcher}
    (same : after.deliveries = before.deliveries) : after.mirror name = before.mirror name := by
  rw [mirror, heeded, notes, same]
  rfl

theorem mirror_record (listener : String) (topic : Topic) (payload : List Value) :
    (state.record listener topic payload).mirror name =
      if some listener = some name then (state.mirror name).heed ⟨topic, payload⟩
      else state.mirror name := by
  have noted : (state.record listener topic payload).notes =
      state.notes ++ [(listener, ⟨topic, payload⟩)] := List.map_append
  rw [mirror, heeded, noted, List.filter_append]
  by_cases same : listener = name
  · by_cases topical : topic ∈ Topic.ofRegistration
    · simp [same, topical, mirror, heeded, List.foldl_append]
    · simp [same, topical, mirror, heeded, Mirror.heed_of_not_mem]
  · simp [same, mirror, heeded]

theorem deliveries_scheduleRefresh (state : Dispatcher) :
    state.scheduleRefresh.deliveries = state.deliveries := by
  unfold scheduleRefresh
  split <;> rfl

/-- An announcement that does not concern a mirror as long as it is about commands. -/
structure Unheeded (name : String) (announce : Announcement) : Prop where
  follows : ∀ {state : Dispatcher} (topic : Topic) (payload : List Value),
    state.Follows name → (announce topic payload state).Follows name
  mirror : ∀ {state : Dispatcher}, state.Follows name → ∀ topic ∈ Topic.ofCommands,
    ∀ payload : List Value, (announce topic payload state).mirror name = state.mirror name

variable {announce : Announcement}

theorem mirror_addHandlerWith (unheeded : Unheeded name announce) (follows : state.Follows name)
    (agent command : Value) (handler : Option Handler) :
    (addHandlerWith announce false agent command handler state).1.mirror name =
      state.mirror name := by
  unfold addHandlerWith
  rcases state.tables.addHandler agent command handler with ⟨tables, fault | ⟨- | refusal⟩⟩
  · exact mirror_of_deliveries rfl
  · have stored : Follows name { state with tables } := follows.of_leaves (.refl _)
    have told := unheeded.follows .commandRegistered (commandPayload agent command) stored
    exact (unheeded.mirror told .commandsChanged (by decide) []).trans
      (unheeded.mirror stored .commandRegistered (by decide) _)
  · exact mirror_of_deliveries rfl

theorem mirror_removeHandlerWith (unheeded : Unheeded name announce)
    (follows : state.Follows name) (agent command : Value) :
    (removeHandlerWith announce agent command state).1.mirror name = state.mirror name := by
  unfold removeHandlerWith
  rcases state.tables.remove agent command with ⟨tables, fault | (_ | _)⟩
  · exact mirror_of_deliveries rfl
  · exact mirror_of_deliveries rfl
  · have removed : Follows name { state with tables } := follows.of_leaves (.refl _)
    have told := unheeded.follows .commandUnregistered (commandPayload agent command) removed
    exact (unheeded.mirror told .commandsChanged (by decide) []).trans
      (unheeded.mirror removed .commandUnregistered (by decide) _)

/-- Telling a subscriber of the name is heeded once, whatever the subscriber does then. -/
theorem mirror_deliver (unheeded : Unheeded name announce) (follows : state.Follows name)
    {topic : Topic} {subscriber : Subscriber}
    (honest : subscriber.noteName? = some name → subscriber.notedTopic topic = topic)
    (payload : List Value) :
    (deliver announce topic payload state subscriber).mirror name =
      if subscriber.noteName? = some name then (state.mirror name).heed ⟨topic, payload⟩
      else state.mirror name := by
  cases subscriber with
  | recorder => exact mirror_record recorderName topic payload
  | refresher =>
      rw [if_neg (by simp [Subscriber.noteName?])]
      exact mirror_of_deliveries (deliveries_scheduleRefresh state)
  | listener listener =>
      obtain ⟨own, first, reaction⟩ := listener
      have recorded : (state.record own first payload).mirror name =
          if some own = some name then (state.mirror name).heed ⟨topic, payload⟩
          else state.mirror name := by
        rw [mirror_record]
        by_cases same : some own = some name
        · have topics : first = topic := honest same
          rw [topics]
        · rw [if_neg same, if_neg same]
      refine Eq.trans ?_ recorded
      have recordedFollows : (state.record own first payload).Follows name :=
        follows.of_leaves (.refl _)
      cases reaction with
      | none => rfl
      | fail => rfl
      | leave => exact mirror_of_deliveries rfl
      | register agent command handler =>
          have counted := abides_follows.counted
            ((state.record own first payload).nextCallable + 1) recordedFollows
          exact (mirror_addHandlerWith unheeded counted agent command _).trans
            (mirror_of_deliveries rfl)
      | unregister agent command =>
          exact mirror_removeHandlerWith unheeded recordedFollows agent command
      | describe usage => exact mirror_of_deliveries rfl

/-- Telling several subscribers is heeded if there is one of the name among them. -/
theorem mirror_foldl_deliver (unheeded : Unheeded name announce) {topic : Topic}
    {subscribers : List Subscriber}
    (honest : ∀ subscriber ∈ subscribers,
      subscriber.noteName? = some name → subscriber.notedTopic topic = topic)
    (payload : List Value) (follows : state.Follows name) :
    (subscribers.foldl (deliver announce topic payload) state).mirror name =
      if subscribers.any (fun subscriber => subscriber.noteName? = some name) then
        (state.mirror name).heed ⟨topic, payload⟩
      else state.mirror name := by
  induction subscribers generalizing state with
  | nil => rfl
  | cons subscriber rest induction =>
      obtain ⟨here, later⟩ := List.forall_mem_cons.mp honest
      have told := abides_follows.deliver unheeded.follows topic payload subscriber follows
      rw [List.foldl_cons, induction later told, mirror_deliver unheeded follows here,
        List.any_cons]
      by_cases named : subscriber.noteName? = some name
      · simp only [named, if_true, decide_true, Bool.true_or, Mirror.heed_heed, ite_self]
      · simp only [named, if_false, decide_false, Bool.false_or]

theorem honest_of_mem_subscribers (follows : state.Follows name) {topic : Topic}
    {subscriber : Subscriber} (member : subscriber ∈ state.subscribers topic)
    (named : subscriber.noteName? = some name) : subscriber.notedTopic topic = topic := by
  obtain ⟨entry, filtered, rfl⟩ := List.mem_map.mp member
  obtain ⟨subscribed, own⟩ := List.mem_filter.mp filtered
  rw [← of_decide_eq_true own]
  exact follows.honest entry subscribed named

theorem unheeded_announceWithin (fuel : Nat) : Unheeded name (announceWithin fuel) where
  follows := fun topic payload follows => abides_follows.announceWithin fuel topic payload follows
  mirror := by
    induction fuel with
    | zero => exact fun _ _ _ _ => rfl
    | succ fuel induction =>
        intro state follows topic ofCommands payload
        have nested : Unheeded name (announceWithin fuel) :=
          ⟨fun topic payload follows => abides_follows.announceWithin fuel topic payload follows,
            induction⟩
        have other : topic ∉ Topic.ofRegistration :=
          (by decide : ∀ topic ∈ Topic.ofCommands, topic ∉ Topic.ofRegistration) topic ofCommands
        rw [announceWithin, mirror_foldl_deliver nested
          (fun _ member => honest_of_mem_subscribers follows member) payload follows,
          Mirror.heed_of_not_mem other, ite_self]

/-- Somebody who follows heeds every event about the registered plugins. -/
theorem mirror_announce (follows : state.Follows name) {topic : Topic}
    (ofRegistration : topic ∈ Topic.ofRegistration) (payload : List Value) :
    (Dispatcher.announce topic payload state).mirror name =
      (state.mirror name).heed ⟨topic, payload⟩ := by
  obtain ⟨entry, subscribed, own, -, named⟩ := follows.hears topic ofRegistration
  have among : (state.subscribers topic).any (fun other => other.noteName? = some name) = true := by
    rw [List.any_eq_true]
    have heard : entry ∈ state.subscriptions.filter fun entry => entry.1 = topic :=
      List.mem_filter.mpr ⟨subscribed, decide_eq_true own⟩
    exact ⟨entry.2, List.mem_map.mpr ⟨entry, heard, rfl⟩, decide_eq_true named⟩
  rw [Dispatcher.announce, announceWithin, mirror_foldl_deliver (unheeded_announceWithin _)
    (fun _ member => honest_of_mem_subscribers follows member) payload follows, if_pos among]

/-- Other plugin tables are shown once they have been told of. -/
theorem shows_announce (follows : state.Follows name) {registered : PluginTables} {topic : Topic}
    (ofRegistration : topic ∈ Topic.ofRegistration) {payload : List Value}
    (heeded : ((state.mirror name).heed ⟨topic, payload⟩).Shows registered) :
    ((Dispatcher.announce topic payload { state with registered }).mirror name).Shows
      (Dispatcher.announce topic payload { state with registered }).registered := by
  have stored : Follows name { state with registered } := follows.of_leaves (.refl _)
  rw [(unmoved_announce _ _ _).registered, mirror_announce stored ofRegistration]
  exact heeded

theorem shows_registerPlugin (follows : state.Follows name)
    (shown : (state.mirror name).Shows state.registered) (handle : Option Nat)
    (sort : PluginSort) :
    ((state.registerPlugin handle sort).1.mirror name).Shows
      (state.registerPlugin handle sort).1.registered := by
  rcases registerPlugin_cases state handle sort with
    ⟨outcome, refused, -⟩ | ⟨own, plugin, -, -, accepted⟩
  · rw [refused]
    exact shown
  · rw [accepted]
    exact shows_announce follows (by decide) (shown.register plugin.id own sort)

theorem shows_unregisterPlugin (follows : state.Follows name)
    (shown : (state.mirror name).Shows state.registered) (id : Value) (sort : PluginSort) :
    ((state.unregisterPlugin id sort).1.mirror name).Shows
      (state.unregisterPlugin id sort).1.registered := by
  rcases unregisterPlugin_cases state id sort with ⟨outcome, refused, -⟩ | accepted
  · rw [refused]
    exact shown
  · rw [accepted]
    exact shows_announce follows (by decide) (shown.unregister id sort)

theorem overlooks_follows : Overlooks (Follows name) where
  registered := fun _ follows => follows.of_leaves (.refl _)
  announce := fun topic payload follows => abides_follows.announceWithin _ topic payload follows

/-- Plugins are registered under their ids, and a listener of the name holds these ids. -/
structure Mirrored (name : String) (state : Dispatcher) : Prop where
  follows : state.Follows name
  keyed : state.Keyed
  shown : (state.mirror name).Shows state.registered

theorem admits_mirrored : Admits (Mirrored name) where
  register := fun handle sort mirrored =>
    { follows := overlooks_follows.registerPlugin handle sort mirrored.follows
      keyed := keyed_registerPlugin mirrored.keyed handle sort
      shown := shows_registerPlugin mirrored.follows mirrored.shown handle sort }
  unregister := fun id sort mirrored =>
    { follows := overlooks_follows.unregisterPlugin id sort mirrored.follows
      keyed := keyed_unregisterPlugin mirrored.keyed id sort
      shown := shows_unregisterPlugin mirrored.follows mirrored.shown id sort }
  grown := fun _ _ mirrored =>
    ⟨mirrored.follows.of_leaves (.refl _), mirrored.keyed.of_appended rfl rfl, mirrored.shown⟩

/-- A plugin is refused, and nothing changes, or it comes after those that are registered. -/
theorem prefix_registerPlugin (state : Dispatcher) (handle : Option Nat)
    (sort other : PluginSort) :
    state.registered.ofSort other <+:
      (state.registerPlugin handle sort).1.registered.ofSort other := by
  unfold registerPlugin
  dsimp only
  split
  · exact List.prefix_refl _
  · split
    · exact List.prefix_refl _
    · split
      · exact List.prefix_refl _
      · split
        · exact List.prefix_refl _
        · rename_i absent
          rw [(unmoved_announce _ _ _).registered, ofSort_setSort]
          split
          · rename_i same
            rw [Table.store_of_not_holds (by simpa using absent), same]
            exact List.prefix_append _ _
          · exact List.prefix_refl _

theorem ofSort_registerPlugin_of_ne {sort other : PluginSort} (different : other ≠ sort)
    (handle : Option Nat) :
    (state.registerPlugin handle sort).1.registered.ofSort other =
      state.registered.ofSort other := by
  rcases registerPlugin_cases state handle sort with
    ⟨outcome, refused, -⟩ | ⟨own, plugin, -, -, accepted⟩
  · rw [refused]
  · rw [accepted, (unmoved_announce _ _ _).registered, ofSort_setSort, if_neg different]

theorem ofSort_unregisterPlugin_of_ne {sort other : PluginSort} (different : other ≠ sort)
    (id : Value) :
    (state.unregisterPlugin id sort).1.registered.ofSort other =
      state.registered.ofSort other := by
  rcases unregisterPlugin_cases state id sort with ⟨outcome, refused, -⟩ | accepted
  · rw [refused]
  · rw [accepted, (unmoved_announce _ _ _).registered, ofSort_setSort, if_neg different]

/-- A load does not concern internal plugins, however far it gets. -/
theorem internal_loadExternal (state : Dispatcher) (paths : Value) (reload : Bool) :
    (state.loadExternal paths reload).1.registered.internal = state.registered.internal := by
  have admits : AdmitsExternals fun after : Dispatcher =>
      after.registered.ofSort .internal = state.registered.ofSort .internal :=
    { register := fun handle same =>
        (ofSort_registerPlugin_of_ne (by decide) handle).trans same
      unregister := fun id same => (ofSort_unregisterPlugin_of_ne (by decide) id).trans same
      grown := fun _ _ same => same }
  exact admits.loadExternal paths reload rfl

theorem findPlugin?_of_isKey {id : Value} (key : id.isKey = true) :
    state.findPlugin? id = .ok (state.registered.find? id) := by
  rw [findPlugin?, if_pos key]

/-- What can happen between two moments: plugins are registered, removed or loaded, whatever comes
of it, or anything happens that leaves the plugin tables, the ids of the plugins and what was told
about them as they are, and does not send the listener away. -/
inductive RegistryStep (name : String) : Dispatcher → Dispatcher → Prop where
  | register (state : Dispatcher) (handle : Option Nat) (type : Value) :
      RegistryStep name state (state.registerPlugin handle (.ofValue type)).1
  | unregister (state : Dispatcher) (id type : Value) :
      RegistryStep name state (state.unregisterPlugin id (.ofValue type)).1
  | load (state : Dispatcher) (paths : Value) (reload : Bool) :
      RegistryStep name state (state.loadExternal paths reload).1
  | elsewhere {before after : Dispatcher} (registered : after.registered = before.registered)
      (ids : ∀ handle plugin, before.plugin? handle = some plugin →
        ∃ other, after.plugin? handle = some other ∧ other.id = plugin.id)
      (unheard : after.heeded name = before.heeded name) (follows : after.Follows name) :
      RegistryStep name before after

/-- A registry that was empty when the listener came, whatever has happened since. -/
inductive RegistryRun (name : String) : Dispatcher → Prop where
  | start {state : Dispatcher} (empty : state.registered = ⟨[], []⟩)
      (unheard : state.heeded name = []) (follows : state.Follows name) : RegistryRun name state
  | step {before after : Dispatcher} (earlier : RegistryRun name before)
      (step : RegistryStep name before after) : RegistryRun name after

variable {before after : Dispatcher}

theorem mirrored_start (empty : state.registered = ⟨[], []⟩) (unheard : state.heeded name = [])
    (follows : state.Follows name) : state.Mirrored name where
  follows := follows
  keyed :=
    { distinct := fun sort => by
        rw [empty]
        cases sort <;> exact Table.distinct_nil
      owned := fun sort entry member => by
        rw [empty] at member
        cases sort <;> cases member }
  shown := by
    rw [mirror, unheard, empty]
    exact ⟨fun sort => by cases sort <;> rfl, fun held member => nomatch member⟩

theorem Mirrored.step (mirrored : before.Mirrored name) (step : RegistryStep name before after) :
    after.Mirrored name := by
  cases step with
  | register handle type => exact admits_mirrored.register handle _ mirrored
  | unregister id type => exact admits_mirrored.unregister id _ mirrored
  | load paths reload => exact admits_mirrored.loadExternal paths reload mirrored
  | elsewhere registered ids unheard follows =>
      refine ⟨follows, ⟨?_, ?_⟩, ?_⟩
      · rw [registered]
        exact mirrored.keyed.distinct
      · intro sort entry member
        rw [registered] at member
        obtain ⟨plugin, present, own⟩ := mirrored.keyed.owned sort entry member
        obtain ⟨other, found, same⟩ := ids entry.2 plugin present
        exact ⟨other, found, same ▸ own⟩
      · rw [mirror, unheard, registered]
        exact mirrored.shown

theorem RegistryRun.mirrored (run : RegistryRun name state) : state.Mirrored name := by
  induction run with
  | start empty unheard follows => exact mirrored_start empty unheard follows
  | step _ step induction => exact induction.step step

/-- After every call the listener holds the ids of the registered plugins, and these are
registered under their own ids, each once for its sort.  A plugin that is refused changes nothing,
and none takes the place of another one; calls for one sort do not concern the other one, and an
internal plugin answers for its id before an external one. -/
theorem mirrors_registry (run : RegistryRun name state) :
    (state.mirror name).Shows state.registered ∧ state.Keyed ∧
    (∀ handle type, (state.registerPlugin handle (.ofValue type)).2 ≠ .ok true →
      (state.registerPlugin handle (.ofValue type)).1 = state) ∧
    (∀ handle type sort, state.registered.ofSort sort <+:
      (state.registerPlugin handle (.ofValue type)).1.registered.ofSort sort) ∧
    (∀ type sort, sort ≠ .ofValue type →
      (∀ handle, (state.registerPlugin handle (.ofValue type)).1.registered.ofSort sort =
        state.registered.ofSort sort) ∧
      ∀ id, (state.unregisterPlugin id (.ofValue type)).1.registered.ofSort sort =
        state.registered.ofSort sort) ∧
    (∀ paths reload, (state.loadExternal paths reload).1.registered.internal =
      state.registered.internal) ∧
    ∀ id, id.isKey = true →
      (∀ entry ∈ state.registered.internal, (entry.1 == id) = true →
        state.findPlugin? id = .ok (some entry.2)) ∧
      ((∀ entry ∈ state.registered.internal, (entry.1 == id) = false) →
        (∀ entry ∈ state.registered.external, (entry.1 == id) = true →
          state.findPlugin? id = .ok (some entry.2)) ∧
        ((∀ entry ∈ state.registered.external, (entry.1 == id) = false) →
          state.findPlugin? id = .ok none)) := by
  have mirrored := run.mirrored
  refine ⟨mirrored.shown, mirrored.keyed, ?refused, fun handle type sort =>
    prefix_registerPlugin state handle _ sort, fun type sort different =>
    ⟨fun handle => ofSort_registerPlugin_of_ne different handle,
      fun id => ofSort_unregisterPlugin_of_ne different id⟩,
    internal_loadExternal state, ?answers⟩
  case refused =>
    intro handle type refused
    rcases registerPlugin_cases state handle (.ofValue type) with
      ⟨outcome, same, -⟩ | ⟨own, plugin, -, -, accepted⟩
    · rw [same]
    · rw [accepted] at refused
      exact absurd rfl refused
  case answers =>
    intro id key
    rw [findPlugin?_of_isKey key]
    refine ⟨fun entry member same => ?_, fun noInternal => ⟨fun entry member same => ?_,
      fun noExternal => ?_⟩⟩
    · rw [find?_of_internal mirrored.keyed member same]
    · rw [find?_of_external mirrored.keyed member same (Table.lookup_eq_none_iff.mpr noInternal)]
    · rw [PluginTables.find?, Table.lookup_eq_none_iff.mpr noInternal,
        Table.lookup_eq_none_iff.mpr noExternal]
      rfl

/-- A dispatcher with plugins that are not registered yet, of which two have the same id, an eager
listener and one that keeps a list and fails each time. -/
def sampleWatched : Dispatcher :=
  { blank with
    plugins := [samplePlugin "a" [], samplePlugin "a" [], samplePlugin "b" []]
    subscriptions :=
      [ (.pluginRegistered,
          .listener ⟨"eager", .pluginRegistered,
            .register (.text "x") (.text "y") (.function 0 "" true)⟩),
        (.pluginRegistered, .listener ⟨"mirror", .pluginRegistered, .fail⟩),
        (.pluginUnregistered, .listener ⟨"mirror", .pluginUnregistered, .fail⟩) ] }

/-- A plugin is refused for its id, and a load fails after the external plugins have been
removed. -/
def sampleLoaded : Dispatcher :=
  let first := (sampleWatched.registerPlugin (some 0) (.ofValue (.text "internal"))).1
  let refused := (first.registerPlugin (some 1) (.ofValue (.text "internal"))).1
  let second := (refused.registerPlugin (some 2) (.ofValue .null)).1
  (second.loadExternal (.int 5) false).1

theorem registryRun_sampleLoaded : RegistryRun "mirror" sampleLoaded := by
  have follows : sampleWatched.Follows "mirror" :=
    { hears := by decide
      honest := by decide }
  exact .step (.step (.step (.step (.start rfl rfl follows) (.register _ _ _))
    (.register _ _ _)) (.register _ _ _)) (.load _ _ _)

/-- The list is that of the tables, where only the internal plugin is left. -/
theorem mirrors_sampleLoaded :
    RegistryRun "mirror" sampleLoaded ∧
      sampleLoaded.registered = ⟨[(.text "a", 0)], []⟩ ∧
      (sampleLoaded.mirror "mirror").ids .internal = [.text "a"] ∧
      (sampleLoaded.mirror "mirror").ids .external = [] ∧
      sampleLoaded.findPlugin? (.text "a") = .ok (some 0) ∧
      (sampleLoaded.registerPlugin (some 1) (.ofValue (.text "internal"))).1 = sampleLoaded := by
  obtain ⟨shown, -, refused, -, -, -, answers⟩ := mirrors_registry registryRun_sampleLoaded
  have registered : sampleLoaded.registered = ⟨[(.text "a", 0)], []⟩ := by decide +kernel
  refine ⟨registryRun_sampleLoaded, registered, ?_, ?_, ?_, ?_⟩
  · rw [shown.listed, registered]
    rfl
  · rw [shown.listed, registered]
    rfl
  · refine (answers (.text "a") rfl).1 (.text "a", 0) ?_ rfl
    rw [registered]
    exact List.mem_singleton.mpr rfl
  · refine refused (some 1) (.text "internal") ?_
    decide +kernel

end Dispatcher

end ChatDispatch
