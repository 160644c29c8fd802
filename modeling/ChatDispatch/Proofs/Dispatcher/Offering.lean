import ChatDispatch.Proofs.Dispatcher.Refreshing
import ChatDispatch.Proofs.Dispatcher.Sparing
import ChatDispatch.Proofs.Plugin

/-!
# What plugins offer

Every command that an enabled plugin offers is stored by a refresh, and counted, unless there
is a handler for it already.  Where ids and names differ, only a listener can have put one
there: one that claims the command when it is told in the course of the rebuild.  What is stored
stays, unless a listener withdraws it.
-/

namespace ChatDispatch

open CommandTables

namespace Dispatcher

variable {subscriptions : List (Topic × Subscriber)} {topics : List Topic}
  {agent command : Value} {has : Option Handler → Option Usage → Prop}
  {state : Dispatcher} {entry : Entry}

/-- Storing another command keeps what the tables have of one. -/
theorem Upholds.install (upholds : Upholds subscriptions topics agent command has)
    (told : .commandRegistered ∈ topics) (within : state.subscriptions ⊆ subscriptions)
    (apart : entry.isOf agent command = false) (start : state.Has agent command has) :
    (state.install entry).Has agent command has := by
  let placed := state.placeHandler entry.agent entry.command entry.handler
  have among : placed.subscriptions ⊆ subscriptions := within
  have handler : placed.tables.handler? agent command = state.tables.handler? agent command :=
    find?_place_of_apart apart entry.handler state.tables.handlers
  have put : placed.Has agent command has := by
    rw [Has, handler]
    exact start
  have stored : (state.tellStored entry).Has agent command has :=
    upholds.announce among told (commandPayload entry.agent entry.command) put
  have usage : (state.install entry).tables.usage? agent command =
      (state.tellStored entry).tables.usage? agent command :=
    find?_place_of_apart apart entry.usage (state.tellStored entry).tables.usages
  rw [Has, usage]
  exact stored

/-- A stored command has its handler and its usage, unless somebody withdraws it at once. -/
theorem find?_install_self
    (unwithdrawn : NoneHeard subscriptions topics (Subscriber.withdraws agent command))
    (told : .commandRegistered ∈ topics) (within : state.subscriptions ⊆ subscriptions)
    (own : entry.isOf agent command = true) :
    (state.install entry).tables.handler? agent command = some entry.handler ∧
      (state.install entry).tables.usage? agent command = some entry.usage := by
  let placed := state.placeHandler entry.agent entry.command entry.handler
  have among : placed.subscriptions ⊆ subscriptions := within
  have put : placed.tables.handler? agent command = some entry.handler :=
    (find?_place ..).trans (if_pos own)
  have stored : (state.tellStored entry).tables.handler? agent command = some entry.handler :=
    (upholds_handler unwithdrawn entry.handler).announce among told
      (commandPayload entry.agent entry.command) put
  exact ⟨stored, (find?_place ..).trans (if_pos own)⟩

theorem subset_install (follows : state.FollowsPlugins) (entry : Entry) :
    (state.install entry).subscriptions ⊆ state.subscriptions :=
  (told_tellStored entry follows).leaves.sublist.subset

theorem followsPlugins_install (follows : state.FollowsPlugins) (entry : Entry) :
    (state.install entry).FollowsPlugins :=
  (told_tellStored entry follows).followsPlugins follows

/-- A rebuild begins without a handler for an unclaimed command that is not built in. -/
theorem handler?_start_of_unclaimed (follows : state.FollowsPlugins)
    (unclaimed : Unclaimed state.subscriptions agent command)
    (notBuiltin : ∀ builtin : Builtin, builtin.entry.isOf agent command = false) :
    (Rebuild.start state).state.tables.handler? agent command = none := by
  suffices stored : ∀ (builtins : List Builtin) (before : Dispatcher), before.FollowsPlugins →
      before.subscriptions ⊆ state.subscriptions →
      before.tables.handler? agent command = none →
      (builtins.foldl (addBuiltin true) before).tables.handler? agent command = none by
    rw [start_state]
    exact stored _ state.cleared follows (List.Subset.refl _) rfl
  intro builtins
  induction builtins with
  | nil => exact fun _ _ _ none => none
  | cons builtin rest induction =>
      intro before follows within none
      rw [List.foldl_cons]
      cases present :
          (before.tables.handler? builtin.entry.agent builtin.entry.command).isSome with
      | true =>
          rw [addBuiltin_of_present present]
          exact induction before follows within none
      | false =>
          rw [addBuiltin_of_absent present]
          exact induction _ (followsPlugins_install follows _)
            (List.Subset.trans (subset_install follows _) within)
            ((upholds_absent unclaimed).install (by decide) within (notBuiltin builtin) none)

/-- The command that a reading offers, as the tables keep it. -/
def offer? (reading : Reading) : Option Entry :=
  match reading.verdict with
  | .offered handle agent command => some (pluginEntry handle agent command)
  | _ => none

def offersOf (readings : List Reading) : List Entry :=
  readings.filterMap offer?

theorem offersOf_cons (reading : Reading) (rest : List Reading) :
    offersOf (reading :: rest) = (offer? reading).toList ++ offersOf rest := by
  cases offered : offer? reading with
  | none => exact List.filterMap_cons_none offered
  | some entry => exact List.filterMap_cons_some offered

/-- The tables have a command with the handler that was offered, and describe it. -/
def Stores (tables : CommandTables) (entry : Entry) : Prop :=
  tables.handler? entry.agent entry.command = some entry.handler ∧
    (tables.usage? entry.agent entry.command).isSome = true

instance (tables : CommandTables) (entry : Entry) : Decidable (Stores tables entry) :=
  inferInstanceAs (Decidable (_ ∧ _))

namespace Rebuild

variable {rebuild next : Rebuild} {reading : Reading} {readings : List Reading}

/-- What a reading does to a command: it stores the first offer of a command that has no handler,
and otherwise leaves the command alone. -/
theorem offer_of_step (step : Step rebuild reading next) (agent command : Value) :
    (∃ entry, offer? reading = some entry ∧ entry.isOf agent command = true ∧
      (rebuild.state.tables.handler? agent command).isSome = false ∧
      next = rebuild.keep entry) ∨
    ((∃ entry, offer? reading = some entry ∧ entry.isOf agent command = false ∧
        next.state = rebuild.state.install entry) ∨
      next.state = rebuild.state) ∧
    ∀ entry, offer? reading = some entry → entry.isOf agent command = true →
      (rebuild.state.tables.handler? agent command).isSome = true := by
  have known {entry : Entry} (same : entry.isOf agent command = true) :
      rebuild.state.tables.handler? agent command =
        rebuild.state.tables.handler? entry.agent entry.command := by
    obtain ⟨sameAgent, sameCommand⟩ := Bool.and_eq_true_iff.mp same
    exact (find?_congr sameAgent sameCommand _).symm
  cases step with
  | failed verdict =>
      refine .inr ⟨.inr rfl, fun entry offered => ?_⟩
      rw [offer?, verdict] at offered
      cases offered
  | @duplicate handle id own verdict present =>
      refine .inr ⟨.inr rfl, fun entry offered same => ?_⟩
      rw [offer?, verdict] at offered
      rw [known same, ← Option.some.inj offered]
      exact present
  | @stored handle id own verdict absent =>
      have offered : offer? reading = some (pluginEntry handle id own) := by
        rw [offer?, verdict]
      cases same : (pluginEntry handle id own).isOf agent command with
      | true =>
        exact .inl ⟨_, offered, same, (congrArg Option.isSome (known same)).trans absent, rfl⟩
      | false =>
          refine .inr ⟨.inl ⟨_, offered, same, rfl⟩, fun entry other agrees => ?_⟩
          obtain rfl := Option.some.inj (offered.symm.trans other)
          cases same.symm.trans agrees

end Rebuild

/-- Going through readings keeps what the tables have of a command, if it has a handler or is not
offered. -/
theorem Upholds.steps {rebuild next : Rebuild} {readings : List Reading}
    (upholds : Upholds subscriptions topics agent command has) (told : .commandRegistered ∈ topics)
    (steps : Rebuild.Steps rebuild readings next) (follows : rebuild.state.FollowsPlugins)
    (within : rebuild.state.subscriptions ⊆ subscriptions)
    (settled : ∀ entry ∈ offersOf readings, entry.isOf agent command = true →
      ∀ handler usage, has handler usage → handler.isSome = true)
    (start : rebuild.state.Has agent command has) : next.state.Has agent command has := by
  induction steps with
  | nil => exact start
  | @cons rebuild middle next reading rest step restSteps induction =>
      have grows := Rebuild.grows_of_step step follows
      rw [offersOf_cons] at settled
      obtain ⟨here, later⟩ := List.forall_mem_append.mp settled
      refine induction (grows.followsPlugins follows)
        (List.Subset.trans grows.leaves.sublist.subset within) later ?_
      rcases Rebuild.offer_of_step step agent command with
        ⟨entry, offered, own, absent, -⟩ | ⟨⟨entry, -, apart, stored⟩ | same, -⟩
      · have present :=
          here entry (by rw [offered]; exact List.mem_singleton_self entry) own _ _ start
        cases absent.symm.trans present
      · rw [stored]
        exact upholds.install told within apart start
      · rw [same]
        exact start

namespace Rebuild

variable {rebuild next : Rebuild} {reading : Reading} {readings : List Reading}

/-- What is stored under a command that nobody withdraws is kept to the end. -/
theorem kept_of_steps {entry : Entry} (steps : Steps rebuild readings next)
    (follows : rebuild.state.FollowsPlugins)
    (within : rebuild.state.subscriptions ⊆ subscriptions)
    (unwithdrawn : Unwithdrawn subscriptions agent command)
    (handler : rebuild.state.tables.handler? agent command = some entry.handler)
    (usage : rebuild.state.tables.usage? agent command = some entry.usage) :
    (next.state.tables.handler? agent command = some entry.handler ∧
      (next.state.tables.usage? agent command).isSome = true) ∧
    (Undescribed subscriptions agent command →
      next.state.tables.usage? agent command = some entry.usage) := by
  have handled := upholds_handler unwithdrawn entry.handler
  refine ⟨?_, fun undescribed => ?_⟩
  · exact (handled.and (upholds_described unwithdrawn)).steps (by decide) steps follows within
      (fun _ _ _ _ _ has => by rw [has.1]; rfl) ⟨handler, congrArg Option.isSome usage⟩
  · exact ((handled.and (upholds_usage unwithdrawn undescribed entry.usage)).steps (by decide)
      steps follows within (fun _ _ _ _ _ has => by rw [has.1]; rfl) ⟨handler, usage⟩).2

/-- Of the offers of an unclaimed command that has no handler yet, one is stored, and stays unless
somebody withdraws it. -/
theorem exists_stored_of_steps (steps : Steps rebuild readings next)
    (follows : rebuild.state.FollowsPlugins)
    (within : rebuild.state.subscriptions ⊆ subscriptions)
    (unclaimed : Unclaimed subscriptions agent command)
    (unwithdrawn : Unwithdrawn subscriptions agent command)
    (absent : rebuild.state.tables.handler? agent command = none)
    (offered : ∃ entry ∈ offersOf readings, entry.isOf agent command = true) :
    ∃ entry ∈ offersOf readings, entry.isOf agent command = true ∧
      (next.state.tables.handler? agent command = some entry.handler ∧
        (next.state.tables.usage? agent command).isSome = true) ∧
      (Undescribed subscriptions agent command →
        next.state.tables.usage? agent command = some entry.usage) := by
  induction steps with
  | nil =>
      obtain ⟨entry, member, -⟩ := offered
      cases member
  | @cons rebuild middle next reading rest step restSteps induction =>
      have grows := grows_of_step step follows
      have followed := grows.followsPlugins follows
      have fewer := List.Subset.trans grows.leaves.sublist.subset within
      rw [offersOf_cons] at offered ⊢
      rcases offer_of_step step agent command with
        ⟨entry, offer, own, -, rfl⟩ | ⟨cases, settled⟩
      · have listed : entry ∈ (offer? reading).toList ++ offersOf rest := by simp [offer]
        obtain ⟨handler, usage⟩ := find?_install_self unwithdrawn (by decide) within own
        exact ⟨entry, listed, own, kept_of_steps restSteps followed fewer unwithdrawn handler usage⟩
      · have still : middle.state.tables.handler? agent command = none := by
          rcases cases with ⟨entry, -, apart, stored⟩ | same
          · rw [stored]
            exact (upholds_absent unclaimed).install (by decide) within apart absent
          · rw [same]
            exact absent
        have later : ∃ entry ∈ offersOf rest, entry.isOf agent command = true := by
          obtain ⟨entry, member, own⟩ := offered
          rcases List.mem_append.mp member with here | later
          · have present := settled entry (Option.mem_toList.mp here) own
            rw [absent] at present
            cases present
          · exact ⟨entry, later, own⟩
        obtain ⟨entry, member, stored⟩ := induction followed fewer still later
        exact ⟨entry, List.mem_append_right _ member, stored⟩

/-- Offers of different commands that are unclaimed are all counted. -/
theorem count_of_steps (steps : Steps rebuild readings next)
    (follows : rebuild.state.FollowsPlugins)
    (within : rebuild.state.subscriptions ⊆ subscriptions)
    (apart : (offersOf readings).Pairwise fun left right =>
      left.isOf right.agent right.command = false ∧ right.isOf left.agent left.command = false)
    (unclaimed : ∀ entry ∈ offersOf readings, Unclaimed subscriptions entry.agent entry.command)
    (absent : ∀ entry ∈ offersOf readings,
      rebuild.state.tables.handler? entry.agent entry.command = none) :
    next.count = rebuild.count + (offersOf readings).length := by
  induction steps with
  | nil => rfl
  | @cons rebuild middle next reading rest step restSteps induction =>
      have grows := grows_of_step step follows
      have fewer := List.Subset.trans grows.leaves.sublist.subset within
      rw [offersOf_cons] at unclaimed absent apart ⊢
      cases step with
      | failed verdict =>
          have none : offer? reading = none := by rw [offer?, verdict]
          rw [none, Option.toList_none, List.nil_append] at unclaimed absent apart ⊢
          exact induction follows fewer apart unclaimed absent
      | @duplicate handle id own verdict present =>
          have offered : offer? reading = some (pluginEntry handle id own) := by
            rw [offer?, verdict]
          have fresh := absent (pluginEntry handle id own) (by simp [offered])
          simp only [pluginEntry] at fresh
          rw [fresh] at present
          cases present
      | @stored handle id own verdict _ =>
          let entry := pluginEntry handle id own
          have offered : offer? reading = some entry := by rw [offer?, verdict]
          rw [offered, Option.toList_some, List.singleton_append] at unclaimed absent apart ⊢
          obtain ⟨apartOwn, apartRest⟩ := List.pairwise_cons.mp apart
          obtain ⟨-, unclaimedRest⟩ := List.forall_mem_cons.mp unclaimed
          obtain ⟨-, absentRest⟩ := List.forall_mem_cons.mp absent
          have counted := induction (grows.followsPlugins follows) fewer apartRest unclaimedRest
            fun other later => (upholds_absent (unclaimedRest other later)).install (by decide)
              within (apartOwn other later).1 (absentRest other later)
          have more : (rebuild.keep entry).count = rebuild.count + 1 := rfl
          rw [counted, more, List.length_cons, Nat.add_assoc, Nat.add_comm 1]

/-- A rebuild that goes through readings has found none of them at fault. -/
theorem isSound_of_steps (steps : Steps rebuild readings next) :
    ∀ reading ∈ readings, reading.isSound = true := by
  induction steps with
  | nil => exact fun _ member => by cases member
  | cons step _ induction =>
      refine List.forall_mem_cons.mpr ⟨?_, induction⟩
      cases step with
      | failed verdict => simp only [Reading.isSound, verdict]
      | duplicate verdict => simp only [Reading.isSound, verdict]
      | stored verdict => simp only [Reading.isSound, verdict]

end Rebuild

/-- Offers that neither another plugin nor the built-in commands compete with. -/
structure Rivalless (offers : List Entry) : Prop where
  apart : offers.Pairwise fun left right =>
    left.isOf right.agent right.command = false ∧ right.isOf left.agent left.command = false
  notBuiltin : ∀ entry ∈ offers, ∀ builtin : Builtin,
    builtin.entry.isOf entry.agent entry.command = false

theorem Rivalless.eq_of_isOf {offers : List Entry} (rivalless : Rivalless offers)
    {entry other : Entry} (member : entry ∈ offers) (listed : other ∈ offers)
    (same : other.isOf entry.agent entry.command = true) : other = entry := by
  by_contra different
  have symmetric : Std.Symm fun left right : Entry =>
      left.isOf right.agent right.command = false ∧ right.isOf left.agent left.command = false :=
    ⟨fun _ _ apart => ⟨apart.2, apart.1⟩⟩
  have apart := rivalless.apart.forall member listed (Ne.symm different)
  cases same.symm.trans apart.2

/-- A refresh stores what is offered once and neither claimed nor withdrawn, and counts what is
not claimed. -/
theorem stores_refresh (attached : state.Attached)
    (rivalless : Rivalless (offersOf state.readings)) {count : Nat}
    (refreshed : state.refresh.2 = .ok count) :
    (∀ entry ∈ offersOf state.readings,
      Unclaimed state.subscriptions entry.agent entry.command →
      Unwithdrawn state.subscriptions entry.agent entry.command →
        Stores state.refresh.1.tables entry ∧
          (Undescribed state.subscriptions entry.agent entry.command →
            state.refresh.1.tables.usage? entry.agent entry.command = some entry.usage)) ∧
    ((∀ entry ∈ offersOf state.readings,
      Unclaimed state.subscriptions entry.agent entry.command) →
        count = (offersOf state.readings).length) := by
  rcases refresh_cases attached with
    ⟨done, steps, same⟩ | ⟨_, _, fault, _, _, -, -, same, -⟩
  · have within := (grows_start attached.locked).leaves.sublist.subset
    have fewer : done.result.release.subscriptions ⊆ state.subscriptions :=
      List.Subset.trans (grows_of_steps_start attached steps).leaves.sublist.subset
        (List.Subset.refl _)
    have absent : ∀ entry ∈ offersOf state.readings,
        Unclaimed state.subscriptions entry.agent entry.command →
          (Rebuild.start state.locked).state.tables.handler? entry.agent entry.command = none :=
      fun entry member unclaimed =>
        handler?_start_of_unclaimed attached.locked unclaimed (rivalless.notBuiltin entry member)
    rw [same] at refreshed ⊢
    refine ⟨fun entry member unclaimed unwithdrawn => ?_, fun unclaimed => ?_⟩
    · obtain ⟨other, listed, agrees, stored, described⟩ := Rebuild.exists_stored_of_steps steps
        (followsPlugins_start attached) within unclaimed unwithdrawn (absent entry member unclaimed)
        ⟨entry, member, by simp [Entry.isOf]⟩
      obtain rfl := rivalless.eq_of_isOf member listed agrees
      refine ⟨?_, fun undescribed => ?_⟩
      · exact ((upholds_handler unwithdrawn other.handler).and
          (upholds_described unwithdrawn)).announce fewer (by decide) [] stored
      · exact (upholds_usage unwithdrawn undescribed other.usage).announce fewer (by decide) []
          (described undescribed)
    · have counted := Rebuild.count_of_steps steps (followsPlugins_start attached) within
        rivalless.apart unclaimed (fun entry member => absent entry member (unclaimed entry member))
      have none : (Rebuild.start state.locked).count = 0 := rfl
      rw [← Except.ok.inj refreshed, counted, none, Nat.zero_add]
  · rw [same] at refreshed
    cases refreshed

/-- The commands with a name that the plugin of a handle declares. -/
def offersOfPlugin (state : Dispatcher) (handle : Nat) : List Entry :=
  match state.plugin? handle with
  | none => []
  | some plugin =>
      (plugin.commands.filter fun command => command.name.holds).map
        (pluginEntry handle plugin.id)

/-- The commands with a name that the enabled plugins declare. -/
def offers (state : Dispatcher) : List Entry :=
  state.enabledHandles.flatMap state.offersOfPlugin

def HasRegular (state : Dispatcher) (handle : Nat) : Prop :=
  ∃ plugin, state.plugin? handle = some plugin ∧ plugin.IsRegular

theorem offersOf_normal (handle : Nat) {id : Value} (holds : id.holds = true)
    {commands : List PluginCommand}
    (sound : ∀ reading ∈ commands.map fun command => Reading.declared handle id (.normal command),
      reading.isSound = true) :
    offersOf (commands.map fun command => Reading.declared handle id (.normal command)) =
      (commands.filter fun command => command.name.holds).map (pluginEntry handle id) := by
  induction commands with
  | nil => rfl
  | cons command rest induction =>
      obtain ⟨here, later⟩ := List.forall_mem_cons.mp sound
      have others := induction later
      rw [offersOf] at others ⊢
      have normal : (Declaration.normal command).normalize = .ok command := rfl
      rw [List.map_cons]
      cases named : command.name.holds with
      | false =>
          have blank : offer? (Reading.declared handle id (.normal command)) = none := by
            rw [offer?, Reading.verdict_of_blank normal (by rw [named, Bool.and_false])]
          rw [List.filterMap_cons_none blank, List.filter_cons_of_neg (by simp [named]), others]
      | true =>
          rcases Reading.isSound_declared_iff.mp here with ⟨_, nameless⟩ | ⟨own, same, keyed⟩
          · cases nameless
          · cases same
            rw [holds, named] at keyed
            obtain ⟨idKey, nameKey⟩ := Bool.and_eq_true_iff.mp (keyed rfl)
            have offered : offer? (Reading.declared handle id (.normal command)) =
                some (pluginEntry handle id command) := by
              rw [offer?, Reading.verdict_of_storable normal ⟨holds, named, idKey, nameKey⟩]
            have filtered : (command :: rest).filter (fun command => command.name.holds) =
                command :: rest.filter fun command => command.name.holds :=
              List.filter_cons_of_pos named
            rw [List.filterMap_cons_some offered, filtered, others, List.map_cons]

theorem offersOf_readingsOf {handle : Nat} (regular : state.HasRegular handle)
    (sound : ∀ reading ∈ readingsOf state.plugins handle, reading.isSound = true) :
    offersOf (readingsOf state.plugins handle) = state.offersOfPlugin handle := by
  obtain ⟨plugin, present, regular⟩ := regular
  have found : state.plugins[handle]? = some plugin := present
  obtain ⟨id, same, some, -, -⟩ := regular.plain
  have holds : plugin.id.holds = true := by
    rw [same]
    exact bne_iff_ne.mpr some
  simp only [readingsOf, found, regular.declared, List.map_map] at sound ⊢
  simp only [offersOfPlugin, present]
  exact offersOf_normal handle holds sound

/-- What regular plugins offer is read by a refresh that comes to its end. -/
theorem offersOf_readings (attached : state.Attached)
    (regular : ∀ handle ∈ state.enabledHandles, state.HasRegular handle) {count : Nat}
    (refreshed : state.refresh.2 = .ok count) : offersOf state.readings = state.offers := by
  have sound : ∀ reading ∈ state.readings, reading.isSound = true := by
    rcases refresh_cases attached with
      ⟨done, steps, -⟩ | ⟨_, _, fault, _, _, -, -, same, -⟩
    · exact Rebuild.isSound_of_steps steps
    · rw [same] at refreshed
      cases refreshed
  rw [offersOf, readings, List.filterMap_flatMap, offers, List.flatMap_def, List.flatMap_def]
  refine congrArg List.flatten (List.map_congr_left fun handle member => ?_)
  refine offersOf_readingsOf (regular handle member) fun reading read => sound reading ?_
  exact List.mem_flatMap.mpr ⟨handle, member, read⟩

/-- The plugins of two handles have different ids. -/
def IdsDiffer (state : Dispatcher) (left right : Nat) : Prop :=
  ∀ plugin other, state.plugin? left = some plugin → state.plugin? right = some other →
    (plugin.id == other.id) = false

theorem mem_offersOfPlugin {handle : Nat} {entry : Entry}
    (member : entry ∈ state.offersOfPlugin handle) :
    ∃ plugin command, state.plugin? handle = some plugin ∧ command ∈ plugin.commands ∧
      command.name.holds = true ∧ entry = pluginEntry handle plugin.id command := by
  unfold offersOfPlugin at member
  split at member
  · cases member
  · rename_i plugin present
    obtain ⟨command, listed, same⟩ := List.mem_map.mp member
    obtain ⟨declared, named⟩ := List.mem_filter.mp listed
    exact ⟨plugin, command, present, declared, named, same.symm⟩

theorem rivalless_offers
    (regular : ∀ handle ∈ state.enabledHandles, state.HasRegular handle)
    (differ : state.enabledHandles.Pairwise state.IdsDiffer) : Rivalless state.offers where
  apart := by
    refine List.pairwise_flatMap.mpr ⟨fun handle member => ?_, differ.imp ?_⟩
    · obtain ⟨plugin, present, regular⟩ := regular handle member
      simp only [offersOfPlugin, present]
      refine List.pairwise_map.mpr ((regular.keysDiffer.sublist List.filter_sublist).imp ?_)
      intro left right different
      simp [Entry.isOf, pluginEntry, different, BEq.comm]
    · intro left right differ entry member other otherMember
      obtain ⟨plugin, command, present, -, -, rfl⟩ := mem_offersOfPlugin member
      obtain ⟨rival, offer, rivalPresent, -, -, rfl⟩ := mem_offersOfPlugin otherMember
      have different := differ plugin rival present rivalPresent
      have reversed : (rival.id == plugin.id) = false := by
        rw [BEq.comm]
        exact different
      simp [Entry.isOf, pluginEntry, different, reversed]
  notBuiltin := by
    intro entry member builtin
    obtain ⟨handle, enabled, offered⟩ := List.mem_flatMap.mp member
    obtain ⟨plugin, command, present, -, -, rfl⟩ := mem_offersOfPlugin offered
    obtain ⟨own, found, regular⟩ := regular handle enabled
    obtain ⟨id, same, -, -, other⟩ := regular.plain
    obtain rfl : plugin = own := Option.some.inj (present.symm.trans found)
    have apart : (Value.text coreAgent == plugin.id) = false := by
      rw [same, Value.beq_def, Value.alike_text]
      exact beq_eq_false_iff_ne.mpr other.symm
    simp [Entry.isOf, Builtin.entry, pluginEntry, apart]

end Dispatcher

end ChatDispatch
