import ChatDispatch.Proofs.Dispatcher.Completion
import ChatDispatch.Proofs.Dispatcher.FirstWins
import ChatDispatch.Proofs.Dispatcher.Registered

/-!
# Internal plugins shadow external ones

Of an internal and an external plugin of one id, the internal one answers for the id.  A
refresh settles the matter once more, command by command: the first plugin that offers a
command gets its handler.  The two agree if every command that a shadowed plugin offers is
also offered by the plugin that shadows it, and only then.
-/

namespace ChatDispatch.Dispatcher

open CommandTables

/-- Every command of a plugin in the tables is run by the plugin that answers for its
agent. -/
def Shadows (state : Dispatcher) : Prop :=
  ∀ agent command handle name,
    state.tables.handler? agent command = some (.plugin handle name) →
      state.registered.find? agent = some handle

/-- Whatever an enabled plugin offers under an id for which another plugin answers, is built
in or offered by that plugin, too. -/
def Covered (state : Dispatcher) : Prop :=
  ∀ reading ∈ state.readings, ∀ handle agent command,
    reading.verdict = .offered handle agent command →
      ∀ answering, state.registered.find? agent = some answering →
        answering = handle ∨
        (∃ builtin : Builtin, builtin.entry.isOf agent command.name = true) ∨
        ∃ other ∈ state.readings, ∃ id own,
          other.verdict = .offered answering id own ∧
            (id == agent) = true ∧ (own.name == command.name) = true

/-- What a rebuild reads of the enabled plugins of a table. -/
def readingsOfTable (state : Dispatcher) (table : List (Value × Nat)) : List Reading :=
  ((table.map (·.2)).filter state.isEnabled).flatMap (readingsOf state.plugins)

theorem readings_eq_append (state : Dispatcher) :
    state.readings =
      state.readingsOfTable state.registered.internal ++
        state.readingsOfTable state.registered.external := by
  simp only [readings, enabledHandles, pluginHandles, readingsOfTable, List.map_append,
    List.filter_append, List.flatMap_append]

theorem mem_or_subset_of_append_eq {α : Type} {passed rest front back : List α} {item : α}
    (split : passed ++ item :: rest = front ++ back) :
    item ∈ front ∨ item ∈ back ∧ front ⊆ passed := by
  rcases List.append_eq_append_iff.mp split with ⟨middle, same, tail⟩ | ⟨middle, same, tail⟩
  · cases middle with
    | nil =>
        right
        rw [List.append_nil] at same
        rw [List.nil_append] at tail
        exact ⟨tail ▸ List.mem_cons_self, same ▸ List.Subset.refl _⟩
    | cons first middle =>
        left
        rw [List.cons_append] at tail
        cases tail
        rw [same]
        exact List.mem_append_right _ List.mem_cons_self
  · right
    rw [same, tail]
    exact ⟨List.mem_append_right _ List.mem_cons_self, List.subset_append_left _ _⟩

variable {state : Dispatcher}

/-- An offered command is of a plugin of the table, which is switched on and registered under
the agent of the command. -/
theorem of_mem_readingsOfTable (keyed : state.Keyed) (sort : PluginSort) {reading : Reading}
    (member : reading ∈ state.readingsOfTable (state.registered.ofSort sort)) {handle : Nat}
    {agent : Value} {command : PluginCommand}
    (offered : reading.verdict = .offered handle agent command) :
    state.isEnabled handle = true ∧ reading ∈ readingsOf state.plugins handle ∧
      ∃ entry ∈ state.registered.ofSort sort, entry.2 = handle ∧ (entry.1 == agent) = true := by
  obtain ⟨own, ownMember, read⟩ := List.mem_flatMap.mp member
  obtain ⟨listed, enabled⟩ := List.mem_filter.mp ownMember
  obtain ⟨entry, entryMember, rfl⟩ := List.mem_map.mp listed
  obtain ⟨rfl, plugin, present, sameId⟩ := of_mem_readingsOf read offered
  obtain ⟨owner, found, alike⟩ := keyed.owned sort entry entryMember
  obtain rfl : plugin = owner := Option.some.inj (present.symm.trans found)
  exact ⟨enabled, read, entry, entryMember, rfl, sameId ▸ alike⟩

/-- Whatever an internal plugin offers is read among the internal plugins. -/
theorem mem_internal_of_offered (keyed : state.Keyed) {reading : Reading}
    (member : reading ∈ state.readings) {entry : Value × Nat}
    (internal : entry ∈ state.registered.internal) {agent : Value} {command : PluginCommand}
    (offered : reading.verdict = .offered entry.2 agent command) :
    reading ∈ state.readingsOfTable state.registered.internal := by
  rw [readings_eq_append] at member
  rcases List.mem_append.mp member with early | late
  · exact early
  · obtain ⟨enabled, read, -⟩ := of_mem_readingsOfTable keyed .external late offered
    refine List.mem_flatMap.mpr ⟨entry.2, ?_, read⟩
    exact List.mem_filter.mpr ⟨List.mem_map.mpr ⟨entry, internal, rfl⟩, enabled⟩

/-- The plugin of the first offer of a command that is not built in answers for its agent. -/
theorem find?_of_first_offer (keyed : state.Keyed) (covered : state.Covered)
    {passed rest : List Reading} {reading : Reading}
    (split : state.readings = passed ++ reading :: rest) {handle : Nat} {agent : Value}
    {command : PluginCommand} (offered : reading.verdict = .offered handle agent command)
    (notBuiltin : ∀ builtin : Builtin, builtin.entry.isOf agent command.name = false)
    (first : ∀ earlier ∈ passed, ∀ other id own,
      earlier.verdict = .offered other id own →
        (id == agent && own.name == command.name) = false) :
    state.registered.find? agent = some handle := by
  have member : reading ∈ state.readings := by
    rw [split]
    exact List.mem_append_right _ List.mem_cons_self
  have sections := readings_eq_append state
  rw [split] at sections
  rcases mem_or_subset_of_append_eq sections with internal | ⟨external, before⟩
  · obtain ⟨-, -, entry, registered, rfl, same⟩ :=
      of_mem_readingsOfTable keyed .internal internal offered
    exact find?_of_internal keyed registered same
  · obtain ⟨-, -, entry, registered, rfl, same⟩ :=
      of_mem_readingsOfTable keyed .external external offered
    cases shadowed : Table.lookup agent state.registered.internal with
    | none => exact find?_of_external keyed registered same shadowed
    | some answering =>
        have answers : state.registered.find? agent = some answering := by
          simp [PluginTables.find?, shadowed]
        rcases covered reading member _ _ _ offered answering answers with
          rfl | ⟨builtin, isOf⟩ | ⟨other, otherMember, id, own, otherOffered, sameId, sameName⟩
        · exact answers
        · rw [notBuiltin builtin] at isOf
          cases isOf
        · obtain ⟨shadowing, listed, -, rfl⟩ := Table.exists_mem_of_lookup shadowed
          have early := mem_internal_of_offered keyed otherMember listed otherOffered
          have apart := first other (before early) _ id own otherOffered
          rw [sameId, sameName] at apart
          cases apart

theorem find?_congr_of_alike {id agent : Value} (same : (id == agent) = true)
    (tables : PluginTables) : tables.find? id = tables.find? agent := by
  simp only [PluginTables.find?, Table.lookup_congr same]

theorem shadows_of_covered (attached : state.Attached) (keyed : state.Keyed)
    (lasting : state.Lasting) (covered : state.Covered) : state.refresh.1.Shadows := by
  intro agent command handle name found
  obtain ⟨gone, left, next, halves, steps, stored⟩ := plugin_of_refresh attached found
  have started := followsPlugins_start attached
  have startLasting : (Rebuild.start state.locked).state.Lasting :=
    (grows_start attached.locked).lasting lasting
  rcases Rebuild.plugin_of_steps steps started stored with
    before | ⟨passed, reading, rest, middle, id, offer, parts, toMiddle, offered, sameAgent,
      -, absent⟩
  · exact absurd before (start_not_plugin attached.locked _ _ _ _)
  · have split : state.readings = passed ++ reading :: (rest ++ left) := by
      rw [halves, parts, List.append_assoc, List.cons_append]
    have fresh : ∀ other otherName : Value,
        (middle.state.tables.handler? other otherName).isSome = true →
          (other == id && otherName == offer.name) = false := by
      intro other otherName present
      cases agree : other == id && otherName == offer.name with
      | false => rfl
      | true =>
          obtain ⟨sameId, sameName⟩ := Bool.and_eq_true_iff.mp agree
          rw [handler?_eq, find?_congr sameId sameName, ← handler?_eq, absent] at present
          cases present
    have notBuiltin : ∀ builtin : Builtin, builtin.entry.isOf id offer.name = false := by
      intro builtin
      exact fresh _ _ ((Rebuild.grows_of_steps toMiddle started).isSome_handler? startLasting
        (isSome_handler?_start builtin attached.locked lasting))
    have first : ∀ earlier ∈ passed, ∀ other otherId own,
        earlier.verdict = .offered other otherId own →
          (otherId == id && own.name == offer.name) = false := by
      intro earlier member other otherId own earlierOffered
      exact fresh _ _
        (Rebuild.isSome_handler?_of_steps toMiddle started startLasting member earlierOffered)
    rw [registered_refresh attached, ← find?_congr_of_alike sameAgent]
    exact find?_of_first_offer keyed covered split offered notBuiltin first

/-- A command that a ledger keeps was offered by one of its readings. -/
theorem exists_offer_of_mem_kept {readings : List Reading} {ledger : Ledger} {entry : Entry}
    (member : entry ∈ (readings.foldl Ledger.enter ledger).kept) :
    entry ∈ ledger.kept ∨
      ∃ reading ∈ readings, ∃ handle agent command,
        reading.verdict = .offered handle agent command ∧
          entry = pluginEntry handle agent command := by
  induction readings generalizing ledger with
  | nil => exact .inl member
  | cons reading rest induction =>
      rcases induction member with earlier | ⟨later, laterMember, offer⟩
      · cases verdict : reading.verdict with
        | failed failure =>
            simp only [Ledger.enter, verdict] at earlier
            exact .inl earlier
        | faulty fault =>
            simp only [Ledger.enter, verdict] at earlier
            exact .inl earlier
        | offered handle agent command =>
            simp only [Ledger.enter, verdict] at earlier
            split at earlier
            · exact .inl earlier
            · rcases List.mem_append.mp earlier with before | own
              · exact .inl before
              · exact .inr ⟨reading, List.mem_cons_self, handle, agent, command, verdict,
                  List.mem_singleton.mp own⟩
      · exact .inr ⟨later, List.mem_cons_of_mem _ laterMember, offer⟩

theorem covered_of_shadows (attached : state.Attached) (lasting : state.Lasting)
    (quiet : state.Quiet) (sound : ∀ reading ∈ state.readings, reading.isSound = true)
    (shadows : state.refresh.1.Shadows) : state.Covered := by
  intro reading member handle agent command offered answering answers
  obtain ⟨-, tables, -, -⟩ := refresh_keeps_ledger attached quiet sound
  obtain ⟨count, -, completed⟩ := completed_of_isSound attached sound
  obtain ⟨handler, found⟩ := Option.isSome_iff_exists.mp
    (completed.offered lasting reading member handle agent command offered)
  have kept := found
  rw [tables] at kept
  obtain ⟨entry, entryMember, isOf, own⟩ := exists_mem_of_handler?_ofEntries kept
  rcases List.mem_append.mp entryMember with ofBuiltin | fromPlugin
  · obtain ⟨builtin, -, rfl⟩ := List.mem_map.mp ofBuiltin
    exact .inr (.inl ⟨builtin, isOf⟩)
  · rcases exists_offer_of_mem_kept fromPlugin with
      none | ⟨other, otherMember, offering, id, offer, otherOffered, rfl⟩
    · cases none
    · subst own
      have same := shadows agent command.name offering offer.name found
      rw [registered_refresh attached, answers] at same
      obtain ⟨sameId, sameName⟩ := Bool.and_eq_true_iff.mp isOf
      exact .inr (.inr ⟨other, otherMember, id, offer, Option.some.inj same ▸ otherOffered,
        sameId, sameName⟩)

/-- Where listeners take nothing away, the commands of the tables are run after a refresh by the
plugins that answer for their agents, if what shadowed plugins offer is covered.  Unless
listeners add commands or a fault ends the refresh, this is also necessary. -/
theorem refresh_shadows_iff_covered (attached : state.Attached) (keyed : state.Keyed)
    (lasting : state.Lasting) :
    (state.Covered → state.refresh.1.Shadows) ∧
      (state.Quiet → (∀ reading ∈ state.readings, reading.isSound = true) →
        (state.refresh.1.Shadows ↔ state.Covered)) :=
  ⟨shadows_of_covered attached keyed lasting, fun quiet sound =>
    ⟨covered_of_shadows attached lasting quiet sound,
      shadows_of_covered attached keyed lasting⟩⟩

/-- An internal and an external plugin of one id, both switched on. -/
def sampleTwins (internal external : String) : Dispatcher :=
  let offering (name : String) :=
    samplePlugin "p" [.mapping [(.text "name", .text name)]]
  { blank with
    source := .direct
    plugins := [offering internal, offering external]
    registered := ⟨[(.text "p", 0)], [(.text "p", 1)]⟩ }

theorem keyed_sampleTwins (internal external : String) : (sampleTwins internal external).Keyed where
  distinct := fun sort => by cases sort <;> exact List.pairwise_singleton _ _
  owned := by
    intro sort entry member
    cases sort with
    | internal =>
        cases List.mem_singleton.mp member
        exact ⟨_, rfl, beq_self_eq_true _⟩
    | external =>
        cases List.mem_singleton.mp member
        exact ⟨_, rfl, beq_self_eq_true _⟩

/-- Twins with one command: the internal one offers it first. -/
theorem covered_sampleTwins : (sampleTwins "a" "a").Covered := by
  let declaration : Declaration := .mapping [(.text "name", .text "a")]
  have read : (sampleTwins "a" "a").readings =
      [.declared 0 (.text "p") declaration, .declared 1 (.text "p") declaration] := rfl
  obtain ⟨command, normal⟩ : ∃ command, declaration.normalize = .ok command := ⟨_, rfl⟩
  have offers (handle : Nat) :
      (Reading.declared handle (.text "p") declaration).verdict =
        .offered handle (.text "p") command := by
    cases normal
    rfl
  intro reading member handle agent own offered answering answers
  have agentIs : agent = .text "p" ∧ own = command := by
    rw [read] at member
    rcases List.mem_cons.mp member with rfl | last
    · rw [offers] at offered
      cases offered
      exact ⟨rfl, rfl⟩
    · cases List.mem_singleton.mp last
      rw [offers] at offered
      cases offered
      exact ⟨rfl, rfl⟩
  obtain ⟨rfl, rfl⟩ := agentIs
  have internal : (sampleTwins "a" "a").registered.find? (.text "p") = some 0 := rfl
  cases internal.symm.trans answers
  refine .inr (.inr ⟨.declared 0 (.text "p") declaration, ?_, .text "p", own, offers 0,
    beq_self_eq_true _, beq_self_eq_true _⟩)
  rw [read]
  exact List.mem_cons_self

theorem shadows_sampleTwins : (sampleTwins "a" "a").refresh.1.Shadows := by
  have attached : (sampleTwins "a" "a").Attached := ⟨rfl, rfl, fun _ member => by cases member⟩
  have lasting : (sampleTwins "a" "a").Lasting := fun _ member => by cases member
  exact (refresh_shadows_iff_covered attached (keyed_sampleTwins "a" "a") lasting).1
    covered_sampleTwins

/-- A command that only the external plugin offers is run by it, though the internal one
answers for the id. -/
theorem not_shadows_uncovered :
    (sampleTwins "a" "b").refresh.1.tables.handler? (.text "p") (.text "b") =
        some (.plugin 1 (.text "b")) ∧
      (sampleTwins "a" "b").refresh.1.registered.find? (.text "p") = some 0 := by
  decide +kernel

end ChatDispatch.Dispatcher
