import ChatDispatch.Plugin
import ChatDispatch.Proofs.Value.Shift
import Mathlib.Tactic.SplitIfs

/-!
# The numbers of callables

A plugin that is built several times differs each time in the numbers of its callables.  Nothing
about it depends on them: building, registering and normalizing commute with the shift of all
numbers, with the same faults.
-/

namespace ChatDispatch

/-- Shifts the numbers of the callables of a plugin. -/
def Plugin.shift (offset : Nat) (plugin : Plugin) : Plugin :=
  { plugin with
    body :=
      match plugin.body with
      | .managed commands => .managed (commands.map (·.shift offset))
      | .foreign declared conduct => .foreign (declared.map (·.shift offset)) conduct }

variable (offset : Nat)

theorem holds_shiftEntries (name : String) (entries : Entries) :
    Table.holds (Key.text name) (Value.shiftEntries offset entries) =
      Table.holds (Key.text name) entries := by
  rw [Table.holds_eq_isSome_lookup, Value.lookup_shiftEntries, Option.isSome_map,
    Table.holds_eq_isSome_lookup]

theorem fieldOr_shiftEntries (entries : Entries) (name : String) {default : Value}
    (fixed : default.shift offset = default) :
    fieldOr (Value.shiftEntries offset entries) name default =
      (fieldOr entries name default).shift offset := by
  rw [fieldOr, Value.lookup_shiftEntries, fieldOr]
  cases Table.lookup (Key.text name) entries with
  | some value => rfl
  | none => exact fixed.symm

theorem PluginCommand.target_shift (command : PluginCommand) :
    (command.shift offset).target = command.target.shift offset := by
  rw [PluginCommand.target, PluginCommand.target, PluginCommand.shift]
  rcases command.runner with - | ⟨target⟩ | ⟨target⟩ <;> rfl

theorem PluginCommand.shown_shift (command : PluginCommand) :
    (command.shift offset).shown = command.shown := by
  unfold shown
  rw [target_shift]
  simp only [PluginCommand.shift, Value.shown_shift]

namespace Declaration

theorem field?_shift (declaration : Declaration) (name : String) :
    (declaration.shift offset).field? name =
      (declaration.field? name).map (·.shift offset) := by
  cases declaration with
  | normal command =>
      simp only [Declaration.shift, field?]
      split_ifs <;> rfl
  | mapping fields => exact Value.lookup_shiftEntries offset name fields
  | object shown fields => exact Value.lookup_shiftEntries offset name fields
  | other content =>
      cases content with
      | callable content attributes => exact Value.lookup_shiftEntries offset name attributes
      | _ => rfl

theorem value_shift (declaration : Declaration) (name : String) :
    (declaration.shift offset).value name = (declaration.value name).shift offset := by
  rw [value, field?_shift, value]
  cases declaration.field? name <;> rfl

theorem shown_shift (declaration : Declaration) :
    (declaration.shift offset).shown = declaration.shown := by
  cases declaration with
  | normal command => exact command.shown_shift offset
  | mapping fields =>
      simp only [Declaration.shift, shown, Value.shown, Value.shownEntries_shift]
  | object shown fields => rfl
  | other content => exact content.shown_shift offset

theorem itemsOf_shift (value : Value) :
    itemsOf (value.shift offset) = (itemsOf value).map (Value.shiftItems offset) := by
  cases value with
  | text content =>
      simp only [Value.shift, itemsOf, Except.map, Value.shiftItems_eq_map, List.map_map]
      rfl
  | map entries =>
      simp only [Value.shift, itemsOf, Except.map, Value.shiftItems_eq_map,
        Value.shiftEntries_eq_map, List.map_map, Except.ok.injEq]
      refine List.map_congr_left fun entry _ => ?_
      exact Key.value_shift offset entry.1
  | _ => rfl

/-- A declaration that is no command yet becomes one by its fields. -/
theorem normalize_of_ne_normal {declaration : Declaration}
    (raw : ∀ command, declaration ≠ .normal command) :
    declaration.normalize =
      let name := (declaration.value "name").orElse (declaration.value "id")
      if !name.holds then
        .error (.namelessDeclaration declaration.shown)
      else
        (itemsOf ((declaration.value "examples").orElse (.list []))).map fun items =>
          { name := .text name.asText
            description := (declaration.value "description").orElse (.text "")
            form := declaration.value "syntax"
            examples := .list items
            runner :=
              if (declaration.value "execute").isCallable then
                some (.onList (declaration.value "execute"))
              else if (declaration.value "handler").isCallable then
                some (.onEach (declaration.value "handler"))
              else
                none } := by
  cases declaration with
  | normal command => exact absurd rfl (raw command)
  | _ =>
      simp only [normalize]
      split
      · rfl
      · split
        · rename_i failed
          rw [failed]
          rfl
        · rename_i listed
          rw [listed]
          rfl

theorem normalize_shift_of_ne_normal {declaration : Declaration}
    (raw : ∀ command, declaration ≠ .normal command)
    (shifted : ∀ command, declaration.shift offset ≠ .normal command) :
    (declaration.shift offset).normalize = declaration.normalize.map (·.shift offset) := by
  have named : ((declaration.value "name").shift offset).orElse
      ((declaration.value "id").shift offset) =
        ((declaration.value "name").orElse (declaration.value "id")).shift offset :=
    (Value.orElse_shift offset _ _).symm
  have listed : ((declaration.value "examples").shift offset).orElse (.list []) =
      ((declaration.value "examples").orElse (.list [])).shift offset :=
    (Value.orElse_shift offset _ (.list [])).symm
  have described : ((declaration.value "description").shift offset).orElse (.text "") =
      ((declaration.value "description").orElse (.text "")).shift offset :=
    (Value.orElse_shift offset _ (.text "")).symm
  rw [normalize_of_ne_normal raw, normalize_of_ne_normal shifted]
  simp only [value_shift, shown_shift, named, listed, described, Value.holds_shift,
    Value.asText_shift, Value.isCallable_shift, itemsOf_shift]
  split
  · rfl
  · cases itemsOf ((declaration.value "examples").orElse (.list [])) with
    | error fault => rfl
    | ok items =>
        simp only [Except.map, PluginCommand.shift, Value.shift]
        congr 2
        split_ifs <;> rfl

theorem normalize_shift (declaration : Declaration) :
    (declaration.shift offset).normalize = declaration.normalize.map (·.shift offset) := by
  cases declaration with
  | normal command => rfl
  | mapping fields => exact normalize_shift_of_ne_normal offset nofun nofun
  | object shown fields => exact normalize_shift_of_ne_normal offset nofun nofun
  | other content => exact normalize_shift_of_ne_normal offset nofun nofun

end Declaration

theorem joinFields_shift (maker : String) (given : Entries) (more : List (String × Value)) :
    joinFields maker (Value.shiftEntries offset given)
        (more.map fun field => (field.1, field.2.shift offset)) =
      (joinFields maker given more).map (Value.shiftEntries offset) := by
  have repeated : (more.map fun field => (field.1, field.2.shift offset)).find?
      (fun field => Table.holds (Key.text field.1) (Value.shiftEntries offset given)) =
        (more.find? fun field => Table.holds (Key.text field.1) given).map
          fun field => (field.1, field.2.shift offset) := by
    simp only [holds_shiftEntries]
    rw [List.find?_map]
    rfl
  unfold joinFields
  rw [repeated]
  cases more.find? fun field => Table.holds (Key.text field.1) given with
  | some field => rfl
  | none =>
      simp only [Option.map_none, Except.map, Value.shiftEntries_eq_map, List.map_append,
        List.map_map]
      rfl

theorem fieldNames_shift (keys : List Key) :
    fieldNames (keys.map (·.shift offset)) = fieldNames keys := by
  induction keys with
  | nil => rfl
  | cons key rest induction =>
      cases key with
      | text name => exact congrArg (Except.map (name :: ·)) induction
      | _ => rfl

theorem RecordShape.check_shift (shape : RecordShape) (fields : Entries) :
    shape.check (Value.shiftEntries offset fields) = shape.check fields := by
  have keys : (Value.shiftEntries offset fields).map (·.1) =
      (fields.map (·.1)).map (·.shift offset) := by
    rw [Value.shiftEntries_eq_map, List.map_map, List.map_map]
    rfl
  rw [check, keys, fieldNames_shift, check]

namespace PluginCommand

theorem ofRecord_shift (fields : Entries) :
    ofRecord (Value.shiftEntries offset fields) = (ofRecord fields).shift offset := by
  have runner : Runner.ofRecord? (Value.shiftEntries offset fields) =
      (Runner.ofRecord? fields).map (·.shift offset) := by
    rw [Runner.ofRecord?, Value.lookup_shiftEntries, Runner.ofRecord?]
    rcases Table.lookup (Key.text "run") fields with - | target
    · rfl
    · cases target <;> rfl
  have field := @fieldOr_shiftEntries offset fields
  simp only [ofRecord, shift, runner, field _ (Value.shift_null offset),
    field _ (Value.shift_text offset ""), field _ (Value.shift_list_nil offset)]

theorem create_shift (id : Value) (fields : Entries) :
    create id (Value.shiftEntries offset fields) = (create id fields).shift offset := by
  have runner : (Table.lookup (Key.text "handler") (Value.shiftEntries offset fields)).map
      Runner.onEach =
        ((Table.lookup (Key.text "handler") fields).map Runner.onEach).map (·.shift offset) := by
    rw [Value.lookup_shiftEntries]
    cases Table.lookup (Key.text "handler") fields <;> rfl
  have field := @fieldOr_shiftEntries offset fields
  simp only [create, shift, runner, field _ (Value.shift_null offset),
    field _ (Value.shift_text offset ""), Value.orElse_shift, Value.asText_shift,
    Value.shift_text, Value.shift_list_nil]

end PluginCommand

theorem Offer.declaration_shift (offer : Offer) (id : Value) :
    (offer.shift offset).declaration id =
      (offer.declaration id).map (·.shift offset) := by
  cases offer with
  | declared declaration => rfl
  | record fields callables =>
      simp only [Offer.shift, declaration, joinFields_shift]
      cases joinFields "axiom.plugins.base.PluginCommand" fields callables with
      | error fault => rfl
      | ok joined =>
          simp only [Except.map, Except.bind, RecordShape.check_shift,
            PluginCommand.ofRecord_shift]
          cases PluginCommand.shape.check joined <;> rfl
  | created fields callables =>
      simp only [Offer.shift, declaration, joinFields_shift]
      cases joinFields "axiom.plugins.base.BasePlugin.create_command" fields callables with
      | error fault => rfl
      | ok joined =>
          simp only [Except.map, Except.bind, RecordShape.check_shift,
            PluginCommand.create_shift]
          cases PluginCommand.creation.check joined <;> rfl

namespace Plugin

theorem replaceCommand_shift (commands : List PluginCommand) (command : PluginCommand) :
    replaceCommand (commands.map (·.shift offset)) (command.shift offset) =
      (replaceCommand commands command).map (·.shift offset) := by
  have kept : (fun present : PluginCommand => !present.name.equals (command.shift offset).name) ∘
      PluginCommand.shift offset = fun present => !present.name.equals command.name := by
    funext present
    exact congrArg Bool.not (Value.equals_shift offset present.name command.name)
  simp only [replaceCommand, List.filter_map, List.map_append, List.map_singleton, kept]

theorem register_shift (plugin : Plugin) (declaration : Declaration) :
    (plugin.shift offset).register (declaration.shift offset) =
      (plugin.register declaration).map fun outcome => (outcome.1.shift offset, outcome.2) := by
  unfold register
  rw [Declaration.normalize_shift]
  rcases declaration.normalize with fault | command
  · cases fault <;> rfl
  · obtain ⟨id, name, description, enabled, ready, requiresReady, notice, body⟩ := plugin
    cases body with
    | managed commands => simp [Except.map, shift, replaceCommand_shift]
    | foreign declared conduct => rfl

theorem declarations_shift (plugin : Plugin) :
    (plugin.shift offset).declarations =
      plugin.declarations.map (List.map (·.shift offset)) := by
  obtain ⟨id, name, description, enabled, ready, requiresReady, notice, body⟩ := plugin
  cases body with
  | managed commands =>
      simp only [declarations, shift, Except.map, List.map_map]
      rfl
  | foreign declared conduct =>
      simp only [declarations, shift]
      cases conduct.listing <;> rfl

end Plugin

namespace Blueprint

theorem registerOffers_shift (offers : List Offer) (plugin : Plugin) :
    registerOffers (offers.map (·.shift offset)) (plugin.shift offset) =
      (registerOffers offers plugin).map (·.shift offset) := by
  induction offers generalizing plugin with
  | nil => rfl
  | cons offer rest induction =>
      have id : (plugin.shift offset).id = plugin.id := rfl
      rw [List.map_cons, registerOffers, registerOffers, Offer.declaration_shift, id]
      rcases offer.declaration plugin.id with fault | declaration
      · rfl
      · simp only [Except.map, Plugin.register_shift]
        rcases plugin.register declaration with fault | ⟨next, accepted⟩
        · rfl
        · exact induction next

theorem declarations_shift (id : Value) (offers : List Offer) :
    declarations id (offers.map (·.shift offset)) =
      (declarations id offers).map (List.map (·.shift offset)) := by
  induction offers with
  | nil => rfl
  | cons offer rest induction =>
      rw [List.map_cons, declarations, declarations, Offer.declaration_shift, induction]
      rcases offer.declaration id with fault | declaration
      · rfl
      · rcases declarations id rest with fault | declared
        · rfl
        · rfl

/-- Callables may be numbered before or after a plugin is built. -/
theorem build_shift (blueprint : Blueprint) :
    (blueprint.shift offset).build = blueprint.build.map (·.shift offset) := by
  cases blueprint with
  | managed className config traits =>
      simp only [Blueprint.shift, build, PluginTraits.shift]
      split
      · rfl
      · cases enabledBy config with
        | error fault => rfl
        | ok enabled =>
            dsimp only
            rw [← registerOffers_shift]
            rfl
  | foreign enabled ready conduct traits =>
      simp only [Blueprint.shift, build, PluginTraits.shift, declarations_shift]
      cases declarations traits.id traits.offers <;> rfl
  | other content =>
      simp only [Blueprint.shift, build, impostor, Value.kind_shift]
      rfl

end Blueprint

end ChatDispatch
