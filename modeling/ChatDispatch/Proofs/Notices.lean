import ChatDispatch.Notices
import ChatDispatch.Proofs.Table

/-!
# Notices under settings

There are two causes of a notice, and a table for each.  The settings word the notices of some
agents: `worded?` says what an entry makes of one, read off the entry alone.  Whatever else the
settings have, the table of a cause gives an agent the wording of its own entry, or else the
notice that is there without settings (`lookup_ofCause_withOverrides`).  So the causes and the
agents do not interfere.
-/

namespace ChatDispatch

/-- Why a command is answered with a notice: its agent is not set up, or the plugin waits for
credentials. -/
inductive Cause where
  | missing
  | locked
deriving DecidableEq

/-- The keys of a cause in the entry of an agent, in the order in which they count. -/
def Cause.keys : Cause → List String
  | .missing => ["not-configured", "not_configured"]
  | .locked => ["auth-required", "auth_required"]

namespace Notices

def ofCause (notices : Notices) : Cause → List (Key × String)
  | .missing => notices.missing
  | .locked => notices.locked

/-- What the entry of an agent words for a cause: the first of its values that holds, as a text.
There need not be an entry, and one that is no mapping words nothing. -/
def worded? (cause : Cause) : Option Value → Option String
  | some (.map own) =>
      ((cause.keys.filterMap fun key => Table.lookup (Key.text key) own).find? Value.holds).map
        Value.asText
  | _ => none

/-- What the settings have about notices; the spelling with a dash counts first. -/
def listed? (data : Entries) : Option Value :=
  (Table.lookup (Key.text "soft-failures") data).or (Table.lookup (Key.text "soft_failures") data)

/-- The settings override notices by a mapping from agents, or by nothing at all. -/
inductive Overrides (data : Entries) : Entries → Prop where
  | absent (none : listed? data = none) : Overrides data []
  | void {value : Value} (listed : listed? data = some value) (void : value.holds = false) :
      Overrides data []
  | mapping {entries : Entries} (listed : listed? data = some (.map entries))
      (distinct : Table.Distinct entries) : Overrides data entries

/-- The notice of an agent under overrides: the wording of its own entry, or else the one that is
there without settings. -/
def notice? (overrides : Entries) (cause : Cause) (agent : Key) : Option String :=
  (worded? cause (Table.lookup agent overrides)).or (Table.lookup agent (default.ofCause cause))

variable {overrides : Entries} {agent other : Key} {cause : Cause}

theorem firstHolding_eq_find? (own : Entries) (first second : String) :
    let chosen := firstHolding own first second
    (if chosen.holds then some chosen.asText else none) =
      (([first, second].filterMap fun key => Table.lookup (Key.text key) own).find?
        Value.holds).map Value.asText := by
  have null : Value.null.holds = false := rfl
  unfold firstHolding fieldOr Value.orElse
  cases one : Table.lookup (Key.text first) own with
  | none =>
      cases two : Table.lookup (Key.text second) own with
      | none => simp [one, two, null]
      | some value => cases holds : value.holds <;> simp [one, two, null, holds]
  | some value =>
      cases holds : value.holds with
      | true => simp [one, holds]
      | false =>
          cases two : Table.lookup (Key.text second) own with
          | none => simp [one, two, null, holds]
          | some last => cases held : last.holds <;> simp [one, two, holds, held]

theorem lookup_override (agent other : Key) (notice : Value) (table : List (Key × String)) :
    Table.lookup other (override agent notice table) =
      if agent == other then
        (if notice.holds then some notice.asText else none).or (Table.lookup other table)
      else Table.lookup other table := by
  unfold override
  cases same : agent == other with
  | false =>
      split
      · exact Table.lookup_store_of_ne same notice.asText table
      · rfl
  | true =>
      split
      · rw [← Table.lookup_congr same, Table.lookup_store_self]
        rfl
      · rfl

/-- An entry words the notices of its own agent, each cause by itself. -/
theorem lookup_overrideAgent (notices : Notices) (agent other : Key) (entry : Value)
    (cause : Cause) :
    Table.lookup other ((notices.overrideAgent agent entry).ofCause cause) =
      if agent == other then
        (worded? cause (some entry)).or (Table.lookup other (notices.ofCause cause))
      else Table.lookup other (notices.ofCause cause) := by
  cases entry with
  | map own =>
      cases cause with
      | missing =>
          rw [worded?, Cause.keys, ← firstHolding_eq_find?]
          exact lookup_override agent other _ notices.missing
      | locked =>
          rw [worded?, Cause.keys, ← firstHolding_eq_find?]
          exact lookup_override agent other _ notices.locked
  | _ => exact (ite_self _).symm

theorem lookup_foldl_overrideAgent (distinct : Table.Distinct overrides)
    (notices : Notices) (cause : Cause) (agent : Key) :
    Table.lookup agent
        ((overrides.foldl (fun notices entry => notices.overrideAgent entry.1 entry.2)
          notices).ofCause cause) =
      (worded? cause (Table.lookup agent overrides)).or
        (Table.lookup agent (notices.ofCause cause)) := by
  induction overrides generalizing notices with
  | nil => rfl
  | cons entry rest induction =>
      obtain ⟨different, distinctRest⟩ := List.pairwise_cons.mp distinct
      rw [List.foldl_cons, induction distinctRest, lookup_overrideAgent]
      cases same : entry.1 == agent with
      | false => simp [Table.lookup, same]
      | true =>
          have absent : Table.lookup agent rest = none :=
            Table.lookup_eq_none_iff.mpr fun later member => by
              rw [← BEq.congr_right same, BEq.comm]
              exact different later member
          simp [Table.lookup, same, absent, worded?]

/-- An agent has the notice that its own entry words, or else the one without settings. -/
theorem lookup_ofCause_withOverrides (distinct : Table.Distinct overrides) (cause : Cause)
    (agent : Key) :
    Table.lookup agent ((withOverrides overrides).ofCause cause) = notice? overrides cause agent :=
  lookup_foldl_overrideAgent distinct default cause agent

/-- What is overridden for one agent does not matter to another. -/
theorem notice?_store_of_ne (different : (other == agent) = false) (entry : Value)
    (overrides : Entries) (cause : Cause) :
    notice? (Table.store other entry overrides) cause agent = notice? overrides cause agent := by
  rw [notice?, notice?, Table.lookup_store_of_ne different]

theorem not_mem_keys_of_ne {cause another : Cause} (different : another ≠ cause) :
    ∀ key ∈ another.keys, key ∉ cause.keys := by
  cases another with
  | missing =>
      cases cause with
      | missing => exact absurd rfl different
      | locked => decide
  | locked =>
      cases cause with
      | missing => decide
      | locked => exact absurd rfl different

/-- What is overridden for one cause does not matter to the other. -/
theorem notice?_store_another {cause another : Cause} (different : another ≠ cause) {key : String}
    (ofAnother : key ∈ another.keys) (value : Value) (agent : Key) (own overrides : Entries) :
    notice? (Table.store agent (.map (Table.store (Key.text key) value own)) overrides)
        cause agent =
      notice? (Table.store agent (.map own) overrides) cause agent := by
  have kept : cause.keys.filterMap
      (fun field => Table.lookup (Key.text field) (Table.store (Key.text key) value own)) =
        cause.keys.filterMap fun field => Table.lookup (Key.text field) own := by
    refine List.filterMap_congr fun field member => Table.lookup_store_of_ne ?_ value own
    rw [Key.beq_text]
    refine beq_eq_false_iff_ne.mpr fun same => ?_
    exact not_mem_keys_of_ne different key ofAnother (same ▸ member)
  simp only [notice?, Table.lookup_store_self, worded?, kept]

theorem find?_softFailures (data : Entries) :
    (Nested.find? "soft-failures" data).map (·.2) = listed? data := by
  have spelled : Nested.spellings "soft-failures" = ["soft-failures", "soft_failures"] := by
    decide
  rw [Nested.find?, spelled, listed?]
  cases first : Table.lookup (Key.text "soft-failures") data with
  | some value => simp [first]
  | none =>
      cases second : Table.lookup (Key.text "soft_failures") data <;> simp [first, second]

theorem get_softFailures (settings : Settings) (fallback : Value) :
    settings.get ["soft-failures"] fallback =
      .ok (match listed? settings.data with
        | none => fallback
        | some .null => fallback
        | some value => value) := by
  have alone : Nested.segments "soft-failures" = ["soft-failures"] := by decide
  have read : settings.get ["soft-failures"] fallback =
      (Nested.readFirst (.map settings.data) ["soft-failures"]).map fun found =>
        found.getD fallback := rfl
  rw [read, Nested.readFirst, alone, Nested.follow, Nested.select, find?_softFailures]
  cases listed? settings.data with
  | none => rfl
  | some value => cases value <;> rfl

/-- Settings that override notices properly, or not at all, give notices. -/
theorem ofSettings_of_overrides {settings : Settings}
    (has : Overrides settings.data overrides) :
    ofSettings (some settings) = .ok (withOverrides overrides) := by
  simp only [ofSettings, get_softFailures]
  cases has with
  | absent none =>
      rw [none]
      rfl
  | void listed void =>
      rename_i value
      rw [listed]
      cases value with
      | null => rfl
      | _ => simp [Value.orElse, void]
  | mapping listed =>
      rw [listed]
      cases overrides with
      | nil => rfl
      | cons entry rest => rfl

theorem Overrides.distinct {data : Entries} (has : Overrides data overrides) :
    Table.Distinct overrides := by
  cases has with
  | absent => exact Table.distinct_nil
  | void => exact Table.distinct_nil
  | mapping _ distinct => exact distinct

end Notices

end ChatDispatch
