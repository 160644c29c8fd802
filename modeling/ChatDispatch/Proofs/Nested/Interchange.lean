import ChatDispatch.Proofs.Nested.Lens
import Mathlib.Data.List.Forall2
import Mathlib.Data.List.Pairwise

/-!
# Interchanging dashes and underscores

In a tidy tree no map has two keys that differ only in dashes and underscores.  A write goes
through one key at every level.  The tree stays tidy when each of these keys has no other
spelling beside it, and the value is then found along another spelling of the path when each of
its segments leads to the key of its level.

Neither is always so.  An entry that is no map is not entered but put aside under the spelling
that the path has, and a segment that mixes dashes and underscores is not found by other mixed
ones, nor by pure ones.  Where only maps are entered and no key is mixed, both hold.
-/

namespace ChatDispatch

/-- A key with the common spelling of a text. -/
def Key.common : Key → Key
  | .text content => .text (Nested.common content)
  | key => key

namespace Nested

variable {segment other key : String} {path others : List String} {value : Value}
  {entries : Entries}

/-- No two keys have the same common spelling. -/
def Unlike (keys : List Key) : Prop :=
  keys.Pairwise fun left right => (left.common == right.common) = false

instance (keys : List Key) : Decidable (Unlike keys) :=
  inferInstanceAs (Decidable (keys.Pairwise _))

mutual

/-- Whether no map in a value has two keys that differ only in dashes and underscores. -/
def isTidy : Value → Bool
  | .list items => areTidy items
  | .map entries => decide (Unlike (entries.map (·.1))) && holdsTidy entries
  | _ => true
termination_by structural value => value

def areTidy : List Value → Bool
  | [] => true
  | item :: items => isTidy item && areTidy items
termination_by structural items => items

/-- Whether all values of a list of entries are tidy. -/
def holdsTidy : List (Key × Value) → Bool
  | [] => true
  | (_, value) :: entries => isTidy value && holdsTidy entries
termination_by structural entries => entries

end

theorem holdsTidy_iff {entries : Entries} :
    holdsTidy entries = true ↔ ∀ entry ∈ entries, isTidy entry.2 = true := by
  induction entries with
  | nil => simp [holdsTidy]
  | cons entry rest induction => simp [holdsTidy, induction]

theorem isTidy_map_iff {entries : Entries} :
    isTidy (.map entries) = true ↔
      Unlike (entries.map (·.1)) ∧ ∀ entry ∈ entries, isTidy entry.2 = true := by
  rw [isTidy, Bool.and_eq_true, decide_eq_true_iff, holdsTidy_iff]

theorem isTidy_nil : isTidy (.map []) = true :=
  isTidy_map_iff.mpr ⟨List.Pairwise.nil, nofun⟩

theorem mem_keys_iff :
    Key.text key ∈ entries.map (·.1) ↔
      ∃ value, Table.lookup (Key.text key) entries = some value := by
  constructor
  · intro member
    cases found : Table.lookup (Key.text key) entries with
    | some value => exact ⟨value, rfl⟩
    | none =>
        obtain ⟨entry, inside, same⟩ := List.mem_map.mp member
        have different := Table.lookup_eq_none_iff.mp found entry inside
        rw [same, BEq.rfl] at different
        cases different
  · rintro ⟨value, found⟩
    obtain ⟨entry, inside, alike, -⟩ := Table.exists_mem_of_lookup found
    exact List.mem_map.mpr ⟨entry, inside, Key.eq_text_of_alike alike⟩

theorem isTidy_of_lookup (tidy : isTidy (.map entries) = true)
    (found : Table.lookup (Key.text key) entries = some value) : isTidy value = true := by
  obtain ⟨entry, member, -, rfl⟩ := Table.exists_mem_of_lookup found
  exact (isTidy_map_iff.mp tidy).2 entry member

/-- A key has no other spelling among the keys of a map. -/
def Sole (key : String) (entries : Entries) : Prop :=
  ∀ spelling, Key.text spelling ∈ entries.map (·.1) → common spelling = common key →
    spelling = key

theorem common_beq_text_iff {candidate : Key} :
    (candidate.common == Key.text (common key)) = true ↔
      ∃ spelling, candidate = .text spelling ∧ common spelling = common key := by
  constructor
  · intro alike
    have same := Key.eq_text_of_alike alike
    cases candidate with
    | text spelling => exact ⟨spelling, rfl, Key.text.inj same⟩
    | _ => cases same
  · rintro ⟨spelling, rfl, same⟩
    rw [Key.common, Key.beq_text, same, BEq.rfl]

theorem sole_iff :
    Sole key entries ↔
      ∀ candidate ∈ entries.map (·.1), candidate ≠ .text key →
        (candidate.common == Key.text (common key)) = false := by
  constructor
  · intro sole candidate member apart
    rw [Bool.eq_false_iff]
    intro alike
    obtain ⟨spelling, rfl, same⟩ := common_beq_text_iff.mp alike
    exact apart (congrArg Key.text (sole spelling member same))
  · intro unlike spelling member same
    by_contra different
    have apart := unlike _ member fun equal => different (Key.text.inj equal)
    rw [common_beq_text_iff.mpr ⟨spelling, rfl, same⟩] at apart
    cases apart

theorem sole_of_lookup (tidy : isTidy (.map entries) = true)
    (present : Table.lookup (Key.text key) entries = some value) : Sole key entries := by
  have unlike := (isTidy_map_iff.mp tidy).1
  have symmetric : Std.Symm fun left right : Key => (left.common == right.common) = false :=
    ⟨fun _ _ different => by rwa [BEq.comm]⟩
  refine sole_iff.mpr fun candidate member apart => ?_
  exact unlike.forall member (mem_keys_iff.mpr ⟨value, present⟩) apart

/-- A write keeps a tidy map tidy exactly if its key is without other spellings. -/
theorem isTidy_store_iff (tidy : isTidy (.map entries) = true) (key : String) (value : Value) :
    isTidy (.map (Table.store (Key.text key) value entries)) = true ↔
      isTidy value = true ∧ Sole key entries := by
  obtain ⟨unlike, inside⟩ := isTidy_map_iff.mp tidy
  have keys : Unlike ((Table.store (Key.text key) value entries).map (·.1)) ↔
      Sole key entries := by
    rw [Table.keys_store, Table.holds_eq_isSome_lookup]
    -- A present key has no other spelling anyway; of a new one it is what keeps the keys unlike.
    cases found : Table.lookup (Key.text key) entries with
    | some old =>
        rw [Option.isSome_some, if_pos rfl, List.append_nil]
        exact iff_of_true unlike (sole_of_lookup tidy found)
    | none =>
        rw [Option.isSome_none, if_neg Bool.false_ne_true, sole_iff, Unlike, List.pairwise_append]
        constructor
        · rintro ⟨-, -, apart⟩ candidate member -
          exact apart candidate member _ (List.mem_singleton.mpr rfl)
        · intro sole
          refine ⟨unlike, List.pairwise_singleton _ _, fun candidate member last isLast => ?_⟩
          rw [List.mem_singleton.mp isLast]
          refine sole candidate member fun same => ?_
          obtain ⟨old, present⟩ := mem_keys_iff.mp (same ▸ member)
          rw [found] at present
          cases present
  have values : (∀ entry ∈ Table.store (Key.text key) value entries, isTidy entry.2 = true) ↔
      isTidy value = true := by
    constructor
    · intro all
      have stored := Table.lookup_store_self (Key.text key) value entries
      obtain ⟨entry, member, -, rfl⟩ := Table.exists_mem_of_lookup stored
      exact all entry member
    · intro tidyValue entry member
      rcases Table.mem_store member with old | ⟨same, -⟩
      · exact inside entry old
      · rw [same]
        exact tidyValue
  rw [isTidy_map_iff, keys, values, and_comm]

/-- A key without other spellings is found by exactly the segments that it is a spelling of. -/
theorem find?_store_of_sole (sole : Sole key entries) (same : common key = common segment)
    (value : Value) :
    find? segment (Table.store (Key.text key) value entries) =
      if key ∈ spellings segment then some (key, value) else none := by
  have absent {spelling : String} (member : spelling ∈ spellings segment)
      (different : spelling ≠ key) :
      Table.lookup (Key.text spelling) (Table.store (Key.text key) value entries) = none := by
    rw [lookup_store_text, if_neg different]
    cases found : Table.lookup (Key.text spelling) entries with
    | none => rfl
    | some old =>
        refine absurd (sole spelling (mem_keys_iff.mpr ⟨old, found⟩) ?_) different
        rw [common_of_mem_spellings member, same]
  split_ifs with member
  · cases found : find? segment (Table.store (Key.text key) value entries) with
    | none =>
        have missing := find?_eq_none_iff.mp found key member
        rw [Table.lookup_store_self] at missing
        cases missing
    | some entry =>
        obtain ⟨spelling, own⟩ := entry
        obtain ⟨among, present⟩ := of_find? found
        by_cases here : spelling = key
        · subst here
          rw [Table.lookup_store_self] at present
          rw [Option.some.inj present]
        · rw [absent among here] at present
          cases present
  · exact find?_eq_none_iff.mpr fun spelling among =>
      absent among fun here => member (here ▸ among)

/-- The keys that a write goes through, each with the map that it is a key of. -/
def trail : List String → Entries → List (String × Entries)
  | [], _ => []
  | [last], entries => [(place last entries, entries)]
  | segment :: next :: rest, entries =>
      ((branch segment entries).1, entries) :: trail (next :: rest) (branch segment entries).2

theorem isTidy_branch (tidy : isTidy (.map entries) = true) (segment : String) :
    isTidy (.map (branch segment entries).2) = true := by
  rcases branch_cases segment entries with ⟨key, inner, found, same⟩ | ⟨-, same⟩
  · rw [same]
    exact isTidy_of_lookup tidy (of_find? found).2
  · rw [same]
    exact isTidy_nil

/-- A write keeps a tree tidy exactly if the keys that it goes through are without other
spellings. -/
theorem isTidy_writeAt_iff (tidy : isTidy (.map entries) = true) (filled : path ≠ [])
    (value : Value) :
    isTidy (.map (writeAt value path entries)) = true ↔
      isTidy value = true ∧ ∀ step ∈ trail path entries, Sole step.1 step.2 := by
  induction path generalizing entries with
  | nil => exact absurd rfl filled
  | cons segment rest induction =>
      cases rest with
      | nil =>
          rw [writeAt_singleton, isTidy_store_iff tidy, trail]
          simp only [List.mem_singleton, forall_eq]
      | cons next rest =>
          rw [writeAt_cons_cons, isTidy_store_iff tidy,
            induction (isTidy_branch tidy segment) (List.cons_ne_nil _ _), trail,
            List.forall_mem_cons, and_assoc, and_comm (a := Sole _ _)]

/-- A value is found along another spelling of its path exactly if the segments lead to the keys
that it was written through. -/
theorem follow_writeAt_iff (same : path.map common = others.map common) (filled : path ≠ [])
    (sole : ∀ step ∈ trail path entries, Sole step.1 step.2) (value : Value) :
    follow others (.map (writeAt value path entries)) = .ok (some value) ↔
      List.Forall₂ (fun step segment => step.1 ∈ spellings segment) (trail path entries)
        others := by
  induction path generalizing entries others with
  | nil => exact absurd rfl filled
  | cons segment rest induction =>
      obtain ⟨other, last, rfl⟩ : ∃ other last, others = other :: last := by
        cases others with
        | nil => cases same
        | cons other last => exact ⟨other, last, rfl⟩
      obtain ⟨here, later⟩ := List.cons.inj same
      cases rest with
      | nil =>
          obtain rfl := List.map_eq_nil_iff.mp later.symm
          have meets := find?_store_of_sole (sole _ (List.mem_singleton.mpr rfl))
            ((common_place segment entries).trans here) value
          rw [writeAt_singleton, trail, List.forall₂_cons, and_iff_left .nil]
          split_ifs at meets with member
          · rw [follow_of_find? meets]
            exact iff_of_true rfl member
          · rw [follow_of_find?_none meets]
            exact iff_of_false nofun member
      | cons next rest =>
          obtain ⟨first, inside⟩ := List.forall_mem_cons.mp sole
          have meets := find?_store_of_sole first ((common_branch segment entries).trans here)
            (.map (writeAt value (next :: rest) (branch segment entries).2))
          rw [writeAt_cons_cons, trail, List.forall₂_cons]
          split_ifs at meets with member
          · rw [follow_of_find? meets, induction later (List.cons_ne_nil _ _) inside,
              and_iff_right member]
          · rw [follow_of_find?_none meets]
            exact iff_of_false nofun fun both => member both.1

def IsRoom (found : Option Value) : Prop :=
  found = none ∨ IsMap found

/-- A pure segment that is not found has no other pure spelling. -/
theorem sole_of_pure (pureSegment : Pure segment)
    (pureKeys : ∀ spelling, Key.text spelling ∈ entries.map (·.1) → Pure spelling)
    (missing : find? segment entries = none) : Sole segment entries := by
  intro spelling member same
  have among := mem_spellings_of_pure (pureKeys spelling member) pureSegment same
  obtain ⟨value, present⟩ := mem_keys_iff.mp member
  rw [find?_eq_none_iff.mp missing spelling among] at present
  cases present

theorem sole_place (tidy : isTidy (.map entries) = true) (pureSegment : Pure segment)
    (pureKeys : ∀ spelling, Key.text spelling ∈ entries.map (·.1) → Pure spelling) :
    Sole (place segment entries) entries ∧ Pure (place segment entries) := by
  unfold place
  cases found : find? segment entries with
  | none => exact ⟨sole_of_pure pureSegment pureKeys found, pureSegment⟩
  | some entry =>
      obtain ⟨-, present⟩ := of_find? found
      exact ⟨sole_of_lookup tidy present, pureKeys _ (mem_keys_iff.mpr ⟨_, present⟩)⟩

/-- Where a segment leads to a map or to nothing, a map is written like any other value. -/
theorem branch_of_room (room : IsRoom ((find? segment entries).map (·.2))) :
    (branch segment entries).1 = place segment entries := by
  rcases branch_cases segment entries with ⟨key, inner, found, same⟩ | ⟨noMap, same⟩
  · rw [same, place, found]
    rfl
  · rw [same, place]
    rcases room with missing | ⟨inner, isMap⟩
    · rw [Option.map_eq_none_iff.mp missing]
      rfl
    · obtain ⟨⟨key, value⟩, found, rfl⟩ := Option.map_eq_some_iff.mp isMap
      exact absurd found (noMap key inner)

theorem Along.branch {next : String} {rest : List String}
    (along : Along (segment :: next :: rest) entries IsRoom) :
    Along (next :: rest) (Nested.branch segment entries).2 IsRoom := by
  rcases branch_cases segment entries with ⟨key, inner, found, same⟩ | ⟨-, same⟩
  · rw [same]
    exact along.inner found
  · rw [same]
    exact along_nil (.inl rfl) (.inr ⟨[], rfl⟩) _

/-- Where maps are entered only and all keys are pure, a write goes through pure keys without
other spellings. -/
theorem sole_trail (tidy : isTidy (.map entries) = true) (room : Along path entries IsRoom)
    (pureSegments : ∀ segment ∈ path, Pure segment)
    (pureKeys : ∀ step ∈ trail path entries, ∀ spelling,
      Key.text spelling ∈ step.2.map (·.1) → Pure spelling) :
    ∀ step ∈ trail path entries, Sole step.1 step.2 ∧ Pure step.1 := by
  induction path generalizing entries with
  | nil => exact nofun
  | cons segment rest induction =>
      have pureSegment := pureSegments segment List.mem_cons_self
      cases rest with
      | nil =>
          rw [trail] at pureKeys ⊢
          intro step last
          rw [List.mem_singleton.mp last]
          exact sole_place tidy pureSegment (pureKeys _ (List.mem_singleton.mpr rfl))
      | cons next rest =>
          rw [trail] at pureKeys ⊢
          obtain ⟨here, inside⟩ := List.forall_mem_cons.mp pureKeys
          refine List.forall_mem_cons.mpr ⟨?_, induction (isTidy_branch tidy segment) room.branch
            (fun segment member => pureSegments segment (List.mem_cons_of_mem _ member)) inside⟩
          rw [branch_of_room room.find?]
          exact sole_place tidy pureSegment here

theorem common_trail (path : List String) (entries : Entries) :
    (trail path entries).map (fun step => common step.1) = path.map common := by
  induction path generalizing entries with
  | nil => rfl
  | cons segment rest induction =>
      cases rest with
      | nil => rw [trail, List.map_singleton, common_place, List.map_singleton]
      | cons next rest =>
          rw [trail, List.map_cons, induction, common_branch, List.map_cons (l := next :: rest)]

/-- Pure segments lead to all pure keys that they have a common spelling with. -/
theorem meets_of_pure {steps : List (String × Entries)}
    (same : steps.map (fun step => common step.1) = others.map common)
    (pureKeys : ∀ step ∈ steps, Pure step.1) (pureSegments : ∀ segment ∈ others, Pure segment) :
    List.Forall₂ (fun step segment => step.1 ∈ spellings segment) steps others := by
  induction steps generalizing others with
  | nil =>
      rw [List.map_eq_nil_iff.mp same.symm]
      exact .nil
  | cons step rest induction =>
      cases others with
      | nil => cases same
      | cons segment later =>
          obtain ⟨here, inside⟩ := List.cons.inj same
          obtain ⟨pureKey, pureRest⟩ := List.forall_mem_cons.mp pureKeys
          obtain ⟨pureSegment, pureLater⟩ := List.forall_mem_cons.mp pureSegments
          exact .cons (mem_spellings_of_pure pureKey pureSegment here)
            (induction inside pureRest pureLater)

end Nested

namespace Text

/-- A change that leaves the mark and makes no new one changes the pieces. -/
theorem split_map (mark : Char) {change : Char → Char}
    (fixed : ∀ character, change character = mark ↔ character = mark) (text : List Char) :
    split mark (text.map change) = (split mark text).map fun piece => piece.map change := by
  induction text with
  | nil => rfl
  | cons character rest induction =>
      rw [List.map_cons, split, split, induction]
      simp only [fixed]
      split_ifs
      · rfl
      · cases split mark rest <;> rfl

end Text

namespace Nested

theorem segments_common (path : String) :
    segments (common path) = (segments path).map common := by
  have fixed (character : Char) :
      (if character = '-' then '_' else character) = '.' ↔ character = '.' := by
    split_ifs with dash
    · rw [dash]
      decide
    · rfl
  rw [segments, Text.pieces, common, Text.toList_replaceChar, Text.split_map '.' fixed, segments,
    Text.pieces, List.map_map, List.map_map]
  refine List.map_congr_left fun piece _ => ?_
  rw [Function.comp_apply, Function.comp_apply, common, Text.replaceChar, String.toList_ofList]

/-- After a write the tree is still tidy exactly if the keys that the write goes through are
without other spellings, and the value is then read at another spelling of the path exactly if
its segments lead to these keys.  So it is where only maps are entered and all keys are pure. -/
theorem write_interchanges {entries : Entries} (tidy : isTidy (.map entries) = true)
    {path other : String} (same : common path = common other) {value : Value}
    (present : value ≠ .null) :
    let after := Value.map (write entries path value)
    let steps := trail (segments path) entries
    (isTidy after = true ↔ isTidy value = true ∧ ∀ step ∈ steps, Sole step.1 step.2) ∧
      ((∀ step ∈ steps, Sole step.1 step.2) →
        (read after [other] .null = .ok value ↔
          List.Forall₂ (fun step segment => step.1 ∈ spellings segment) steps
            (segments other))) ∧
      (Along (segments path) entries IsRoom →
        (∀ segment ∈ segments path ++ segments other, Pure segment) →
        (∀ step ∈ steps, ∀ spelling, Key.text spelling ∈ step.2.map (·.1) → Pure spelling) →
          isTidy after = isTidy value ∧ read after [other] .null = .ok value) := by
  intro after steps
  have filled := segments_ne_nil path
  have parts : (segments path).map common = (segments other).map common := by
    rw [← segments_common, same, segments_common]
  have kept : isTidy after = true ↔ isTidy value = true ∧ ∀ step ∈ steps, Sole step.1 step.2 :=
    isTidy_writeAt_iff tidy filled value
  have found (sole : ∀ step ∈ steps, Sole step.1 step.2) :
      read after [other] .null = .ok value ↔
        List.Forall₂ (fun step segment => step.1 ∈ spellings segment) steps
          (segments other) := by
    rw [← follow_writeAt_iff parts filled sole value]
    exact ⟨follow_of_read present, fun followed => read_of_follow present followed .null⟩
  refine ⟨kept, found, fun room pureSegments pureKeys => ?_⟩
  obtain ⟨purePath, pureOther⟩ := List.forall_mem_append.mp pureSegments
  have solePure := sole_trail tidy room purePath pureKeys
  have sole : ∀ step ∈ steps, Sole step.1 step.2 := fun step member => (solePure step member).1
  refine ⟨Bool.eq_iff_iff.mpr (kept.trans (and_iff_left sole)), (found sole).mpr ?_⟩
  refine meets_of_pure ?_ (fun step member => (solePure step member).2) pureOther
  rw [common_trail, parts]

/-- Settings that are entered under another spelling than they have, for a new entry. -/
theorem write_interchanges_plugin_paths :
    let before : Entries := [(.text "plugin_paths", .map [(.text "user", .text "~/p")])]
    let after := Value.map (write before "plugin-paths.built-in" (.text "/q"))
    isTidy (.map before) = true ∧
      common "plugin-paths.built-in" = common "plugin_paths.built_in" ∧
      Value.text "/q" ≠ .null ∧ isTidy after = true ∧
      read after ["plugin_paths.built_in"] .null = .ok (.text "/q") := by
  intro before after
  have tidy : isTidy (.map before) = true := by decide +kernel
  have same : common "plugin-paths.built-in" = common "plugin_paths.built_in" := by
    decide +kernel
  have parts : segments "plugin-paths.built-in" = ["plugin-paths", "built-in"] ∧
      segments "plugin_paths.built_in" = ["plugin_paths", "built_in"] := by decide
  have steps : trail ["plugin-paths", "built-in"] before =
      [("plugin_paths", before), ("built-in", [(.text "user", .text "~/p")])] := by
    decide +kernel
  have present : Value.text "/q" ≠ .null := nofun
  obtain ⟨-, -, both⟩ := write_interchanges tidy same present
  rw [parts.1, parts.2, steps] at both
  obtain ⟨kept, found⟩ := both (along_pair (.inr ⟨_, rfl⟩) (.inr ⟨_, rfl⟩) "built-in")
    (by decide) (by simp +decide [before])
  exact ⟨tidy, same, present, kept, found⟩

/-- An entry that is no map gets a second spelling beside it, which hides the new map from
paths with the first one. -/
theorem not_interchanged_beside_number :
    let before : Entries := [(.text "a_b", .int 5)]
    let after := Value.map (write before "a-b.c" (.int 1))
    isTidy (.map before) = true ∧ common "a-b.c" = common "a_b.c" ∧
      read after ["a_b.c"] .null = .ok .null ∧ isTidy after = false := by
  decide +kernel

/-- A mixed spelling is not found by a pure one. -/
example :
    common "a-b_c" = common "a_b_c" ∧
      read (.map (write [] "a-b_c" (.int 1))) ["a_b_c"] .null = .ok .null := by
  decide +kernel

end Nested

end ChatDispatch
