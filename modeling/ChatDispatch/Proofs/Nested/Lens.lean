import ChatDispatch.Proofs.Nested.Spelling

/-!
# Reading what is written

Reading and writing at a path go together like the two halves of a lens: a written value is read
back, a second write hides the first one, and writing what is read anyway changes nothing.  A
write leaves all paths alone that lead elsewhere.

Reader and writer look a segment up in the same way, so at every level the entry that is written
is the one that is found.  They part at an entry that is no map: the writer puts a new map under
the segment as it is spelled, and it is found first from then on.
-/

namespace ChatDispatch.Nested

variable {segment : String} {path other : List String} {value : Value} {entries : Entries}

/-- The key that a value is written under: that of the entry that is present, or the segment. -/
def place (segment : String) (entries : Entries) : String :=
  ((find? segment entries).map (·.1)).getD segment

theorem find?_store_place (segment : String) (entries : Entries) (value : Value) :
    find? segment (Table.store (Key.text (place segment entries)) value entries) =
      some (place segment entries, value) := by
  unfold place
  cases found : find? segment entries with
  | none => exact find?_of_lookup (Table.lookup_store_self _ _ _)
  | some entry =>
      obtain ⟨key, old⟩ := entry
      obtain ⟨-, present⟩ := of_find? found
      rw [Option.map_some, Option.getD_some, find?_store_of_lookup present, found, Option.map_some,
        if_pos rfl]

/-- A segment leads into the map that is found under it, or into a new one that is put under the
segment itself. -/
theorem branch_cases (segment : String) (entries : Entries) :
    (∃ key inner, find? segment entries = some (key, .map inner) ∧
      branch segment entries = (key, inner)) ∨
      (∀ key inner, find? segment entries ≠ some (key, .map inner)) ∧
        branch segment entries = (segment, []) := by
  unfold branch
  split
  · rename_i key inner found
    exact .inl ⟨key, inner, found, rfl⟩
  · rename_i noMap
    exact .inr ⟨noMap, rfl⟩

theorem find?_store_branch (segment : String) (entries : Entries) (value : Value) :
    find? segment (Table.store (Key.text (branch segment entries).1) value entries) =
      some ((branch segment entries).1, value) := by
  rcases branch_cases segment entries with ⟨key, inner, found, same⟩ | ⟨-, same⟩
  · obtain ⟨-, present⟩ := of_find? found
    rw [same, find?_store_of_lookup present, found, Option.map_some, if_pos rfl]
  · rw [same]
    exact find?_of_lookup (Table.lookup_store_self _ _ _)

theorem common_place (segment : String) (entries : Entries) :
    common (place segment entries) = common segment :=
  common_of_mem_spellings (of_find? (find?_store_place segment entries .null)).1

theorem common_branch (segment : String) (entries : Entries) :
    common (branch segment entries).1 = common segment :=
  common_of_mem_spellings (of_find? (find?_store_branch segment entries .null)).1

theorem writeAt_singleton (value : Value) (segment : String) (entries : Entries) :
    writeAt value [segment] entries =
      Table.store (Key.text (place segment entries)) value entries := by
  rw [writeAt, place]
  cases find? segment entries <;> rfl

theorem writeAt_cons_cons (value : Value) (segment next : String) (rest : List String)
    (entries : Entries) :
    writeAt value (segment :: next :: rest) entries =
      Table.store (Key.text (branch segment entries).1)
        (.map (writeAt value (next :: rest) (branch segment entries).2)) entries :=
  rfl

/-- A write changes one entry, whose key is a spelling of the first segment. -/
theorem exists_writeAt_cons (value : Value) (segment : String) (rest : List String)
    (entries : Entries) :
    ∃ key content, common key = common segment ∧
      writeAt value (segment :: rest) entries = Table.store (Key.text key) content entries := by
  cases rest with
  | nil => exact ⟨_, _, common_place segment entries, writeAt_singleton value segment entries⟩
  | cons next rest =>
      exact ⟨_, _, common_branch segment entries,
        writeAt_cons_cons value segment next rest entries⟩

theorem follow_of_find? {key : String} (found : find? segment entries = some (key, value))
    (rest : List String) : follow (segment :: rest) (.map entries) = follow rest value := by
  rw [follow, select, found]
  rfl

theorem follow_of_find?_none (missing : find? segment entries = none) (rest : List String) :
    follow (segment :: rest) (.map entries) = .ok none := by
  rw [follow, select, missing]
  rfl

theorem exists_find?_of_follow {rest : List String} {leads : Value}
    (followed : follow (segment :: rest) (.map entries) = .ok (some leads)) :
    ∃ key found, find? segment entries = some (key, found) ∧
      follow rest found = .ok (some leads) := by
  cases found : find? segment entries with
  | none =>
      rw [follow_of_find?_none found] at followed
      cases followed
  | some entry =>
      rw [follow_of_find? found] at followed
      exact ⟨entry.1, entry.2, rfl, followed⟩

theorem follow_writeAt (filled : path ≠ []) (value : Value) (entries : Entries) :
    follow path (.map (writeAt value path entries)) = .ok (some value) := by
  induction path generalizing entries with
  | nil => exact absurd rfl filled
  | cons segment rest induction =>
      cases rest with
      | nil =>
          rw [writeAt_singleton, follow_of_find? (find?_store_place segment entries value)]
          rfl
      | cons next rest =>
          rw [writeAt_cons_cons, follow_of_find? (find?_store_branch segment entries _)]
          exact induction (List.cons_ne_nil _ _) _

/-- Of two values that are written one after the other, the second one stands in the place of the
first. -/
theorem writeAt_writeAt (first second : Value) (path : List String) (entries : Entries) :
    writeAt second path (writeAt first path entries) = writeAt second path entries := by
  induction path generalizing entries with
  | nil => rfl
  | cons segment rest induction =>
      cases rest with
      | nil =>
          have same : place segment (writeAt first [segment] entries) = place segment entries := by
            rw [writeAt_singleton, place, find?_store_place]
            rfl
          rw [writeAt_singleton, same, writeAt_singleton, Table.store_store, ← writeAt_singleton]
      | cons next rest =>
          have same : branch segment (writeAt first (segment :: next :: rest) entries) =
              ((branch segment entries).1,
                writeAt first (next :: rest) (branch segment entries).2) := by
            rw [writeAt_cons_cons, branch, find?_store_branch]
          rw [writeAt_cons_cons, same, induction, writeAt_cons_cons, Table.store_store,
            ← writeAt_cons_cons]

/-- What every part of a path leads to that comes before its end. -/
def Along (path : List String) (entries : Entries) (allowed : Option Value → Prop) : Prop :=
  ∀ front, front <+: path → front ≠ path →
    ∃ found, follow front (.map entries) = .ok found ∧ allowed found

theorem Along.find? {allowed : Option Value → Prop} {next : String} {rest : List String}
    (along : Along (segment :: next :: rest) entries allowed) :
    allowed ((find? segment entries).map (·.2)) := by
  obtain ⟨found, followed, here⟩ := along [segment] (by simp) (by simp)
  cases looked : Nested.find? segment entries with
  | none =>
      obtain rfl := Except.ok.inj ((follow_of_find?_none looked []).symm.trans followed)
      exact here
  | some entry =>
      obtain rfl := Except.ok.inj ((follow_of_find? looked []).symm.trans followed)
      exact here

theorem Along.inner {allowed : Option Value → Prop} {key : String} {inner : Entries}
    {rest : List String} (along : Along (segment :: rest) entries allowed)
    (found : Nested.find? segment entries = some (key, .map inner)) :
    Along rest inner allowed := by
  intro front begins shorter
  obtain ⟨leads, followed, here⟩ := along (segment :: front)
    (List.cons_prefix_cons.mpr ⟨rfl, begins⟩) fun same => shorter (List.cons.inj same).2
  rw [follow_of_find? found] at followed
  exact ⟨leads, followed, here⟩

theorem along_pair {allowed : Option Value → Prop} (whole : allowed (some (.map entries)))
    (first : allowed ((Nested.find? segment entries).map (·.2))) (last : String) :
    Along [segment, last] entries allowed := by
  intro front begins shorter
  rcases List.prefix_cons_iff.mp begins with rfl | ⟨rest, rfl, later⟩
  · exact ⟨_, rfl, whole⟩
  · rcases List.prefix_cons_iff.mp later with rfl | ⟨none, rfl, ends⟩
    · refine ⟨_, ?_, first⟩
      cases found : Nested.find? segment entries with
      | none => exact follow_of_find?_none found []
      | some entry => exact follow_of_find? found []
    · rw [List.prefix_nil.mp ends] at shorter
      contradiction

def IsMap (found : Option Value) : Prop :=
  ∃ inner, found = some (.map inner)

def IsFree (found : Option Value) : Prop :=
  found = none ∨ found = some .null ∨ IsMap found

theorem writeAt_of_follow (along : Along path entries IsMap)
    (followed : follow path (.map entries) = .ok (some value)) :
    writeAt value path entries = entries := by
  induction path generalizing entries with
  | nil => rfl
  | cons segment rest induction =>
      cases rest with
      | nil =>
          obtain ⟨key, found, looked, same⟩ := exists_find?_of_follow followed
          obtain rfl := Option.some.inj (Except.ok.inj same)
          rw [writeAt_singleton, place, looked]
          exact Table.store_of_lookup (of_find? looked).2
      | cons next rest =>
          obtain ⟨inner, isMap⟩ := along.find?
          obtain ⟨⟨key, content⟩, looked, rfl⟩ := Option.map_eq_some_iff.mp isMap
          rw [follow_of_find? looked] at followed
          have branches : branch segment entries = (key, inner) := by rw [branch, looked]
          rw [writeAt_cons_cons, branches, induction (along.inner looked) followed]
          exact Table.store_of_lookup (of_find? looked).2

/-- Two paths agree up to some segment, and there they differ.  Dashes and underscores are the
same in both respects. -/
inductive Apart : List String → List String → Prop where
  | here {segment other : String} {rest others : List String} :
      common segment ≠ common other → Apart (segment :: rest) (other :: others)
  | later {segment other : String} {rest others : List String} :
      common segment = common other → Apart rest others →
        Apart (segment :: rest) (other :: others)

theorem follow_nil_map (filled : path ≠ []) : follow path (.map []) = .ok none := by
  obtain ⟨segment, rest, rfl⟩ := List.exists_cons_of_ne_nil filled
  exact follow_of_find?_none (find?_eq_none_iff.mpr fun _ _ => rfl) rest

theorem follow_null (filled : path ≠ []) : follow path .null = .ok none := by
  obtain ⟨segment, rest, rfl⟩ := List.exists_cons_of_ne_nil filled
  rfl

theorem Apart.filled (apart : Apart path other) : path ≠ [] ∧ other ≠ [] := by
  cases apart <;> exact ⟨List.cons_ne_nil _ _, List.cons_ne_nil _ _⟩

theorem along_nil {allowed : Option Value → Prop} (nothing : allowed none)
    (newMap : allowed (some (.map []))) (path : List String) : Along path [] allowed := by
  intro front begins shorter
  cases front with
  | nil => exact ⟨_, rfl, newMap⟩
  | cons segment rest => exact ⟨_, follow_nil_map (List.cons_ne_nil _ _), nothing⟩

/-- A new map under a segment hides nothing from a path that leads elsewhere in it. -/
theorem follow_store_new {rest : List String} {content : Value}
    (null : ∀ key found, find? segment entries = some (key, found) → found = .null)
    (filled : rest ≠ []) (elsewhere : follow rest content = .ok none) (other : String) :
    follow (other :: rest) (.map (Table.store (Key.text segment) content entries)) =
      follow (other :: rest) (.map entries) := by
  rcases find?_store_cases segment content other entries with same | reached
  · rw [follow, select, same, follow, select]
  · rw [follow_of_find? reached, elsewhere]
    cases before : find? other entries with
    | none => rw [follow_of_find?_none before]
    | some entry =>
        obtain ⟨key, found⟩ := entry
        obtain rfl := null_of_find?_store null reached key found before
        rw [follow_of_find? before, follow_null filled]

/-- What is written along a path is not read along a path that leads elsewhere. -/
theorem follow_writeAt_of_apart (apart : Apart path other) (value : Value)
    (free : Along path entries IsFree) :
    follow other (.map (writeAt value path entries)) = follow other (.map entries) := by
  induction apart generalizing entries with
  | @here segment first rest others different =>
      obtain ⟨key, content, spelled, written⟩ := exists_writeAt_cons value segment rest entries
      rw [← spelled] at different
      have kept := find?_store_of_ne different content entries
      rw [written, follow, select, kept, follow, select]
  | @later segment first rest others same apart induction =>
      obtain ⟨filled, othersFilled⟩ := apart.filled
      obtain ⟨next, following, rfl⟩ := List.exists_cons_of_ne_nil filled
      rw [writeAt_cons_cons]
      rcases branch_cases segment entries with ⟨key, inner, found, branches⟩ | ⟨noMap, branches⟩
      · obtain ⟨-, present⟩ := of_find? found
        have inside := induction (free.inner found)
        rw [branches]
        cases looked : Nested.find? first entries with
        | none =>
            rw [follow_of_find?_none looked, follow_of_find?_none]
            rw [find?_store_of_lookup present, looked]
            rfl
        | some entry =>
            obtain ⟨own, content⟩ := entry
            have after := find?_store_of_lookup present
              (.map (writeAt value (next :: following) inner)) first
            rw [looked, Option.map_some] at after
            by_cases here : own = key
            · subst here
              obtain rfl := Option.some.inj ((of_find? looked).2.symm.trans present)
              rw [if_pos rfl] at after
              rw [follow_of_find? after, follow_of_find? looked, inside]
            · rw [if_neg here] at after
              rw [follow_of_find? after, follow_of_find? looked]
      · have null : ∀ key found, Nested.find? segment entries = some (key, found) →
            found = .null := by
          intro key found looked
          rcases free.find? with missing | isNull | ⟨inner, isMap⟩
          · rw [looked] at missing
            cases missing
          · rw [looked] at isNull
            exact Option.some.inj isNull
          · rw [looked] at isMap
            exact absurd (Option.some.inj isMap ▸ looked) (noMap key inner)
        rw [branches]
        refine follow_store_new null othersFilled ?_ first
        rw [induction (along_nil (.inl rfl) (.inr (.inr ⟨[], rfl⟩)) _), follow_nil_map othersFilled]

theorem segments_ne_nil (path : String) : segments path ≠ [] := by
  rw [segments, Text.pieces]
  exact fun none => Text.split_ne_nil '.' path.toList (List.map_eq_nil_iff.mp none)

theorem read_map (entries : Entries) (path : String) (default : Value) :
    read (.map entries) [path] default =
      (follow (segments path) (.map entries)).map fun found =>
        if found = some .null then default else found.getD default := by
  rw [read, readFirst]
  · rcases follow (segments path) (.map entries) with fault | - | found
    · rfl
    · rfl
    · cases found <;> rfl
  · exact nofun

theorem read_of_follow (present : value ≠ .null) {path : String}
    (followed : follow (segments path) (.map entries) = .ok (some value)) (default : Value) :
    read (.map entries) [path] default = .ok value := by
  rw [read_map, followed, Except.map, if_neg (by simpa using present), Option.getD_some]

theorem follow_of_read (present : value ≠ .null) {path : String}
    (read : read (.map entries) [path] .null = .ok value) :
    follow (segments path) (.map entries) = .ok (some value) := by
  rw [read_map] at read
  cases followed : follow (segments path) (.map entries) with
  | error fault =>
      rw [followed] at read
      cases read
  | ok found =>
      rw [followed] at read
      have same := Except.ok.inj read
      dsimp only at same
      split_ifs at same
      · exact absurd same.symm present
      · cases found with
        | none => exact absurd same.symm present
        | some own => exact congrArg (fun own => Except.ok (some own)) same

/-- Reading and writing at a path obey the laws of lenses, with the order of the entries, and a
write is not read along paths that lead elsewhere.  Writing what is read needs maps all along the
path.  A write leaves other paths alone if it replaces nothing that is no map. -/
theorem read_write_lens (entries : Entries) (path : String) {value : Value}
    (present : value ≠ .null) (default : Value) :
    read (.map (write entries path value)) [path] default = .ok value ∧
      (∀ second, write (write entries path value) path second = write entries path second) ∧
      (Along (segments path) entries IsMap →
        read (.map entries) [path] .null = .ok value → write entries path value = entries) ∧
      (Along (segments path) entries IsFree → ∀ other, Apart (segments path) (segments other) →
        read (.map (write entries path value)) [other] default =
          read (.map entries) [other] default) := by
  refine ⟨?back, fun second => ?_, ?same, ?elsewhere⟩
  case back => exact read_of_follow present (follow_writeAt (segments_ne_nil path) _ _) default
  case same =>
    intro along read
    exact writeAt_of_follow along (follow_of_read present read)
  case elsewhere =>
    intro free other apart
    rw [read_map, write, follow_writeAt_of_apart apart value free, ← read_map]
  · exact writeAt_writeAt value second (segments path) entries

/-- Settings that hold a map under one spelling, and in it two spellings of one key. -/
def sampleSpelled : Entries :=
  [(.text "a_b", .map [(.text "x-y", .int 1), (.text "x_y", .int 2), (.text "x-z", .int 9)]),
    (.text "a-c", .null)]

theorem along_sampleSpelled : Along (segments "a-b.x_y") sampleSpelled IsMap := by
  have parts : segments "a-b.x_y" = ["a-b", "x_y"] := by decide
  rw [parts]
  exact along_pair ⟨_, rfl⟩ ⟨_, rfl⟩ "x_y"

/-- A map is entered under the spelling that it has, and of two spellings the one that is looked
for first is written. -/
theorem read_write_lens_sampleSpelled :
    let after := write sampleSpelled "a-b.x_y" (.int 3)
    Value.int 3 ≠ .null ∧ read (.map after) ["a-b.x_y"] .null = .ok (.int 3) ∧
      write after "a-b.x_y" (.int 4) = write sampleSpelled "a-b.x_y" (.int 4) ∧
      Along (segments "a-b.x_y") sampleSpelled IsMap ∧
      read (.map sampleSpelled) ["a-b.x_y"] .null = .ok (.int 2) ∧
      write sampleSpelled "a-b.x_y" (.int 2) = sampleSpelled ∧
      Apart (segments "a-b.x_y") (segments "a_b.x-z") ∧
      read (.map after) ["a_b.x-z"] .null = .ok (.int 9) := by
  have free : Along (segments "a-b.x_y") sampleSpelled IsFree := fun front begins shorter =>
    (along_sampleSpelled front begins shorter).imp fun _ ⟨followed, isMap⟩ =>
      ⟨followed, .inr (.inr isMap)⟩
  have apart : Apart (segments "a-b.x_y") (segments "a_b.x-z") := by
    have parts : segments "a-b.x_y" = ["a-b", "x_y"] ∧ segments "a_b.x-z" = ["a_b", "x-z"] := by
      decide
    rw [parts.1, parts.2]
    exact .later (by decide) (.here (by decide))
  have old : read (.map sampleSpelled) ["a-b.x_y"] .null = .ok (.int 2) := by decide +kernel
  have kept : read (.map sampleSpelled) ["a_b.x-z"] .null = .ok (.int 9) := by decide +kernel
  have present (number : Int) : Value.int number ≠ .null := nofun
  obtain ⟨back, replaced, -, elsewhere⟩ :=
    read_write_lens sampleSpelled "a-b.x_y" (present 3) .null
  obtain ⟨-, -, same, -⟩ :=
    read_write_lens sampleSpelled "a-b.x_y" (present 2) .null
  exact ⟨present 3, back, replaced (.int 4), along_sampleSpelled, old, same along_sampleSpelled old,
    apart, (elsewhere free _ apart).trans kept⟩

end ChatDispatch.Nested
