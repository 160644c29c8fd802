import ChatDispatch.Nested
import ChatDispatch.Proofs.Table

/-!
# Spellings of keys

A key of the settings is looked for as it is, with underscores only, and with dashes only.  All
spellings of a key have the one with underscores in common.  A spelling that mixes dashes and
underscores is found by itself only, but the two pure ones are found by every other.

What is found under a segment is the entry of its first spelling that is present.  So a write
under some key can change what is found in two ways only: the entry of this key is found with its
new value, or it comes to be found in place of another one.
-/

namespace ChatDispatch

namespace Text

variable {old new : Char}

theorem toList_replaceChar (old new : Char) (text : String) :
    (replaceChar old new text).toList =
      text.toList.map fun character => if character = old then new else character := by
  rw [replaceChar, String.toList_ofList]

theorem not_mem_replaceChar (apart : new ≠ old) (text : String) :
    old ∉ (replaceChar old new text).toList := by
  rw [toList_replaceChar, List.mem_map]
  rintro ⟨character, -, replaced⟩
  split at replaced
  · exact apart replaced
  · contradiction

theorem mem_replaceChar {text : String} (present : old ∈ text.toList) :
    new ∈ (replaceChar old new text).toList := by
  rw [toList_replaceChar, List.mem_map]
  exact ⟨old, present, if_pos rfl⟩

theorem replaceChar_of_not_mem {text : String} (absent : old ∉ text.toList) :
    replaceChar old new text = text := by
  apply String.toList_inj.mp
  rw [toList_replaceChar]
  refine (List.map_congr_left fun character member => if_neg ?_).trans (List.map_id' _)
  rintro rfl
  exact absent member

/-- Replacing a character and then its replacement is replacing both. -/
theorem replaceChar_replaceChar (text : String) :
    replaceChar new old (replaceChar old new text) = replaceChar new old text := by
  apply String.toList_inj.mp
  rw [toList_replaceChar, toList_replaceChar, toList_replaceChar, List.map_map]
  apply List.map_congr_left
  intro character _
  rw [Function.comp_apply]
  split_ifs <;> simp_all

end Text

namespace Nested

/-- The spelling of a key that all its spellings have in common. -/
def common (key : String) : String :=
  Text.replaceChar '-' '_' key

def dashed (key : String) : String :=
  Text.replaceChar '_' '-' key

/-- A key that does not mix dashes and underscores. -/
def Pure (key : String) : Prop :=
  '-' ∉ key.toList ∨ '_' ∉ key.toList

instance : DecidablePred Pure := fun key =>
  inferInstanceAs (Decidable ('-' ∉ key.toList ∨ '_' ∉ key.toList))

variable {key other segment spelling : String} {value old : Value} {entries : Entries}

@[simp]
theorem common_common (key : String) : common (common key) = common key :=
  Text.replaceChar_of_not_mem (Text.not_mem_replaceChar (by decide) key)

@[simp]
theorem common_dashed (key : String) : common (dashed key) = common key :=
  Text.replaceChar_replaceChar key

@[simp]
theorem dashed_common (key : String) : dashed (common key) = dashed key :=
  Text.replaceChar_replaceChar key

theorem dash_not_mem_common (key : String) : '-' ∉ (common key).toList :=
  Text.not_mem_replaceChar (by decide) key

theorem underscore_not_mem_dashed (key : String) : '_' ∉ (dashed key).toList :=
  Text.not_mem_replaceChar (by decide) key

theorem mem_spellings :
    spelling ∈ spellings key ↔
      spelling = key ∨ ('-' ∈ key.toList ∧ spelling = common key) ∨
        '_' ∈ key.toList ∧ spelling = dashed key := by
  have inPart (holds : Bool) (part : String) :
      spelling ∈ (if holds = true then [part] else []) ↔ holds = true ∧ spelling = part := by
    cases holds <;> simp
  rw [spellings, List.mem_append, List.mem_append, inPart, inPart, List.mem_singleton,
    List.contains_iff_mem, List.contains_iff_mem, or_assoc]
  rfl

theorem mem_spellings_self (key : String) : key ∈ spellings key :=
  mem_spellings.mpr (.inl rfl)

theorem common_of_mem_spellings (member : spelling ∈ spellings key) :
    common spelling = common key := by
  rcases mem_spellings.mp member with rfl | ⟨-, rfl⟩ | ⟨-, rfl⟩
  · rfl
  · exact common_common key
  · exact common_dashed key

theorem spellings_common (dashes : '-' ∈ key.toList) :
    spellings (common key) = [common key, dashed key] := by
  have underscores : '_' ∈ (common key).toList := Text.mem_replaceChar dashes
  rw [spellings, ← dashed, dashed_common, if_neg, if_pos]
  · rfl
  · exact List.contains_iff_mem.mpr underscores
  · rw [List.contains_iff_mem]
    exact dash_not_mem_common key

theorem spellings_dashed (underscores : '_' ∈ key.toList) :
    spellings (dashed key) = [dashed key, common key] := by
  have dashes : '-' ∈ (dashed key).toList := Text.mem_replaceChar underscores
  rw [spellings, ← common, common_dashed, if_pos, if_neg]
  · rfl
  · rw [List.contains_iff_mem]
    exact underscore_not_mem_dashed key
  · exact List.contains_iff_mem.mpr dashes

/-- Two other spellings of a key are the spellings of each other. -/
theorem spellings_of_mem (member : spelling ∈ spellings key) (apart : spelling ≠ key)
    (otherMember : other ∈ spellings key) (otherApart : other ≠ key)
    (different : other ≠ spelling) : spellings spelling = [spelling, other] := by
  rcases mem_spellings.mp member with same | ⟨dashes, rfl⟩ | ⟨underscores, rfl⟩
  · exact absurd same apart
  · rcases mem_spellings.mp otherMember with same | ⟨-, same⟩ | ⟨-, rfl⟩
    · exact absurd same otherApart
    · exact absurd same different
    · exact spellings_common dashes
  · rcases mem_spellings.mp otherMember with same | ⟨-, rfl⟩ | ⟨-, same⟩
    · exact absurd same otherApart
    · exact spellings_dashed underscores
    · exact absurd same different

/-- Pure keys with a common spelling are spellings of each other. -/
theorem mem_spellings_of_pure (pureKey : Pure key) (pureOther : Pure other)
    (same : common key = common other) : key ∈ spellings other := by
  have dashedSame : dashed key = dashed other := by
    rw [← dashed_common key, same, dashed_common]
  have plain {text : String} (none : '-' ∉ text.toList) : common text = text :=
    Text.replaceChar_of_not_mem none
  have dashes {text : String} (none : '_' ∉ text.toList) : dashed text = text :=
    Text.replaceChar_of_not_mem none
  have underscore (noDash : '-' ∉ other.toList) (different : key ≠ other)
      (noUnderscore : '_' ∉ key.toList) : '_' ∈ other.toList := by
    by_contra none
    exact different (by rw [← dashes noUnderscore, dashedSame, dashes none])
  have dash (different : key ≠ other) (noDash : '-' ∉ key.toList) : '-' ∈ other.toList := by
    by_contra none
    exact different (by rw [← plain noDash, same, plain none])
  by_cases equal : key = other
  · rw [equal]
    exact mem_spellings_self other
  rcases pureKey with noDash | noUnderscore
  · exact mem_spellings.mpr (.inr (.inl ⟨dash equal noDash, by rw [← same, plain noDash]⟩))
  · rcases pureOther with otherNoDash | otherNoUnderscore
    · refine mem_spellings.mpr (.inr (.inr ⟨underscore otherNoDash equal noUnderscore, ?_⟩))
      rw [← dashedSame, dashes noUnderscore]
    · exact absurd (by rw [← dashes noUnderscore, dashedSame, dashes otherNoUnderscore]) equal

theorem findSome?_congr {α β : Type} {items : List α} {first second : α → Option β}
    (same : ∀ item ∈ items, first item = second item) :
    items.findSome? first = items.findSome? second := by
  rw [← List.head?_filterMap, ← List.head?_filterMap, List.filterMap_congr same]

theorem lookup_store_text (key other : String) (value : Value) (entries : Entries) :
    Table.lookup (Key.text other) (Table.store (Key.text key) value entries) =
      if other = key then some value else Table.lookup (Key.text other) entries := by
  split_ifs with same
  · rw [same]
    exact Table.lookup_store_self _ _ _
  · refine Table.lookup_store_of_ne ?_ value entries
    rw [Key.beq_text]
    exact beq_eq_false_iff_ne.mpr (Ne.symm same)

theorem of_find? (found : find? segment entries = some (key, value)) :
    key ∈ spellings segment ∧ Table.lookup (Key.text key) entries = some value := by
  obtain ⟨spelling, member, here⟩ := List.exists_of_findSome?_eq_some found
  obtain ⟨own, looked, same⟩ := Option.map_eq_some_iff.mp here
  obtain ⟨rfl, rfl⟩ := Prod.mk.inj same
  exact ⟨member, looked⟩

theorem find?_eq_none_iff :
    find? segment entries = none ↔
      ∀ spelling ∈ spellings segment, Table.lookup (Key.text spelling) entries = none := by
  simp only [find?, List.findSome?_eq_none_iff, Option.map_eq_none_iff]

theorem find?_of_lookup (present : Table.lookup (Key.text segment) entries = some value) :
    find? segment entries = some (segment, value) := by
  rw [find?, spellings, List.append_assoc, List.singleton_append, List.findSome?_cons, present]
  rfl

/-- A segment with one other spelling that is not found as it is, is found as the other one. -/
theorem find?_of_pair (pair : spellings segment = [segment, other])
    (absent : Table.lookup (Key.text segment) entries = none)
    (present : Table.lookup (Key.text other) entries = some value) :
    find? segment entries = some (other, value) := by
  rw [find?, pair, List.findSome?_cons, absent, Option.map_none, List.findSome?_cons, present]
  rfl

theorem find?_congr {changed : Entries}
    (same : ∀ spelling ∈ spellings segment,
      Table.lookup (Key.text spelling) changed = Table.lookup (Key.text spelling) entries) :
    find? segment changed = find? segment entries := by
  rw [find?, find?]
  exact findSome?_congr fun spelling member => by rw [same spelling member]

/-- A write under a key is not found under segments that do not have its common spelling. -/
theorem find?_store_of_ne (apart : common key ≠ common segment) (value : Value)
    (entries : Entries) :
    find? segment (Table.store (Key.text key) value entries) = find? segment entries := by
  refine find?_congr fun spelling member => ?_
  rw [lookup_store_text, if_neg]
  rintro rfl
  exact apart (common_of_mem_spellings member)

/-- A write under a present key changes the value of what is found under this key. -/
theorem find?_store_of_lookup (present : Table.lookup (Key.text key) entries = some old)
    (value : Value) (segment : String) :
    find? segment (Table.store (Key.text key) value entries) =
      (find? segment entries).map fun found => if found.1 = key then (key, value) else found := by
  rw [find?, find?, List.map_findSome?]
  refine findSome?_congr fun spelling _ => ?_
  rw [Function.comp_apply, lookup_store_text]
  by_cases same : spelling = key
  · simp [same, present]
  · simp [same, Function.comp_def]

/-- After any write under a key something is found as before, or the written entry is found. -/
theorem find?_store_cases (key : String) (value : Value) (segment : String) (entries : Entries) :
    find? segment (Table.store (Key.text key) value entries) = find? segment entries ∨
      find? segment (Table.store (Key.text key) value entries) = some (key, value) := by
  unfold find?
  induction spellings segment with
  | nil => exact .inl rfl
  | cons spelling rest induction =>
      rw [List.findSome?_cons, List.findSome?_cons, lookup_store_text]
      by_cases same : spelling = key
      · rw [if_pos same, same]
        exact .inr rfl
      · rw [if_neg same]
        cases Table.lookup (Key.text spelling) entries with
        | none => exact induction
        | some own => exact .inl rfl

/-- Where a write under a segment comes to be found, only `null` was found before, if only `null`
was found under the segment itself. -/
theorem null_of_find?_store
    (null : ∀ key found, find? segment entries = some (key, found) → found = .null)
    (reached : find? other (Table.store (Key.text segment) value entries) =
      some (segment, value)) :
    ∀ key found, find? other entries = some (key, found) → found = .null := by
  intro key found before
  obtain ⟨member, looked⟩ := of_find? before
  obtain ⟨among, -⟩ := of_find? reached
  by_cases literal : key = segment
  · subst literal
    exact null _ _ (find?_of_lookup looked)
  by_cases same : segment = other
  · subst same
    exact null _ _ before
  have kept : Table.lookup (Key.text key) (Table.store (Key.text segment) value entries) =
      some found := by
    rw [lookup_store_text, if_neg literal, looked]
  have notFirst : key ≠ other := by
    rintro rfl
    exact literal (congrArg Prod.fst (Option.some.inj ((find?_of_lookup kept).symm.trans reached)))
  cases present : Table.lookup (Key.text segment) entries with
  | some first =>
      rw [find?_store_of_lookup present, before, Option.map_some, if_neg literal] at reached
      exact absurd (congrArg Prod.fst (Option.some.inj reached)) literal
  | none =>
      have pair := spellings_of_mem among same member notFirst literal
      exact null _ _ (find?_of_pair pair present looked)

end Nested

end ChatDispatch
