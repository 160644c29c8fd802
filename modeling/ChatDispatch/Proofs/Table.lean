import ChatDispatch.Table
import ChatDispatch.Value
import Mathlib.Data.List.Basic
import Mathlib.Data.List.Induction

/-!
# Laws of ordered tables

The keys of a table differ, and storing keeps them so.  Of several values that are
stored under one key, the last one is found.
-/

namespace ChatDispatch.Table

variable {κ β : Type} [BEq κ]

/-- No two entries of a table have the same key. -/
def Distinct (table : List (κ × β)) : Prop :=
  table.Pairwise fun left right => (left.1 == right.1) = false

theorem distinct_nil : Distinct ([] : List (κ × β)) :=
  List.Pairwise.nil

theorem lookup_append (key : κ) (left right : List (κ × β)) :
    lookup key (left ++ right) = (lookup key left).or (lookup key right) := by
  induction left with
  | nil => rfl
  | cons entry rest induction =>
      cases present : entry.1 == key with
      | true => simp [lookup, present]
      | false => simpa [lookup, present] using induction

theorem exists_mem_of_lookup {key : κ} {table : List (κ × β)} {value : β}
    (found : lookup key table = some value) :
    ∃ entry ∈ table, (entry.1 == key) = true ∧ entry.2 = value := by
  induction table with
  | nil => cases found
  | cons entry rest induction =>
      cases present : entry.1 == key with
      | true =>
          simp only [lookup, present, if_true, Option.some.injEq] at found
          exact ⟨entry, List.mem_cons_self, present, found⟩
      | false =>
          simp only [lookup, present, Bool.false_eq_true, if_false] at found
          obtain ⟨other, member, same⟩ := induction found
          exact ⟨other, List.mem_cons_of_mem _ member, same⟩

theorem lookup_eq_none_iff {key : κ} {table : List (κ × β)} :
    lookup key table = none ↔ ∀ entry ∈ table, (entry.1 == key) = false := by
  induction table with
  | nil => simp [lookup]
  | cons entry rest induction =>
      cases present : entry.1 == key with
      | true => simp [lookup, present]
      | false => simp [lookup, present, induction]

theorem lookup_congr [EquivBEq κ] {key other : κ} (same : (key == other) = true)
    (table : List (κ × β)) : lookup key table = lookup other table := by
  induction table with
  | nil => rfl
  | cons entry rest induction => simp only [lookup, BEq.congr_right same, induction]

theorem lookup_of_mem [EquivBEq κ] {table : List (κ × β)} (distinct : Distinct table)
    {entry : κ × β} (member : entry ∈ table) : lookup entry.1 table = some entry.2 := by
  induction table with
  | nil => cases member
  | cons first rest induction =>
      obtain ⟨different, distinctRest⟩ := List.pairwise_cons.mp distinct
      rcases List.mem_cons.mp member with rfl | later
      · simp [lookup]
      · simp [lookup, different entry later, induction distinctRest later]

theorem store_of_not_holds {key : κ} {table : List (κ × β)} (absent : holds key table = false)
    (value : β) : store key value table = table ++ [(key, value)] := by
  induction table with
  | nil => rfl
  | cons entry rest induction =>
      simp only [holds, List.any_cons, Bool.or_eq_false_iff] at absent
      simp [store, absent.1, induction absent.2]

theorem mem_store {key : κ} {value : β} {table : List (κ × β)} {entry : κ × β}
    (member : entry ∈ store key value table) :
    entry ∈ table ∨
      entry.2 = value ∧ ((entry.1 == key) = true ∨ entry.1 = key) := by
  induction table with
  | nil =>
      obtain rfl := List.mem_singleton.mp member
      exact .inr ⟨rfl, .inr rfl⟩
  | cons first rest induction =>
      cases present : first.1 == key with
      | true =>
          simp only [store, present, if_true] at member
          rcases List.mem_cons.mp member with rfl | later
          · exact .inr ⟨rfl, .inl present⟩
          · exact .inl (List.mem_cons_of_mem _ later)
      | false =>
          simp only [store, present, Bool.false_eq_true, if_false] at member
          rcases List.mem_cons.mp member with rfl | later
          · exact .inl List.mem_cons_self
          · exact (induction later).imp (List.mem_cons_of_mem _) id

theorem distinct_store [EquivBEq κ] {table : List (κ × β)} (distinct : Distinct table)
    (key : κ) (value : β) : Distinct (store key value table) := by
  induction table with
  | nil => exact List.pairwise_singleton _ _
  | cons first rest induction =>
      obtain ⟨different, distinctRest⟩ := List.pairwise_cons.mp distinct
      cases present : first.1 == key with
      | true =>
          simp only [store, present, if_true]
          exact List.pairwise_cons.mpr ⟨different, distinctRest⟩
      | false =>
          simp only [store, present, Bool.false_eq_true, if_false]
          refine List.pairwise_cons.mpr ⟨?_, induction distinctRest⟩
          intro entry member
          rcases mem_store member with later | ⟨-, same | rfl⟩
          · exact different entry later
          · rw [BEq.congr_right same]
            exact present
          · exact present

theorem store_store [ReflBEq κ] (key : κ) (old new : β) (table : List (κ × β)) :
    store key new (store key old table) = store key new table := by
  induction table with
  | nil => simp [store]
  | cons entry rest induction =>
      cases present : entry.1 == key with
      | true => simp [store, present]
      | false => simp [store, present, induction]

theorem store_of_lookup {key : κ} {value : β} {table : List (κ × β)}
    (found : lookup key table = some value) : store key value table = table := by
  induction table with
  | nil => cases found
  | cons entry rest induction =>
      cases present : entry.1 == key with
      | true =>
          simp only [lookup, present, if_true, Option.some.injEq] at found
          simp [store, present, ← found]
      | false =>
          simp only [lookup, present, Bool.false_eq_true, if_false] at found
          simp [store, present, induction found]

theorem store_ne_nil (key : κ) (value : β) (table : List (κ × β)) :
    store key value table ≠ [] := by
  cases table with
  | nil => simp [store]
  | cons entry rest =>
      unfold store
      split <;> simp

theorem remove_of_not_holds {key : κ} {table : List (κ × β)}
    (absent : holds key table = false) : remove key table = table := by
  induction table with
  | nil => rfl
  | cons entry rest induction =>
      simp only [holds, List.any_cons, Bool.or_eq_false_iff] at absent
      simp [remove, absent.1, induction absent.2]

/-- What was stored under a new key can be taken away again. -/
theorem remove_store_of_not_holds [ReflBEq κ] {key : κ} {table : List (κ × β)}
    (absent : holds key table = false) (value : β) :
    remove key (store key value table) = table := by
  induction table with
  | nil => simp [store, remove]
  | cons entry rest induction =>
      simp only [holds, List.any_cons, Bool.or_eq_false_iff] at absent
      simp [store, remove, absent.1, induction absent.2]

theorem lookup_remove_of_ne [EquivBEq κ] {key other : κ} (different : (key == other) = false)
    (table : List (κ × β)) : lookup other (remove key table) = lookup other table := by
  induction table with
  | nil => rfl
  | cons entry rest induction =>
      cases present : entry.1 == key with
      | true =>
          have absent : (entry.1 == other) = false := by
            rw [BEq.congr_left present]
            exact different
          simp [remove, lookup, present, absent, induction]
      | false => simp [remove, lookup, present, induction]

theorem lookup_remove_self (key : κ) (table : List (κ × β)) :
    lookup key (remove key table) = none := by
  induction table with
  | nil => rfl
  | cons entry rest induction =>
      cases present : entry.1 == key with
      | true => simp [remove, present, induction]
      | false => simp [remove, lookup, present, induction]

theorem remove_sublist (key : κ) (table : List (κ × β)) : (remove key table).Sublist table := by
  induction table with
  | nil => exact List.Sublist.refl _
  | cons entry rest induction =>
      cases present : entry.1 == key with
      | true => simpa [remove, present] using induction.cons _
      | false => simpa [remove, present] using induction

theorem remove_eq_filter (key : κ) (table : List (κ × β)) :
    remove key table = table.filter fun entry => !(entry.1 == key) := by
  induction table with
  | nil => rfl
  | cons entry rest induction =>
      cases present : entry.1 == key with
      | true => simp [remove, present, induction]
      | false => simp [remove, present, induction]

theorem keys_remove (key : κ) (table : List (κ × β)) :
    (remove key table).map (·.1) = (table.map (·.1)).filter fun other => !(other == key) := by
  rw [remove_eq_filter, List.filter_map]
  rfl

theorem distinct_update [EquivBEq κ] {table : List (κ × β)} (distinct : Distinct table)
    (entries : List (κ × β)) : Distinct (update table entries) := by
  induction entries generalizing table with
  | nil => exact distinct
  | cons entry rest induction => exact induction (distinct_store distinct entry.1 entry.2)

theorem lookup_update [EquivBEq κ] (key : κ) (table entries : List (κ × β)) :
    lookup key (update table entries) = (lookup key entries.reverse).or (lookup key table) := by
  induction entries generalizing table with
  | nil => rfl
  | cons entry rest induction =>
      have unfolded :
          update table (entry :: rest) = update (store entry.1 entry.2 table) rest := rfl
      rw [unfolded, induction, List.reverse_cons, lookup_append, Option.or_assoc]
      congr 1
      cases same : entry.1 == key with
      | true =>
          rw [← lookup_congr same (store _ _ _), lookup_store_self]
          simp [lookup, same]
      | false =>
          rw [lookup_store_of_ne same]
          simp [lookup, same]

theorem not_holds_of_distinct {before after : List (κ × β)} {entry : κ × β}
    (distinct : Distinct (before ++ entry :: after)) : holds entry.1 before = false := by
  have apart := (List.pairwise_append.mp distinct).2.2
  simp only [holds, List.any_eq_false]
  intro earlier member
  simp [apart earlier member entry List.mem_cons_self]

theorem update_of_distinct {table entries : List (κ × β)}
    (distinct : Distinct (table ++ entries)) : update table entries = table ++ entries := by
  induction entries generalizing table with
  | nil => simp [update]
  | cons entry rest induction =>
      have absent := not_holds_of_distinct distinct
      have unfolded :
          update table (entry :: rest) = update (store entry.1 entry.2 table) rest := rfl
      rw [unfolded, store_of_not_holds absent, induction]
      · simp
      · simpa using distinct

/-- Storing entries keeps the keys of a table, and appends new ones. -/
theorem exists_keys_update (table entries : List (κ × β)) :
    ∃ more, (update table entries).map (·.1) = table.map (·.1) ++ more := by
  induction entries generalizing table with
  | nil => exact ⟨[], (List.append_nil _).symm⟩
  | cons entry rest induction =>
      obtain ⟨more, keys⟩ := induction (store entry.1 entry.2 table)
      rw [keys_store, List.append_assoc] at keys
      exact ⟨_, keys⟩

theorem store_append_of_not_holds {key : κ} {before : List (κ × β)}
    (absent : holds key before = false) (value : β) (after : List (κ × β)) :
    store key value (before ++ after) = before ++ store key value after := by
  induction before with
  | nil => rfl
  | cons entry rest induction =>
      simp only [holds, List.any_cons, Bool.or_eq_false_iff] at absent
      simp [store, absent.1, induction absent.2]

/-- A table that begins with the keys of another one replaces it. -/
theorem update_of_keys [EquivBEq κ] {table entries : List (κ × β)} (distinct : Distinct entries)
    {more : List κ} (keys : entries.map (·.1) = table.map (·.1) ++ more) :
    update table entries = entries := by
  suffices replaced : ∀ before : List (κ × β), Distinct (before ++ entries) →
      update (before ++ table) entries = before ++ entries from replaced [] distinct
  clear distinct
  induction table generalizing entries with
  | nil =>
      intro before distinct
      rw [List.append_nil]
      exact update_of_distinct distinct
  | cons first rest induction =>
      intro before distinct
      cases entries with
      | nil => cases keys
      | cons entry others =>
          obtain ⟨same, later⟩ := List.cons.inj keys
          have equal : (first.1 == entry.1) = true := by
            rw [show first.1 = entry.1 from same.symm]
            exact BEq.refl _
          have stored : store entry.1 entry.2 (before ++ first :: rest) =
              (before ++ [entry]) ++ rest := by
            rw [store_append_of_not_holds (not_holds_of_distinct distinct), store, if_pos equal,
              List.append_assoc, show first.1 = entry.1 from same.symm]
            rfl
          have unfolded : update (before ++ first :: rest) (entry :: others) =
              update (store entry.1 entry.2 (before ++ first :: rest)) others := rfl
          rw [unfolded, stored, induction later (before ++ [entry])]
          · rw [List.append_assoc, List.singleton_append]
          · rwa [List.append_assoc, List.singleton_append]

/-- The entries with their repetitions removed: each key stands where it came first, with the
value that it had last. -/
def lastWins (entries : List (κ × β)) : List (κ × β) :=
  (entries.map (·.1)).eraseDups.filterMap fun key =>
    (lookup key entries.reverse).map fun value => (key, value)

theorem ofEntries_append_singleton (entries : List (κ × β)) (entry : κ × β) :
    ofEntries (entries ++ [entry]) = store entry.1 entry.2 (ofEntries entries) := by
  simp [ofEntries]

theorem keys_ofEntries [LawfulBEq κ] (entries : List (κ × β)) :
    (ofEntries entries).map (·.1) = (entries.map (·.1)).eraseDups := by
  induction entries using List.reverseRecOn with
  | nil => rfl
  | append_singleton entries entry induction =>
      have held : holds entry.1 (ofEntries entries) = (entries.map (·.1)).contains entry.1 := by
        have among : holds entry.1 (ofEntries entries) = true ↔
            entry.1 ∈ (ofEntries entries).map (·.1) := by
          simp [holds]
        rw [Bool.eq_iff_iff, among, induction, List.mem_eraseDups, List.contains_iff_mem]
      rw [ofEntries_append_singleton, keys_store, induction, held, List.map_append,
        List.eraseDups_append, List.map_singleton, List.cons_removeAll]
      cases (entries.map (·.1)).contains entry.1 with
      | true => rfl
      | false => rfl

theorem nodup_eraseDups [LawfulBEq κ] (keys : List κ) : keys.eraseDups.Nodup := by
  have distinct : Distinct (ofEntries (keys.map fun key => (key, ()))) :=
    distinct_update distinct_nil _
  have same := keys_ofEntries (keys.map fun key => (key, ()))
  rw [List.map_map, show (fun entry : κ × Unit => entry.1) ∘ (fun key => (key, ())) = id from rfl,
    List.map_id] at same
  rw [← same, List.Nodup, List.pairwise_map]
  exact distinct.imp fun apart => beq_eq_false_iff_ne.mp apart

theorem pairwise_mergeSort_eraseDups (texts : List String) :
    (texts.eraseDups.mergeSort fun left right => decide (left ≤ right)).Pairwise (· < ·) := by
  have sorted : (texts.eraseDups.mergeSort fun left right => decide (left ≤ right)).Pairwise
      fun left right => decide (left ≤ right) = true :=
    List.pairwise_mergeSort
      (fun _ _ _ first second => by simp at *; exact String.le_trans first second)
      (fun left right => by simpa using String.le_total left right) _
  have apart : (texts.eraseDups.mergeSort fun left right => decide (left ≤ right)).Nodup :=
    (List.mergeSort_perm _ _).nodup_iff.mpr (nodup_eraseDups texts)
  exact (sorted.and apart).imp fun ⟨below, different⟩ =>
    Decidable.by_contra fun notLess =>
      different (String.le_antisymm (of_decide_eq_true below) (String.not_lt.mp notLess))

/-- A table is made of its keys and of what is found under them. -/
theorem eq_filterMap_lookup [EquivBEq κ] {table : List (κ × β)} (distinct : Distinct table) :
    table = (table.map (·.1)).filterMap fun key =>
      (lookup key table).map fun value => (key, value) := by
  rw [List.filterMap_map]
  conv_lhs => rw [← List.filterMap_some (l := table)]
  apply List.filterMap_congr
  intro entry member
  rw [Function.comp_apply, lookup_of_mem distinct member]
  rfl

/-- Storing entries one after the other keeps the last value of each key. -/
theorem ofEntries_eq_lastWins [LawfulBEq κ] (entries : List (κ × β)) :
    ofEntries entries = lastWins entries := by
  have distinct : Distinct (ofEntries entries) := distinct_update distinct_nil entries
  have found (key : κ) : lookup key (ofEntries entries) = lookup key entries.reverse :=
    (lookup_update key [] entries).trans Option.or_none
  calc
    ofEntries entries
      = ((ofEntries entries).map (·.1)).filterMap fun key =>
          (lookup key (ofEntries entries)).map fun value => (key, value) :=
        eq_filterMap_lookup distinct
    _ = lastWins entries := by
        rw [keys_ofEntries]
        simp only [found, lastWins]

theorem ofEntries_map {κ' : Type} [BEq κ'] {rename : κ → κ'}
    (same : ∀ left right, (rename left == rename right) = (left == right))
    (entries : List (κ × β)) :
    ofEntries (entries.map fun entry => (rename entry.1, entry.2)) =
      (ofEntries entries).map fun entry => (rename entry.1, entry.2) := by
  have stored (key : κ) (value : β) (table : List (κ × β)) :
      store (rename key) value (table.map fun entry => (rename entry.1, entry.2)) =
        (store key value table).map fun entry => (rename entry.1, entry.2) := by
    induction table with
    | nil => rfl
    | cons entry rest induction =>
        cases present : entry.1 == key with
        | true => simp [store, same, present]
        | false => simp [store, same, present, induction]
  induction entries using List.reverseRecOn with
  | nil => rfl
  | append_singleton entries entry induction =>
      rw [List.map_append, List.map_singleton, ofEntries_append_singleton, induction, stored,
        ofEntries_append_singleton]

/-- The entries whose keys did not come before. -/
def firstOfEach : List (κ × β) → List (κ × β)
  | [] => []
  | entry :: rest => entry :: (firstOfEach rest).filter fun later => !(entry.1 == later.1)

theorem firstOfEach_sublist (entries : List (κ × β)) : (firstOfEach entries).Sublist entries := by
  induction entries with
  | nil => exact .refl []
  | cons entry rest induction => exact ((List.filter_sublist).trans induction).cons_cons entry

theorem firstOfEach_map {γ : Type} (change : β → γ) (entries : List (κ × β)) :
    firstOfEach (entries.map fun entry => (entry.1, change entry.2)) =
      (firstOfEach entries).map fun entry => (entry.1, change entry.2) := by
  induction entries with
  | nil => rfl
  | cons entry rest induction =>
      rw [List.map_cons, firstOfEach, induction, firstOfEach, List.map_cons, List.filter_map]
      rfl

theorem firstOfEach_eq_nil_iff {entries : List (κ × β)} :
    firstOfEach entries = [] ↔ entries = [] := by
  cases entries <;> simp [firstOfEach]

/-- A table with the entries added whose keys are new. -/
def extend (table entries : List (κ × β)) : List (κ × β) :=
  table ++ (firstOfEach entries).filter fun entry => !holds entry.1 table

theorem extend_nil_left (entries : List (κ × β)) : extend [] entries = firstOfEach entries := by
  simp [extend, holds]

theorem extend_nil_right (table : List (κ × β)) : extend table [] = table :=
  List.append_nil table

theorem extend_cons_of_holds [EquivBEq κ] {table : List (κ × β)} {entry : κ × β}
    (held : holds entry.1 table = true) (rest : List (κ × β)) :
    extend table (entry :: rest) = extend table rest := by
  rw [extend, firstOfEach, List.filter_cons, held, Bool.not_true, if_neg Bool.false_ne_true,
    List.filter_filter, extend]
  congr 1
  refine List.filter_congr fun later _ => ?_
  cases same : entry.1 == later.1 with
  | false => simp
  | true =>
      rw [holds_eq_isSome_lookup, lookup_congr same, ← holds_eq_isSome_lookup] at held
      simp [held]

theorem extend_cons_of_not_holds {table : List (κ × β)} {entry : κ × β}
    (absent : holds entry.1 table = false) (rest : List (κ × β)) :
    extend table (entry :: rest) = extend (table ++ [entry]) rest := by
  rw [extend, firstOfEach, List.filter_cons, absent, Bool.not_false, if_pos rfl,
    List.filter_filter, extend, List.append_assoc, List.singleton_append]
  congr 2
  refine List.filter_congr fun later _ => ?_
  simp [holds]

theorem extend_append [EquivBEq κ] (table first second : List (κ × β)) :
    extend (extend table first) second = extend table (first ++ second) := by
  induction first generalizing table with
  | nil => rw [extend_nil_right, List.nil_append]
  | cons entry rest induction =>
      rw [List.cons_append]
      cases held : holds entry.1 table with
      | true => rw [extend_cons_of_holds held, extend_cons_of_holds held, induction]
      | false => rw [extend_cons_of_not_holds held, extend_cons_of_not_holds held, induction]

end ChatDispatch.Table

namespace ChatDispatch

/-- Entries with names, as the entries of a map. -/
def Entries.named (entries : List (String × Value)) : Entries :=
  entries.map fun entry => (.text entry.1, entry.2)

theorem Entries.ofEntries_named (entries : List (String × Value)) :
    Table.ofEntries (named entries) = named (Table.lastWins entries) := by
  rw [← Table.ofEntries_eq_lastWins]
  exact Table.ofEntries_map Key.beq_text entries

end ChatDispatch
