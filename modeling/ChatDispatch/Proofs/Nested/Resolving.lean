import ChatDispatch.Proofs.Nested.Lens
import Mathlib.Data.List.TakeWhile
import Mathlib.Data.Nat.Digits.Defs

/-!
# What a path resolves to

A segment of a path selects the item of a list that its decimal digits number, and the entry of a
map or the attribute of a callable under the first of its spellings that is present.  Nothing else
is selected, and nothing can go wrong in this.

Reading agrees with it, except that it takes more for the number of an item than it can read: a
text of digits some of which have no decimal value, or of more of them than the limit.  A list that
meets such a segment is a trap.  A path into a trap is a fault, unless an earlier path was read.
-/

namespace ChatDispatch.Nested

variable {segment : String} {path : List String} {data : Value}

/-- Whether a segment is made of decimal digits. -/
def isNumeral (segment : String) : Bool :=
  !segment.toList.isEmpty && segment.toList.all fun digit => (Text.decimalValue? digit).isSome

/-- The number that the decimal digits of a segment write. -/
def numeral? (segment : String) : Option Nat :=
  if isNumeral segment then
    some (Nat.ofDigits 10 (segment.toList.filterMap Text.decimalValue?).reverse)
  else
    none

/-- What a segment selects: the item with its number, or the entry or the attribute of its first
spelling. -/
def selected? (segment : String) : Value → Option Value
  | .list items => (numeral? segment).bind fun position => items[position]?
  | .map entries | .callable _ entries =>
      [segment, common segment, dashed segment].findSome? fun spelling =>
        Table.lookup (Key.text spelling) entries
  | _ => none

/-- What the segments select one after the other. -/
def resolve? : List String → Value → Option Value
  | [], value => some value
  | segment :: rest, value => (selected? segment value).bind (resolve? rest)

/-- What a path resolves to, if it is not `null`. -/
def resolved? (data : Value) (path : String) : Option Value :=
  (resolve? (segments path) data).filter fun value => decide (value ≠ .null)

/-- What the first path resolves to that does, or the default. -/
def resolved (data : Value) (paths : List String) (default : Value) : Value :=
  (paths.findSome? (resolved? data)).getD default

/-- How many digits a number can be read from. -/
def digitLimit : Nat := 4300

/-- A text of digits that no number can be read from. -/
def Unreadable (segment : String) : Prop :=
  isIndex segment = true ∧ (numeral? segment = none ∨ digitLimit < segment.toList.length)

/-- On the way of a path an unreadable segment meets a list. -/
inductive Trapped : List String → Value → Prop where
  | here {segment : String} {rest : List String} {items : List Value} :
      Unreadable segment → Trapped (segment :: rest) (.list items)
  | later {segment : String} {rest : List String} {value inner : Value} :
      selected? segment value = some inner → Trapped rest inner → Trapped (segment :: rest) value

/-- One of some paths is trapped, and none before it resolves. -/
def Caught (data : Value) (paths : List String) : Prop :=
  ∃ earlier path later, paths = earlier ++ path :: later ∧
    (∀ other ∈ earlier, resolved? data other = none) ∧ Trapped (segments path) data

theorem isNumeral_iff :
    isNumeral segment = true ↔
      segment.toList ≠ [] ∧ ∀ digit ∈ segment.toList, (Text.decimalValue? digit).isSome := by
  rw [isNumeral, Bool.and_eq_true, Bool.not_eq_true', List.isEmpty_eq_false_iff, List.all_eq_true]

theorem numeral?_eq_some_iff {position : Nat} :
    numeral? segment = some position ↔
      isNumeral segment = true ∧
        Nat.ofDigits 10 (segment.toList.filterMap Text.decimalValue?).reverse = position := by
  rw [numeral?]
  split_ifs with decimal
  · rw [Option.some.injEq, and_iff_right decimal]
  · exact iff_of_false nofun fun both => decimal both.1

theorem foldl_digits {digits : List Char}
    (decimal : ∀ digit ∈ digits, (Text.decimalValue? digit).isSome) :
    digits.foldl (fun total digit => 10 * total + (Text.decimalValue? digit).getD 0) 0 =
      Nat.ofDigits 10 (digits.filterMap Text.decimalValue?).reverse := by
  induction digits using List.reverseRecOn with
  | nil => rfl
  | append_singleton front last induction =>
      obtain ⟨before, isLast⟩ := List.forall_mem_append.mp decimal
      obtain ⟨value, writes⟩ :=
        Option.isSome_iff_exists.mp (isLast last (List.mem_singleton.mpr rfl))
      rw [List.foldl_append, List.foldl_cons, List.foldl_nil, induction before, writes,
        List.filterMap_append, List.filterMap_cons_some writes, List.filterMap_nil,
        List.reverse_append, List.reverse_singleton, List.singleton_append, Nat.ofDigits_cons,
        Nat.add_comm]
      rfl

theorem isIndex_iff :
    isIndex segment = true ↔
      segment.toList ≠ [] ∧ ∀ digit ∈ segment.toList, Text.isDigit digit = true := by
  rw [isIndex, Bool.and_eq_true, Bool.not_eq_true', List.isEmpty_eq_false_iff, List.all_eq_true]

theorem isIndex_of_numeral? {position : Nat} (writes : numeral? segment = some position) :
    isIndex segment = true := by
  obtain ⟨filled, decimal⟩ := isNumeral_iff.mp (numeral?_eq_some_iff.mp writes).1
  refine isIndex_iff.mpr ⟨filled, fun digit member => ?_⟩
  rw [Text.isDigit, decimal digit member, Bool.true_or]

theorem index_of_numeral? {position : Nat} (writes : numeral? segment = some position)
    (short : segment.toList.length ≤ digitLimit) : index segment = .ok position := by
  obtain ⟨numeral, value⟩ := numeral?_eq_some_iff.mp writes
  have decimal := (isNumeral_iff.mp numeral).2
  have whole : (segment.toList.takeWhile fun digit => (Text.decimalValue? digit).isSome) =
      segment.toList := List.takeWhile_eq_self_iff.mpr decimal
  rw [index, whole, if_neg (show ¬ 4300 < _ from Nat.not_lt.mpr short),
    if_neg (Nat.lt_irrefl _), foldl_digits decimal, value]

theorem index_of_unreadable (unreadable : Unreadable segment) :
    ∃ fault, index segment = .error fault ∧ fault.category = .value := by
  obtain ⟨digits, cause⟩ := unreadable
  rw [index]
  split_ifs with long partly
  · exact ⟨_, rfl, rfl⟩
  · exact ⟨_, rfl, rfl⟩
  · have whole : (segment.toList.takeWhile fun digit => (Text.decimalValue? digit).isSome) =
        segment.toList :=
      (List.takeWhile_prefix _).eq_of_length_le (Nat.not_lt.mp partly)
    rw [whole] at long
    rcases cause with none | tooLong
    · have numeral : isNumeral segment = true :=
        isNumeral_iff.mpr ⟨(isIndex_iff.mp digits).1, List.takeWhile_eq_self_iff.mp whole⟩
      rw [numeral?, if_pos numeral] at none
      cases none
    · exact absurd tooLong long

theorem find?_map_snd_eq_findSome? (segment : String) (entries : Entries) :
    (find? segment entries).map (·.2) =
      (spellings segment).findSome? fun spelling =>
        Table.lookup (Key.text spelling) entries := by
  rw [find?, List.map_findSome?]
  refine findSome?_congr fun spelling _ => ?_
  rw [Function.comp_apply, Option.map_map]
  exact Option.map_id'

/-- A spelling that is the segment itself may be tried once more. -/
theorem find?_map_snd (segment : String) (entries : Entries) :
    (find? segment entries).map (·.2) =
      [segment, common segment, dashed segment].findSome? fun spelling =>
        Table.lookup (Key.text spelling) entries := by
  rw [find?_map_snd_eq_findSome?, spellings, List.append_assoc, List.singleton_append,
    List.findSome?_cons, List.findSome?_cons]
  cases absent : Table.lookup (Key.text segment) entries with
  | some value => rfl
  | none =>
      have tried {mark : Char} {changed : String}
          (same : mark ∉ segment.toList → changed = segment) :
          ((if segment.toList.contains mark = true then [changed] else []).findSome?
              fun spelling => Table.lookup (Key.text spelling) entries) =
            Table.lookup (Key.text changed) entries := by
        split_ifs with present
        · rw [List.findSome?_singleton]
        · rw [List.contains_iff_mem] at present
          rw [same present, absent]
          rfl
      dsimp only
      rw [List.findSome?_append, tried Text.replaceChar_of_not_mem,
        tried Text.replaceChar_of_not_mem, ← common, ← dashed, List.findSome?_cons,
        List.findSome?_singleton]
      cases Table.lookup (Key.text (common segment)) entries <;> rfl

/-- A segment selects what it should, unless it is unreadable and meets a list. -/
theorem select_eq {value : Value}
    (free : ∀ items, value = .list items → ¬ Unreadable segment) :
    select segment value = .ok (selected? segment value) := by
  cases value with
  | list items =>
      have readable := free items rfl
      rw [select, selected?]
      cases writes : numeral? segment with
      | some position =>
          have short : segment.toList.length ≤ digitLimit := by
            by_contra long
            exact readable ⟨isIndex_of_numeral? writes, .inr (Nat.lt_of_not_le long)⟩
          rw [if_pos (isIndex_of_numeral? writes), index_of_numeral? writes short]
          rfl
      | none =>
          rw [if_neg fun digits => readable ⟨digits, .inl writes⟩]
          rfl
  | map entries => exact congrArg Except.ok (find?_map_snd segment entries)
  | callable content attributes => exact congrArg Except.ok (find?_map_snd segment attributes)
  | _ => rfl

theorem follow_of_not_trapped (free : ¬ Trapped path data) :
    follow path data = .ok (resolve? path data) := by
  induction path generalizing data with
  | nil => rfl
  | cons segment rest induction =>
      have readable : ∀ items, data = .list items → ¬ Unreadable segment := by
        rintro items rfl unreadable
        exact free (.here unreadable)
      rw [follow, select_eq readable, resolve?]
      cases found : selected? segment data with
      | none => rfl
      | some inner => exact induction fun trapped => free (.later found trapped)

theorem follow_of_trapped (trapped : Trapped path data) :
    ∃ fault, follow path data = .error fault ∧ fault.category = .value := by
  have fails {segment : String} {rest : List String} {items : List Value}
      (unreadable : Unreadable segment) :
      ∃ fault, follow (segment :: rest) (.list items) = .error fault ∧
        fault.category = .value := by
    obtain ⟨fault, unread, isValue⟩ := index_of_unreadable unreadable
    refine ⟨fault, ?_, isValue⟩
    rw [follow, select, if_pos unreadable.1, unread]
  induction trapped with
  | here unreadable => exact fails unreadable
  | @later segment rest value inner found _ induction =>
      by_cases caught : ∃ items, value = .list items ∧ Unreadable segment
      · obtain ⟨items, rfl, unreadable⟩ := caught
        exact fails unreadable
      · have readable : ∀ items, value = .list items → ¬ Unreadable segment :=
          fun items isList unreadable => caught ⟨items, isList, unreadable⟩
        rw [follow, select_eq readable, found]
        exact induction

variable {paths : List String} {first : String}

/-- In `null` every path leads to nothing, so it need not be told apart. -/
theorem read_eq_readFirst (data : Value) (paths : List String) (default : Value) :
    read data paths default = (readFirst data paths).map fun found => found.getD default := by
  cases data with
  | null =>
      have nothing : readFirst .null paths = .ok none := by
        induction paths with
        | nil => rfl
        | cons first rest induction =>
            rw [readFirst, follow_null (segments_ne_nil first)]
            exact induction
      rw [nothing]
      rfl
  | _ => rfl

theorem caught_cons_iff :
    Caught data (first :: paths) ↔
      Trapped (segments first) data ∨ resolved? data first = none ∧ Caught data paths := by
  constructor
  · rintro ⟨earlier, path, later, parts, silent, trapped⟩
    cases earlier with
    | nil =>
        obtain ⟨rfl, -⟩ := List.cons.inj parts
        exact .inl trapped
    | cons other earlier =>
        obtain ⟨rfl, rest⟩ := List.cons.inj parts
        obtain ⟨here, silent⟩ := List.forall_mem_cons.mp silent
        exact .inr ⟨here, earlier, path, later, rest, silent, trapped⟩
  · rintro (trapped | ⟨here, earlier, path, later, rfl, silent, trapped⟩)
    · exact ⟨[], first, paths, rfl, List.forall_mem_nil _, trapped⟩
    · exact ⟨first :: earlier, path, later, rfl, List.forall_mem_cons.mpr ⟨here, silent⟩, trapped⟩

theorem readFirst_cons (free : ¬ Trapped (segments first) data) (paths : List String) :
    readFirst data (first :: paths) =
      match resolved? data first with
      | some value => .ok (some value)
      | none => readFirst data paths := by
  rw [readFirst, follow_of_not_trapped free, resolved?]
  rcases resolve? (segments first) data with - | value
  · rfl
  · cases value <;> rfl

theorem readFirst_of_not_caught (free : ¬ Caught data paths) :
    readFirst data paths = .ok (paths.findSome? (resolved? data)) := by
  induction paths with
  | nil => rfl
  | cons first rest induction =>
      rw [caught_cons_iff, not_or] at free
      rw [readFirst_cons free.1, List.findSome?_cons]
      cases found : resolved? data first with
      | some value => rfl
      | none => exact induction fun caught => free.2 ⟨found, caught⟩

theorem readFirst_of_caught (caught : Caught data paths) :
    ∃ fault, readFirst data paths = .error fault ∧ fault.category = .value := by
  induction paths with
  | nil =>
      obtain ⟨earlier, path, later, parts, -⟩ := caught
      cases earlier <;> cases parts
  | cons first rest induction =>
      by_cases trapped : Trapped (segments first) data
      · obtain ⟨fault, failed, isValue⟩ := follow_of_trapped trapped
        refine ⟨fault, ?_, isValue⟩
        rw [readFirst, failed]
      · obtain ⟨silent, later⟩ := (caught_cons_iff.mp caught).resolve_left trapped
        rw [readFirst_cons trapped, silent]
        exact induction later

/-- What is read is what the first path resolves to that does, or the default, exactly if no path
up to this one is trapped.  Otherwise reading is a fault of a value. -/
theorem read_resolves_iff (data : Value) (paths : List String) (default : Value) :
    (read data paths default = .ok (resolved data paths default) ↔ ¬ Caught data paths) ∧
      ((∃ fault, read data paths default = .error fault ∧ fault.category = .value) ↔
        Caught data paths) := by
  by_cases caught : Caught data paths
  · obtain ⟨fault, failed, isValue⟩ := readFirst_of_caught caught
    have fails : read data paths default = .error fault := by
      rw [read_eq_readFirst, failed]
      rfl
    refine ⟨iff_of_false ?_ (not_not.mpr caught), iff_of_true ⟨fault, fails, isValue⟩ caught⟩
    rw [fails]
    nofun
  · have resolves : read data paths default = .ok (resolved data paths default) := by
      rw [read_eq_readFirst, readFirst_of_not_caught caught]
      rfl
    refine ⟨iff_of_true resolves caught, iff_of_false ?_ caught⟩
    rintro ⟨fault, failed, -⟩
    rw [resolves] at failed
    cases failed

/-- A superscript two is taken for a digit, but nothing can be read from it. -/
theorem not_resolved_superscript :
    let data := Value.list [.int 1, .int 2, .int 3]
    resolved data ["²"] .null = .null ∧ read data ["²"] .null = .error (.notAnInteger "²") := by
  decide +kernel

end ChatDispatch.Nested
