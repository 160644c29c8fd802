import ChatDispatch.Proofs.Json.Numbers
import ChatDispatch.Proofs.Json.Strings

/-!
# Reading trees

A reader is complete when it reads back what is spelled, and sound when all that it reads is
spelled.  Both go from the members of a series to what stands between brackets, and from there,
by induction on the depth, to trees.
-/

namespace ChatDispatch.Json

theorem isSpace_iff {character : Char} :
    isSpace character = true ↔ character ∈ [' ', '\t', '\n', '\r'] := by
  simp [isSpace, or_assoc]

theorem skipSpace_append {gap : List Char} (spaces : Spaces gap) (rest : List Char) :
    skipSpace (gap ++ rest) = skipSpace rest :=
  List.dropWhile_append_of_pos fun character member => isSpace_iff.mpr (spaces character member)

theorem skipSpace_cons {character : Char} (solid : isSpace character = false)
    (rest : List Char) : skipSpace (character :: rest) = character :: rest :=
  List.dropWhile_cons_of_neg (by simp [solid])

/-- Spaces are skipped up to the first character that is none. -/
theorem skipSpace_gap {gap : List Char} (spaces : Spaces gap) {character : Char}
    (solid : isSpace character = false) (rest : List Char) :
    skipSpace (gap ++ character :: rest) = character :: rest :=
  (skipSpace_append spaces _).trans (skipSpace_cons solid rest)

theorem exists_spaces (input : List Char) :
    ∃ gap, Spaces gap ∧ input = gap ++ skipSpace input :=
  ⟨input.takeWhile isSpace, fun _ member => isSpace_iff.mp (List.mem_takeWhile_imp member),
    List.takeWhile_append_dropWhile.symm⟩

theorem Series.pad {α : Type} {Spelled : α → List Char → Prop} {members : List α}
    {gap inner : List Char} (spaces : Spaces gap) (series : Series Spelled members inner) :
    Series Spelled members (gap ++ inner) := by
  have both {before : List Char} (more : Spaces before) : Spaces (gap ++ before) :=
    List.forall_mem_append.mpr ⟨spaces, more⟩
  cases series with
  | last before spelled after =>
      rw [← List.append_assoc]
      exact .last (both before) spelled after
  | next before spelled after others =>
      rw [← List.append_assoc]
      exact .next (both before) spelled after others

section

variable {α β : Type} (reader : List Char → Option (β × List Char)) (meaning : α → β)
  (Good : α → Prop) (Spelled : α → List Char → Prop)

/-- Whatever is good is read back, when what follows could not belong to it. -/
def Complete : Prop :=
  ∀ member text, Good member → Spelled member text →
    ∀ rest, Ends rest → reader (text ++ rest) = some (meaning member, rest)

def Sound : Prop :=
  ∀ input result rest, reader input = some (result, rest) →
    ∃ member text, Good member ∧ Spelled member text ∧ meaning member = result ∧
      input = text ++ rest

end

/-- A text with a visible character in front that closes nothing. -/
def Begins (text : List Char) : Prop :=
  ∃ first others, text = first :: others ∧ isSpace first = false ∧ first ≠ ']' ∧ first ≠ '\x7d'

section

variable {α β : Type} {reader : List Char → Option (β × List Char)} {meaning : α → β}
  {Good : α → Prop} {Spelled : α → List Char → Prop} {close : Char}

theorem Ends.after_spaces {gap : List Char} (spaces : Spaces gap) {rest : List Char}
    (ends : Ends rest) : Ends (gap ++ rest) := by
  cases gap with
  | nil => exact ends
  | cons space gap =>
      rintro _ ⟨⟩
      have member := spaces space List.mem_cons_self
      simp only [List.mem_cons, List.not_mem_nil, or_false] at member
      rcases member with rfl | rfl | rfl | rfl <;> exact ⟨rfl, by decide⟩

def Closes (close : Char) : Prop :=
  close = ']' ∨ close = '\x7d'

theorem Closes.ends (closes : Closes close) (rest : List Char) : Ends (close :: rest) := by
  rintro _ ⟨⟩
  rcases closes with rfl | rfl <;> exact ⟨rfl, by decide⟩

theorem Closes.solid (closes : Closes close) : isSpace close = false := by
  rcases closes with rfl | rfl <;> rfl

theorem ends_comma (rest : List Char) : Ends (',' :: rest) := by
  rintro _ ⟨⟩
  exact ⟨rfl, by decide⟩

theorem series_last {fuel : Nat} {input after rest : List Char} {first : β}
    (read : reader input = some (first, after ++ close :: rest)) (spaces : Spaces after)
    (closes : Closes close) :
    series reader close (fuel + 1) input = some ([first], rest) := by
  simp [series, read, skipSpace_gap spaces closes.solid]

theorem series_next {fuel : Nat} {input after rest : List Char} {first : β}
    (read : reader input = some (first, after ++ ',' :: rest)) (spaces : Spaces after)
    (closes : Closes close) :
    series reader close (fuel + 1) input =
      (series reader close fuel (skipSpace rest)).map fun others =>
        (first :: others.1, others.2) := by
  have next := skipSpace_gap spaces (rfl : isSpace ',' = false) rest
  have noClose : ',' ≠ close := by
    rcases closes with rfl | rfl <;> decide
  rw [series, read]
  simp only [Option.bind_eq_bind, Option.bind_some, next, noClose, ↓reduceIte, Option.pure_def]
  cases series reader close fuel (skipSpace rest) <;> rfl

/-- A series that is read ends after its first member or goes on after a comma. -/
theorem series_cases {fuel : Nat} {input rest : List Char} {results : List β}
    (read : series reader close (fuel + 1) input = some (results, rest)) :
    ∃ first after, Spaces after ∧
      ((reader input = some (first, after ++ close :: rest) ∧ results = [first]) ∨
        ∃ following others, reader input = some (first, after ++ ',' :: following) ∧
          series reader close fuel (skipSpace following) = some (others, rest) ∧
          results = first :: others) := by
  simp only [series, Option.bind_eq_bind, Option.bind_eq_some_iff, Option.pure_def,
    Prod.exists] at read
  obtain ⟨first, remaining, member, read⟩ := read
  obtain ⟨after, spaces, same⟩ := exists_spaces remaining
  refine ⟨first, after, spaces, ?_⟩
  split at read
  · cases read
  · rename_i character following seen
    rw [seen] at same
    subst same
    split at read
    · rename_i isClose
      subst isClose
      cases read
      exact .inl ⟨member, rfl⟩
    · split at read
      · rename_i isComma
        subst isComma
        simp only [Option.bind_eq_some_iff, Prod.exists, Option.some.injEq, Prod.mk.injEq] at read
        obtain ⟨others, _, later, rfl, rfl⟩ := read
        exact .inr ⟨following, others, member, later, rfl⟩
      · cases read

theorem Begins.skipSpace_append {text : List Char} (begins : Begins text) (rest : List Char) :
    skipSpace (text ++ rest) = text ++ rest := by
  obtain ⟨first, others, rfl, solid, -⟩ := begins
  exact skipSpace_cons solid _

theorem Complete.series (complete : Complete reader meaning Good Spelled)
    (begins : ∀ member text, Spelled member text → Begins text) (closes : Closes close)
    {members : List α} {inner : List Char} (spelled : Series Spelled members inner)
    (good : ∀ member ∈ members, Good member) (rest : List Char) {fuel : Nat}
    (enough : inner.length ≤ fuel) :
    Json.series reader close (fuel + 1) (skipSpace (inner ++ close :: rest)) =
      some (members.map meaning, rest) := by
  induction spelled generalizing fuel with
  | @last member before text after spacesBefore first spacesAfter =>
      have read := complete member text (good member List.mem_cons_self) first
        (after ++ close :: rest) (.after_spaces spacesAfter (closes.ends rest))
      rw [List.append_assoc, List.append_assoc, skipSpace_append spacesBefore,
        (begins member text first).skipSpace_append]
      exact series_last read spacesAfter closes
  | @next member members before text after others spacesBefore first spacesAfter _ induction =>
      obtain ⟨here, later⟩ := List.forall_mem_cons.mp good
      have read := complete member text here first (after ++ ',' :: (others ++ close :: rest))
        (.after_spaces spacesAfter (ends_comma _))
      simp only [List.length_append, List.length_cons] at enough
      obtain ⟨fuel, rfl⟩ : ∃ less, fuel = less + 1 := ⟨fuel - 1, by omega⟩
      rw [List.append_assoc, List.append_assoc, List.append_assoc, skipSpace_append spacesBefore,
        (begins member text first).skipSpace_append, List.cons_append,
        series_next read spacesAfter closes, induction later (by omega)]
      rfl

theorem Series.begins {members : List α} {inner : List Char}
    (begins : ∀ member text, Spelled member text → Begins text)
    (spelled : Series Spelled members inner) (rest : List Char) :
    ∃ first others, skipSpace (inner ++ rest) = first :: others ∧ first ≠ ']' ∧ first ≠ '\x7d' := by
  cases spelled with
  | last spaces member _ =>
      obtain ⟨first, others, rfl, solid, differs⟩ := begins _ _ member
      rw [List.append_assoc, skipSpace_append spaces]
      exact ⟨first, _, skipSpace_cons solid _, differs⟩
  | next spaces member _ _ =>
      obtain ⟨first, others, rfl, solid, differs⟩ := begins _ _ member
      rw [List.append_assoc, skipSpace_append spaces]
      exact ⟨first, _, skipSpace_cons solid _, differs⟩

theorem Complete.bracketed (complete : Complete reader meaning Good Spelled)
    (begins : ∀ member text, Spelled member text → Begins text) (closes : Closes close)
    {members : List α} {inner : List Char} (spelled : Inside Spelled members inner)
    (good : ∀ member ∈ members, Good member) (rest : List Char) :
    Json.bracketed reader close (inner ++ close :: rest) = some (members.map meaning, rest) := by
  cases spelled with
  | nothing spaces =>
      unfold Json.bracketed
      rw [skipSpace_gap spaces closes.solid]
      exact if_pos rfl
  | series spelled =>
      obtain ⟨first, others, seen, noBracket, noBrace⟩ := spelled.begins begins (close :: rest)
      have noClose : first ≠ close := by
        rcases closes with rfl | rfl
        · exact noBracket
        · exact noBrace
      have enough : inner.length ≤ (inner ++ close :: rest).length := by simp
      have read := complete.series begins closes spelled good rest enough
      rw [seen] at read
      unfold Json.bracketed
      rw [seen]
      exact (if_neg noClose).trans read

theorem Sound.series (sound : Sound reader meaning Good Spelled) {fuel : Nat}
    {input rest : List Char} {results : List β}
    (read : Json.series reader close fuel input = some (results, rest)) :
    ∃ members inner, (∀ member ∈ members, Good member) ∧ Series Spelled members inner ∧
      members.map meaning = results ∧ input = inner ++ close :: rest := by
  induction fuel generalizing input results with
  | zero => cases read
  | succ fuel induction =>
      obtain ⟨result, after, spaces,
        ⟨first, rfl⟩ | ⟨following, others, first, later, rfl⟩⟩ := series_cases read
      · obtain ⟨member, text, good, spelled, rfl, rfl⟩ := sound _ _ _ first
        refine ⟨[member], [] ++ (text ++ after), ?_, .last (by nofun) spelled spaces, rfl, by simp⟩
        exact List.forall_mem_singleton.mpr good
      · obtain ⟨member, text, good, spelled, rfl, rfl⟩ := sound _ _ _ first
        obtain ⟨members, inner, goods, series, rfl, tail⟩ := induction later
        obtain ⟨gap, gapSpaces, followingText⟩ := exists_spaces following
        refine ⟨member :: members, [] ++ (text ++ (after ++ ',' :: (gap ++ inner))), ?_,
          .next (by nofun) spelled spaces (series.pad gapSpaces), rfl, ?_⟩
        · exact List.forall_mem_cons.mpr ⟨good, goods⟩
        · rw [followingText, tail]
          simp

theorem Sound.bracketed (sound : Sound reader meaning Good Spelled)
    {input rest : List Char} {results : List β}
    (read : Json.bracketed reader close input = some (results, rest)) :
    ∃ members inner, (∀ member ∈ members, Good member) ∧ Inside Spelled members inner ∧
      members.map meaning = results ∧ input = inner ++ close :: rest := by
  obtain ⟨gap, spaces, same⟩ := exists_spaces input
  unfold Json.bracketed at read
  split at read
  · cases read
  · rename_i first others seen
    rw [seen] at same
    split at read
    · rename_i isClose
      subst isClose
      cases read
      exact ⟨[], gap, by nofun, .nothing spaces, rfl, same⟩
    · obtain ⟨members, inner, goods, series, values, tail⟩ := sound.series read
      refine ⟨members, gap ++ inner, goods, .series (series.pad spaces), values, ?_⟩
      rw [same, tail, List.append_assoc]

end

def Tree.field (field : String × Tree) : Key × Value :=
  (.text field.1, field.2.value)

theorem Tree.value_object (fields : List (String × Tree)) :
    (Tree.object fields).value = .map (Table.ofEntries (fields.map Tree.field)) := by
  have named : fields.map Tree.field = Entries.named (Tree.fieldValues fields) := by
    rw [Tree.fieldValues_eq, Entries.named, List.map_map]
    rfl
  rw [named, Entries.ofEntries_named, Tree.value]

theorem visible_of_digit {character : Char} (isDigit : Text.isAsciiDigit character = true) :
    isSpace character = false ∧ character ≠ ']' ∧ character ≠ '\x7d' := by
  refine ⟨?_, ?_, ?_⟩
  · rw [← Bool.not_eq_true, isSpace_iff]
    intro member
    simp only [List.mem_cons, List.not_mem_nil, or_false] at member
    rcases member with rfl | rfl | rfl | rfl <;> exact absurd isDigit (by decide)
  · rintro rfl
    exact absurd isDigit (by decide)
  · rintro rfl
    exact absurd isDigit (by decide)

theorem Spells.begins {halves : Prop} {tree : Tree} {text : List Char}
    (spelled : Spells halves tree text) : Begins text := by
  cases spelled with
  | null | yes | no => exact ⟨_, _, rfl, rfl, by decide⟩
  | string quoted =>
      cases quoted
      exact ⟨_, _, rfl, rfl, by decide⟩
  | array | object => exact ⟨_, _, rfl, rfl, by decide⟩
  | number numeral =>
      obtain ⟨first, others, written, rfl | isDigit⟩ := numeral.exists_first
      · exact ⟨'-', others, written, rfl, by decide⟩
      · exact ⟨first, others, written, visible_of_digit isDigit⟩

theorem Field.begins {halves : Prop} {field : String × Tree} {text : List Char}
    (spelled : Field halves (Spells halves) field text) : Begins text := by
  obtain ⟨⟨-⟩, -, -, -⟩ := spelled
  exact ⟨_, _, rfl, rfl, by decide⟩

theorem Complete.field {reader : List Char → Option (Value × List Char)} {Good : Tree → Prop}
    (complete : Complete reader Tree.value Good (Spells False)) :
    Complete (Json.field reader) Tree.field (fun field => Good field.2)
      (Field False (Spells False)) := by
  rintro _ _ good ⟨⟨nameSpelled⟩, spacesBefore, spacesAfter, spelled⟩ rest ends
  rename_i name tree before after text nameText
  have nameRead := string_append nameSpelled (before ++ ':' :: (after ++ (text ++ rest)))
  have colon := skipSpace_gap spacesBefore (rfl : isSpace ':' = false) (after ++ (text ++ rest))
  have content : skipSpace (after ++ (text ++ rest)) = text ++ rest :=
    (skipSpace_append spacesAfter _).trans (spelled.begins.skipSpace_append rest)
  have whole : '"' :: (nameText ++ ['"']) ++ (before ++ ':' :: (after ++ text)) ++ rest =
      '"' :: (nameText ++ '"' :: (before ++ ':' :: (after ++ (text ++ rest)))) := by
    simp
  rw [whole, Json.field, nameRead]
  simp only [Option.bind_eq_bind, Option.bind_some, colon, content,
    complete tree text good spelled rest ends]
  rfl

theorem Sound.field {reader : List Char → Option (Value × List Char)} {Good : Tree → Prop}
    (sound : Sound reader Tree.value Good (Spells True)) :
    Sound (Json.field reader) Tree.field (fun field => Good field.2)
      (Field True (Spells True)) := by
  intro input result rest read
  unfold Json.field at read
  split at read
  · rename_i following
    simp only [Option.bind_eq_bind, Option.bind_eq_some_iff, Prod.exists] at read
    obtain ⟨name, remaining, nameRead, read⟩ := read
    obtain ⟨nameText, nameSpelled, rfl⟩ := spellsCharacters_of_string nameRead
    obtain ⟨before, spacesBefore, same⟩ := exists_spaces remaining
    split at read
    · rename_i last seen
      rw [seen] at same
      subst same
      obtain ⟨after, spacesAfter, lastText⟩ := exists_spaces last
      simp only [Option.bind_eq_some_iff, Prod.exists, Option.pure_def, Option.some.injEq,
        Prod.mk.injEq] at read
      obtain ⟨content, _, contentRead, rfl, rfl⟩ := read
      obtain ⟨tree, text, good, spelled, rfl, tail⟩ := sound _ _ _ contentRead
      refine ⟨(name, tree), _, good, .colon ⟨nameSpelled⟩ spacesBefore spacesAfter spelled, rfl, ?_⟩
      rw [lastText, tail]
      simp
    · cases read
  · cases read

theorem value_number (bounds : Limits) (depth : Nat) (numeral : Numeral) (rest : List Char) :
    value bounds (depth + 1) (numeral.text ++ rest) = number bounds (numeral.text ++ rest) := by
  obtain ⟨character, others, written, isFirst⟩ := numeral.exists_first
  have differs (other : Char) (noSign : other ≠ '-')
      (noDigit : Text.isAsciiDigit other = false) : character ≠ other := by
    rintro rfl
    rcases isFirst with sign | isDigit
    · exact noSign sign
    · exact absurd isDigit (by simp [noDigit])
  rw [written, List.cons_append]
  unfold value
  split <;> rename_i same
  · exact absurd same (Nat.succ_ne_zero depth)
  · exact absurd (List.cons.inj same).1 (differs '"' (by decide) rfl)
  · exact absurd (List.cons.inj same).1 (differs '[' (by decide) rfl)
  · exact absurd (List.cons.inj same).1 (differs '\x7b' (by decide) rfl)
  · exact absurd (List.cons.inj same).1 (differs 'n' (by decide) rfl)
  · exact absurd (List.cons.inj same).1 (differs 't' (by decide) rfl)
  · exact absurd (List.cons.inj same).1 (differs 'f' (by decide) rfl)
  · rfl

theorem Tree.Fits.item {limit : Nat} {items : List Tree} (fits : (Tree.array items).Fits limit)
    {item : Tree} (member : item ∈ items) : item.Fits limit := by
  cases fits with
  | array fits => exact fits item member

theorem Tree.Fits.field {limit : Nat} {fields : List (String × Tree)}
    (fits : (Tree.object fields).Fits limit) {field : String × Tree} (member : field ∈ fields) :
    field.2.Fits limit := by
  cases fits with
  | object fits => exact fits field member

/-- The items of an array are nested less deep than the array. -/
theorem Tree.Within.item {levels depth : Nat} {items : List Tree}
    (within : (Tree.array items).Within levels) (deep : levels < depth + 1) {item : Tree}
    (member : item ∈ items) : ∃ levels < depth, item.Within levels := by
  cases within with
  | array within => exact ⟨_, Nat.lt_of_succ_lt_succ deep, within item member⟩

theorem Tree.Within.field {levels depth : Nat} {fields : List (String × Tree)}
    (within : (Tree.object fields).Within levels) (deep : levels < depth + 1)
    {field : String × Tree} (member : field ∈ fields) :
    ∃ levels < depth, field.2.Within levels := by
  cases within with
  | object within => exact ⟨_, Nat.lt_of_succ_lt_succ deep, within field member⟩

/-- A tree is read back, when the reader goes deeper than the tree. -/
theorem value_complete (bounds : Limits) (depth : Nat) :
    Complete (value bounds depth) Tree.value
      (fun tree => tree.Fits bounds.digits ∧ ∃ levels < depth, tree.Within levels)
      (Spells False) := by
  induction depth with
  | zero =>
      rintro tree text ⟨-, levels, impossible, -⟩
      exact absurd impossible (Nat.not_lt_zero levels)
  | succ depth induction =>
      rintro tree text ⟨fits, levels, deep, within⟩ spelled rest ends
      cases spelled with
      | null | yes | no => rfl
      | number numeral =>
          cases fits with
          | number fits =>
              exact (value_number bounds depth numeral rest).trans (number_append bounds fits ends)
      | @string content _ quoted =>
          obtain @⟨text, spelled⟩ := quoted
          have opened : '"' :: (text ++ ['"']) ++ rest = '"' :: (text ++ '"' :: rest) := by simp
          rw [opened, value, string_append spelled rest]
          rfl
      | @array items inner inside =>
          have read := induction.bracketed (fun _ _ => Spells.begins) (.inl rfl) inside
            (fun item member => ⟨fits.item member, within.item deep member⟩) rest
          have opened : '[' :: (inner ++ [']']) ++ rest = '[' :: (inner ++ ']' :: rest) := by simp
          rw [opened, value, read, Tree.value, Tree.itemValues_eq]
          rfl
      | @object fields inner inside =>
          have read := induction.field.bracketed (fun _ _ => Field.begins) (.inr rfl) inside
            (fun field member => ⟨fits.field member, within.field deep member⟩) rest
          have opened : '\x7b' :: (inner ++ ['\x7d']) ++ rest =
              '\x7b' :: (inner ++ '\x7d' :: rest) := by simp
          rw [opened, value, read, Tree.value_object]
          rfl

/-- What is read as a value is spelled as a tree that stands for it. -/
theorem value_sound (bounds : Limits) (depth : Nat) :
    Sound (value bounds depth) Tree.value (Tree.Fits bounds.digits) (Spells True) := by
  induction depth with
  | zero =>
      intro input result rest read
      cases read
  | succ depth induction =>
      intro input result rest read
      unfold value at read
      split at read
      · rename_i impossible
        exact absurd impossible (Nat.succ_ne_zero depth)
      · rename_i same
        cases same
        simp only [Option.map_eq_some_iff, Prod.exists, Prod.mk.injEq] at read
        obtain ⟨content, _, read, rfl, rfl⟩ := read
        obtain ⟨text, spelled, rfl⟩ := spellsCharacters_of_string read
        exact ⟨.string content, _, .string content, .string ⟨spelled⟩, rfl, by simp⟩
      · rename_i same
        cases same
        simp only [Option.map_eq_some_iff, Prod.exists, Prod.mk.injEq] at read
        obtain ⟨values, _, read, rfl, rfl⟩ := read
        obtain ⟨items, inner, fits, inside, rfl, rfl⟩ := induction.bracketed read
        refine ⟨.array items, _, .array fits, .array inside, ?_, by simp⟩
        rw [Tree.value, Tree.itemValues_eq]
      · rename_i same
        cases same
        simp only [Option.map_eq_some_iff, Prod.exists, Prod.mk.injEq] at read
        obtain ⟨values, _, read, rfl, rfl⟩ := read
        obtain ⟨fields, inner, fits, inside, rfl, rfl⟩ := induction.field.bracketed read
        exact ⟨.object fields, _, .object fits, .object inside, Tree.value_object fields, by simp⟩
      · cases read
        exact ⟨.null, _, .null, .null, rfl, rfl⟩
      · cases read
        exact ⟨.bool true, _, .bool true, .yes, rfl, rfl⟩
      · cases read
        exact ⟨.bool false, _, .bool false, .no, rfl, rfl⟩
      · obtain ⟨numeral, fits, rfl, rfl⟩ := numeral_of_number read
        exact ⟨.number numeral, _, .number fits, .number numeral, rfl, rfl⟩

/-- A tree that is spelled with spaces around it is read back. -/
theorem read?_of_spellsText {tree : Tree} {text : List Char} (spelled : SpellsText False tree text)
    (fits : tree.Fits limits.digits) {levels : Nat} (deep : levels < limits.depth)
    (within : tree.Within levels) : read? text = some tree.value := by
  obtain ⟨spacesBefore, spelled, spacesAfter⟩ := spelled
  rename_i before text after
  have ends : Ends after := by
    have nothing : Ends [] := by nofun
    simpa using nothing.after_spaces spacesAfter
  have read := value_complete limits limits.depth tree text ⟨fits, levels, deep, within⟩ spelled
    after ends
  have last : skipSpace after = [] := by
    simpa [skipSpace] using skipSpace_append spacesAfter []
  rw [read?, skipSpace_append spacesBefore, spelled.begins.skipSpace_append, read]
  simp [last]

/-- What is read is the value of a tree that is spelled with spaces around it. -/
theorem spellsText_of_read? {text : List Char} {result : Value} (read : read? text = some result) :
    ∃ tree : Tree, tree.Fits limits.digits ∧ SpellsText True tree text ∧ tree.value = result := by
  simp only [read?, Option.bind_eq_bind, Option.bind_eq_some_iff, Prod.exists] at read
  obtain ⟨value, rest, first, last⟩ := read
  split at last
  · rename_i finished
    cases last
    obtain ⟨tree, written, fits, spelled, rfl, same⟩ := value_sound limits _ _ _ _ first
    obtain ⟨before, spacesBefore, textSame⟩ := exists_spaces text
    obtain ⟨after, spacesAfter, restSame⟩ := exists_spaces rest
    rw [List.isEmpty_iff.mp finished, List.append_nil] at restSame
    rw [same, restSame] at textSame
    rw [textSame]
    exact ⟨tree, fits, .padded spacesBefore spelled spacesAfter, rfl⟩
  · cases last

theorem SpellsText.array {halves : Prop} {tree : Tree} {text rest : List Char}
    (spelled : SpellsText halves tree text) (opened : text = '[' :: rest) :
    ∃ items inner after, tree = .array items ∧ Inside (Spells halves) items inner ∧
      Spaces after ∧ rest = inner ++ ']' :: after := by
  obtain ⟨spacesBefore, spelled, spacesAfter⟩ := spelled
  rename_i before text after
  cases before with
  | cons space before =>
      cases opened
      exact absurd (spacesBefore '[' List.mem_cons_self) (by decide)
  | nil =>
      cases spelled with
      | null | yes | no | object => cases opened
      | string quoted =>
          cases quoted
          cases opened
      | number numeral =>
          obtain ⟨character, others, written, isFirst⟩ := numeral.exists_first
          rw [written] at opened
          cases opened
          rcases isFirst with impossible | impossible <;> exact absurd impossible (by decide)
      | @array items inner inside =>
          cases opened
          exact ⟨items, inner, after, rfl, inside, spacesAfter, by simp⟩

/-- An array that is closed at once is followed by nothing but spaces. -/
theorem SpellsText.spaces_of_closed {halves : Prop} {tree : Tree} {rest : List Char}
    (spelled : SpellsText halves tree ('[' :: ']' :: rest)) : Spaces rest := by
  obtain ⟨items, inner, after, -, inside, spaces, same⟩ := spelled.array rfl
  cases inside with
  | nothing gap =>
      cases inner with
      | nil =>
          cases same
          exact spaces
      | cons space inner =>
          cases same
          exact absurd (gap ']' List.mem_cons_self) (by decide)
  | series series =>
      obtain ⟨first, others, seen, noBracket, -⟩ := series.begins (fun _ _ => Spells.begins)
        (']' :: after)
      rw [← same, skipSpace_cons rfl] at seen
      cases seen
      exact absurd rfl noBracket

end ChatDispatch.Json
