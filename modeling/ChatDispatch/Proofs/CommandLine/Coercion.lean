import ChatDispatch.Proofs.CommandLine.Verbatim
import ChatDispatch.Proofs.Json.Reader

/-!
# What arguments are read as

A token in brackets is read as the tree that it spells, and as itself when it spells none.  No
token is read as another text, and digits are read as the integer that they write.
-/

namespace ChatDispatch.CommandLine

open ChatDispatch.Json (Tree SpellsText Digits)

/-- An integer in digits, with a minus sign or without one. -/
def signedDigits (negative : Bool) (digits : Digits) : List Char :=
  if negative then '-' :: digits.text else digits.text

theorem forall_signedDigits (negative : Bool) (digits : Digits) :
    ∀ character ∈ signedDigits negative digits,
      character = '-' ∨ Text.isAsciiDigit character = true := by
  intro character member
  cases negative with
  | false => exact .inr (digits.decimal character member)
  | true => exact (List.mem_cons.mp member).imp id (digits.decimal character)

theorem decimal?_signedDigits (negative : Bool) (digits : Digits) :
    decimal? (signedDigits negative digits) = some ⟨negative, digits.text, none⟩ := by
  cases negative with
  | true => exact unsignedDecimal?_digits true digits.filled digits.decimal
  | false =>
      obtain ⟨first, rest, written, isDigit⟩ := digits.exists_cons
      have unsigned : first ≠ '-' := by
        rintro rfl
        exact absurd isDigit (by decide)
      have read := unsignedDecimal?_digits false digits.filled digits.decimal
      rw [written, ← decimal?_of_ne unsigned, ← written] at read
      exact read

theorem argument_signedDigits (negative : Bool) {digits : Digits}
    (short : digits.text.length ≤ Json.limits.digits) :
    argument (signedDigits negative digits) =
      .int (if negative then -(digits.number : Int) else digits.number) := by
  rw [argument_of_decimal? (forall_signedDigits negative digits)
    (decimal?_signedDigits negative digits)]
  exact if_pos short

theorem argument_of_spellsText {token : List Char} (brackets : looksLikeJson token = true)
    {tree : Tree} (spelled : SpellsText False tree token) (fits : tree.Fits Json.limits.digits)
    {levels : Nat} (deep : levels < Json.limits.depth) (within : tree.Within levels) :
    argument token = tree.value := by
  rw [argument_of_looksLikeJson brackets, Json.read?_of_spellsText spelled fits deep within]
  rfl

theorem argument_of_not_spellsText {token : List Char} (brackets : looksLikeJson token = true)
    (noTree : ∀ tree, SpellsText True tree token → ¬ tree.Fits Json.limits.digits) :
    argument token = .text (String.ofList token) := by
  have nothing : Json.read? token = none := by
    cases read : Json.read? token with
    | none => rfl
    | some value =>
        obtain ⟨tree, fits, spelled, -⟩ := Json.spellsText_of_read? read
        exact absurd fits (noTree tree spelled)
  rw [argument_of_looksLikeJson brackets, nothing]
  rfl

/-- A token is read as itself when it is read as a text.  In brackets it is read as the tree that
it spells, if its integers are short, and otherwise as itself; digits are read as an integer. -/
theorem argument_strict (token : List Char) :
    (∀ content, argument token = .text content → content.toList = token) ∧
      (looksLikeJson token = true →
        (∀ tree, SpellsText False tree token → tree.Fits 4300 → tree.Within 200 →
            argument token = tree.value) ∧
          ((∀ tree, SpellsText True tree token → ¬ tree.Fits 4300) →
            argument token = .text (String.ofList token))) ∧
      ∀ (negative : Bool) (digits : Digits),
        digits.text.length ≤ 4300 → token = signedDigits negative digits →
          argument token = .int (if negative then -(digits.number : Int) else digits.number) := by
  refine ⟨fun content read => (eq_toList_of_argument read).symm, fun brackets => ⟨?_, ?_⟩, ?_⟩
  · intro tree spelled fits within
    exact argument_of_spellsText brackets spelled fits (by decide) within
  · exact argument_of_not_spellsText brackets
  · rintro negative digits short rfl
    exact argument_signedDigits negative short

/-- Constants that are no numbers, leading zeros, control characters between quotes, commas
without a next item and whatever follows the last bracket are not JSON. -/
example : ∀ token ∈ ["[NaN]", "[-Infinity]", "[01]", "[\"\t\"]", "[1,]", "[1] 2]"],
    argument token.toList = .text token := by
  decide

def sampleNumeral : Json.Numeral :=
  ⟨true, ⟨['7'], by decide, List.all_eq_true.mp rfl⟩, by decide, none, none⟩

/-- A number, and an object that has one name twice. -/
def sampleTree : Tree :=
  .array [.number sampleNumeral, .object [("a", .null), ("a", .bool true)]]

def sampleToken : List Char :=
  "[-7, \x7b\"a\":null,\"\\u0061\" : true\x7d ]".toList

theorem spells_sampleToken : SpellsText False sampleTree sampleToken := by
  have plainName : Json.SpellsString False "a" "\"a\"".toList :=
    @Json.SpellsString.quoted False "a" ['a']
      (.cons (.plain (by decide) (by decide) (by decide)) .nil)
  have letter : Json.Hex "0061".toList 97 :=
    @Json.Hex.four '0' '0' '6' '1' 0 0 6 1 (by decide) (by decide) (by decide) (by decide)
  have escapedName : Json.SpellsString False "a" "\"\\u0061\"".toList :=
    @Json.SpellsString.quoted False "a" "\\u0061".toList
      (@Json.SpellsCharacters.cons _ 'a' "\\u0061".toList [] [] (.unit letter) .nil)
  have plainField : Json.Field False (Json.Spells False) ("a", .null) "\"a\":null".toList :=
    @Json.Field.colon _ _ "a" .null "\"a\"".toList [] [] "null".toList plainName
      (by decide) (by decide) .null
  have escapedField :
      Json.Field False (Json.Spells False) ("a", .bool true) "\"\\u0061\" : true".toList :=
    @Json.Field.colon _ _ "a" (.bool true) "\"\\u0061\"".toList [' '] [' '] "true".toList
      escapedName (by decide) (by decide) .yes
  have fields : Json.Series (Json.Field False (Json.Spells False))
      [("a", .null), ("a", .bool true)] "\"a\":null,\"\\u0061\" : true".toList :=
    @Json.Series.next _ _ _ _ [] _ [] "\"\\u0061\" : true".toList (by decide) plainField
      (by decide) (@Json.Series.last _ _ _ [] _ [] (by decide) escapedField (by decide))
  have object : Json.Spells False (.object [("a", .null), ("a", .bool true)])
      "\x7b\"a\":null,\"\\u0061\" : true\x7d".toList := .object (.series fields)
  have items : Json.Series (Json.Spells False)
      [.number sampleNumeral, .object [("a", .null), ("a", .bool true)]]
      "-7, \x7b\"a\":null,\"\\u0061\" : true\x7d ".toList :=
    @Json.Series.next _ _ _ _ [] "-7".toList [] _ (by decide) (.number sampleNumeral) (by decide)
      (@Json.Series.last _ _ _ [' '] _ [' '] (by decide) object (by decide))
  have array : Json.Spells False sampleTree sampleToken := .array (.series items)
  exact @SpellsText.padded _ _ [] sampleToken [] (by decide) array (by decide)

theorem fits_sampleTree : sampleTree.Fits 4300 := by
  apply Tree.Fits.array
  rintro item (_ | ⟨_, _ | ⟨_, ⟨⟩⟩⟩)
  · exact .number fun _ => by decide
  · apply Tree.Fits.object
    rintro field (_ | ⟨_, _ | ⟨_, ⟨⟩⟩⟩)
    · exact .null
    · exact .bool true

theorem within_sampleTree : sampleTree.Within 200 := by
  apply Tree.Within.array
  rintro item (_ | ⟨_, _ | ⟨_, ⟨⟩⟩⟩)
  · exact .number _ _
  · apply Tree.Within.object
    rintro field (_ | ⟨_, _ | ⟨_, ⟨⟩⟩⟩)
    · exact .null _
    · exact .bool _ true

/-- The sample is read as its tree, with the last value of the name that it has twice; a list that
goes on after its end is read as a text, and a minus sign with digits as an integer. -/
theorem argument_strict_samples :
    argument sampleToken = .list [.int (-7), .map [(.text "a", .bool true)]] ∧
      argument "[]]".toList = .text "[]]" ∧
      argument "-012".toList = .int (-12) := by
  refine ⟨?_, ?_, ?_⟩
  · exact ((argument_strict sampleToken).2.1 (by decide)).1 sampleTree spells_sampleToken
      fits_sampleTree within_sampleTree
  · apply ((argument_strict "[]]".toList).2.1 (by decide)).2
    intro tree spelled
    exact absurd spelled.spaces_of_closed (by decide)
  · exact (argument_strict "-012".toList).2.2 true
      ⟨"012".toList, by decide, List.all_eq_true.mp rfl⟩ (by decide) rfl

end ChatDispatch.CommandLine
