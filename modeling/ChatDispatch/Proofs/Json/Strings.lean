import ChatDispatch.Proofs.Json.Grammar
import Mathlib.Tactic.IntervalCases

/-!
# Reading strings

A character is read back from each way to write it, and what is read as a character is
written in one of these ways.  The same holds for strings, character by character.
-/

namespace ChatDispatch.Json

theorem toNat_toLower (character : Char) :
    character.toLower.toNat =
      if 65 ≤ character.toNat ∧ character.toNat ≤ 90 then character.toNat + 32
      else character.toNat := by
  unfold Char.toLower
  split
  · rename_i upper
    have atLeast : 65 ≤ character.toNat := upper.1
    have atMost : character.toNat ≤ 90 := upper.2
    rw [if_pos ⟨atLeast, atMost⟩]
    change (character.val + 32).toNat = character.toNat + 32
    rw [UInt32.toNat_add]
    change (character.toNat + 32) % 4294967296 = character.toNat + 32
    omega
  · rename_i other
    rw [if_neg]
    exact other

theorem toNat_digitChar {value : Nat} (small : value < 16) :
    (Nat.digitChar value).toNat = if value < 10 then value + 48 else value + 87 := by
  interval_cases value <;> rfl

theorem hexDigit?_eq_some_iff {digit : Char} {value : Nat} :
    hexDigit? digit = some value ↔ HexDigit digit value := by
  have letter : digit.toLower = Nat.digitChar value ↔
      digit.toLower.toNat = (Nat.digitChar value).toNat := Char.toNat_inj.symm
  unfold HexDigit hexDigit?
  rw [letter, toNat_toLower]
  constructor
  · intro read
    have small : value < 16 := by grind
    refine ⟨small, ?_⟩
    rw [toNat_digitChar small]
    grind
  · rintro ⟨small, same⟩
    rw [toNat_digitChar small] at same
    grind

theorem hexFour_append {digits : List Char} {number : Nat} (written : Hex digits number)
    (rest : List Char) : hexFour (digits ++ rest) = some (number, rest) := by
  obtain ⟨first, second, third, fourth⟩ := written
  simp [hexFour, hexDigit?_eq_some_iff.mpr first, hexDigit?_eq_some_iff.mpr second,
    hexDigit?_eq_some_iff.mpr third, hexDigit?_eq_some_iff.mpr fourth]

theorem hex_of_hexFour {input rest : List Char} {number : Nat}
    (read : hexFour input = some (number, rest)) :
    ∃ digits, Hex digits number ∧ input = digits ++ rest := by
  unfold hexFour at read
  split at read
  · rename_i a b c d remaining
    simp only [Option.bind_eq_bind, Option.bind_eq_some_iff, Option.pure_def,
      Option.some.injEq, Prod.mk.injEq, hexDigit?_eq_some_iff] at read
    obtain ⟨_, first, _, second, _, third, _, fourth, rfl, rfl⟩ := read
    exact ⟨[a, b, c, d], .four first second third fourth, rfl⟩
  · cases read

theorem Hex.lt {digits : List Char} {number : Nat} (written : Hex digits number) :
    number < 0x10000 := by
  obtain ⟨⟨first, -⟩, ⟨second, -⟩, ⟨third, -⟩, ⟨fourth, -⟩⟩ := written
  omega

theorem isHighHalf_iff {unit : Nat} : isHighHalf unit = true ↔ 0xD800 ≤ unit ∧ unit ≤ 0xDBFF := by
  simp only [isHighHalf, Bool.and_eq_true, decide_eq_true_eq]

theorem isLowHalf_iff {unit : Nat} : isLowHalf unit = true ↔ 0xDC00 ≤ unit ∧ unit ≤ 0xDFFF := by
  simp only [isLowHalf, Bool.and_eq_true, decide_eq_true_eq]

theorem not_half (character : Char) :
    character.toNat < 0xD800 ∨ (0xDFFF < character.toNat ∧ character.toNat < 0x110000) :=
  character.valid

theorem unitChar_toNat (character : Char) : unitChar character.toNat = character := by
  have valid := not_half character
  unfold unitChar
  rw [if_neg, Char.ofNat_toNat]
  rw [Bool.or_eq_true, isHighHalf_iff, isLowHalf_iff]
  omega

theorem unitChar_half {number : Nat} (low : 0xD800 ≤ number) (high : number ≤ 0xDFFF) :
    unitChar number = Char.ofNat 0xFFFD := by
  unfold unitChar
  rw [if_pos]
  rw [Bool.or_eq_true, isHighHalf_iff, isLowHalf_iff]
  omega

theorem toNat_ofNat {number : Nat}
    (valid : number < 0xD800 ∨ (0xDFFF < number ∧ number < 0x110000)) :
    (Char.ofNat number).toNat = number := by
  have isValid : number.isValidChar := valid
  unfold Char.ofNat
  rw [dif_pos isValid]
  rfl

theorem pairChar_halves {character : Char} (above : 0x10000 ≤ character.toNat) :
    pairChar (0xD800 + (character.toNat - 0x10000) / 0x400)
      (0xDC00 + (character.toNat - 0x10000) % 0x400) = character := by
  unfold pairChar
  refine (congrArg Char.ofNat ?_).trans (Char.ofNat_toNat character)
  omega

theorem unicodeEscape_of_unit {character : Char} {digits : List Char}
    (written : Hex digits character.toNat) (rest : List Char) :
    unicodeEscape (digits ++ rest) = some (character, rest) := by
  have valid := not_half character
  have whole : isHighHalf character.toNat = false := by
    rw [← Bool.not_eq_true, isHighHalf_iff]
    omega
  simp [unicodeEscape, hexFour_append written, whole, unitChar_toNat]

-- The halves are variables here: as the sums that they are in a pair, they would be computed.
theorem unicodeEscape_of_pair {unit second : Nat} {high low : List Char}
    (first : Hex high unit) (isHigh : isHighHalf unit = true)
    (following : Hex low second) (isLow : isLowHalf second = true) (rest : List Char) :
    unicodeEscape (high ++ '\\' :: 'u' :: (low ++ rest)) = some (pairChar unit second, rest) := by
  simp [unicodeEscape, hexFour_append first, hexFour_append following, isHigh, isLow]

theorem shortEscape?_eq_some_iff {letter character : Char} :
    shortEscape? letter = some character ↔ (letter, character) ∈ shortEscapes := by
  constructor
  · intro read
    unfold shortEscape? at read
    split at read <;> cases read <;> decide
  · intro listed
    simp only [shortEscapes, List.mem_cons, Prod.mk.injEq, List.not_mem_nil, or_false] at listed
    rcases listed with ⟨rfl, rfl⟩ | ⟨rfl, rfl⟩ | ⟨rfl, rfl⟩ | ⟨rfl, rfl⟩ | ⟨rfl, rfl⟩ | ⟨rfl, rfl⟩ |
      ⟨rfl, rfl⟩ | ⟨rfl, rfl⟩ <;> rfl

theorem stringChar_append {character : Char} {text : List Char}
    (written : SpellsCharacter False character text) (rest : List Char) :
    stringChar (text ++ rest) = some (character, rest) := by
  cases written with
  | plain noQuote noEscape printable =>
      have notControl : ¬ character.toNat < 32 := Nat.not_lt.mpr printable
      unfold stringChar
      split <;> simp_all
  | short listed =>
      rename_i letter
      have read := shortEscape?_eq_some_iff.mpr listed
      have noUnit : letter ≠ 'u' := by
        rintro rfl
        cases read
      rw [List.cons_append, List.singleton_append, stringChar.eq_2 _ _ (by simpa using noUnit),
        read, Option.map_some]
  | unit digits => exact unicodeEscape_of_unit digits rest
  | pair above first second =>
      rename_i high low
      have valid := not_half character
      have isHigh : isHighHalf (0xD800 + (character.toNat - 0x10000) / 0x400) = true := by
        apply isHighHalf_iff.mpr
        omega
      have isLow : isLowHalf (0xDC00 + (character.toNat - 0x10000) % 0x400) = true := by
        apply isLowHalf_iff.mpr
        omega
      have read := unicodeEscape_of_pair first isHigh second isLow rest
      rw [pairChar_halves above] at read
      simpa [stringChar] using read
  | half halves => exact absurd halves id

theorem spellsCharacter_unit {digits : List Char} {unit : Nat} (written : Hex digits unit) :
    SpellsCharacter True (unitChar unit) ('\\' :: 'u' :: digits) := by
  by_cases half : 0xD800 ≤ unit ∧ unit ≤ 0xDFFF
  · rw [unitChar_half half.1 half.2]
    exact .half trivial half.1 half.2 written
  · have valid : unit < 0xD800 ∨ (0xDFFF < unit ∧ unit < 0x110000) := by
      have bound := written.lt
      omega
    have same := unitChar_toNat (Char.ofNat unit)
    rw [toNat_ofNat valid] at same
    rw [same]
    apply SpellsCharacter.unit
    rwa [toNat_ofNat valid]

theorem spellsCharacter_pair {unit second : Nat} {high low : List Char}
    (first : Hex high unit) (isHigh : isHighHalf unit = true)
    (following : Hex low second) (isLow : isLowHalf second = true) :
    SpellsCharacter True (pairChar unit second) ('\\' :: 'u' :: (high ++ '\\' :: 'u' :: low)) := by
  rw [isHighHalf_iff] at isHigh
  rw [isLowHalf_iff] at isLow
  have point : (pairChar unit second).toNat =
      0x10000 + (unit - 0xD800) * 0x400 + (second - 0xDC00) := by
    apply toNat_ofNat
    omega
  have highPart : 0xD800 + ((pairChar unit second).toNat - 0x10000) / 0x400 = unit := by
    rw [point]
    omega
  have lowPart : 0xDC00 + ((pairChar unit second).toNat - 0x10000) % 0x400 = second := by
    rw [point]
    omega
  apply SpellsCharacter.pair
  · rw [point]
    omega
  · rwa [highPart]
  · rwa [lowPart]

theorem spellsCharacter_of_unicodeEscape {input rest : List Char} {character : Char}
    (read : unicodeEscape input = some (character, rest)) :
    ∃ text, SpellsCharacter True character ('\\' :: 'u' :: text) ∧ input = text ++ rest := by
  simp only [unicodeEscape, Option.bind_eq_bind, Option.bind_eq_some_iff, Option.pure_def,
    Prod.exists] at read
  obtain ⟨unit, remaining, firstRead, read⟩ := read
  obtain ⟨digits, written, rfl⟩ := hex_of_hexFour firstRead
  have alone : SpellsCharacter True (unitChar unit) ('\\' :: 'u' :: digits) :=
    spellsCharacter_unit written
  split at read
  · rename_i isHigh
    split at read
    · rename_i following
      simp only [Option.bind_eq_some_iff, Prod.exists] at read
      obtain ⟨second, last, secondRead, read⟩ := read
      split at read
      · rename_i isLow
        obtain ⟨rfl, rfl⟩ := Prod.mk.inj (Option.some.inj read)
        obtain ⟨low, secondWritten, rfl⟩ := hex_of_hexFour secondRead
        exact ⟨_, spellsCharacter_pair written isHigh secondWritten isLow, by simp⟩
      · cases read
        exact ⟨digits, alone, rfl⟩
    · cases read
      exact ⟨digits, alone, rfl⟩
  · cases read
    exact ⟨digits, alone, rfl⟩

/-- What is read as a character, where no string ends, is written as that character. -/
theorem spellsCharacter_of_stringChar {input rest : List Char} {character : Char}
    (noQuote : input.head? ≠ some '"') (read : stringChar input = some (character, rest)) :
    ∃ text, SpellsCharacter True character text ∧ input = text ++ rest := by
  unfold stringChar at read
  split at read
  · obtain ⟨text, written, rfl⟩ := spellsCharacter_of_unicodeEscape read
    exact ⟨_, written, rfl⟩
  · rename_i letter remaining _
    simp only [Option.map_eq_some_iff, Prod.mk.injEq] at read
    obtain ⟨_, short, rfl, rfl⟩ := read
    exact ⟨['\\', letter], .short (shortEscape?_eq_some_iff.mp short), rfl⟩
  · cases read
  · rename_i first remaining _ noEscape noLone
    split at read
    · cases read
    · rename_i printable
      cases read
      refine ⟨[character], .plain ?_ ?_ (Nat.not_lt.mp printable), rfl⟩
      · rintro rfl
        exact noQuote rfl
      · rintro rfl
        cases rest with
        | nil => exact noLone rfl rfl
        | cons letter remaining => exact noEscape letter remaining rfl rfl
  · cases read

theorem SpellsCharacter.ne_nil {halves : Prop} {character : Char} {text : List Char}
    (written : SpellsCharacter halves character text) : text ≠ [] := by
  cases written <;> exact List.cons_ne_nil _ _

/-- No character is written with a quote in front, which would end the string. -/
theorem SpellsCharacter.head?_ne {halves : Prop} {character : Char} {text : List Char}
    (written : SpellsCharacter halves character text) (rest : List Char) :
    (text ++ rest).head? ≠ some '"' := by
  cases written with
  | plain noQuote => simpa using noQuote
  | short | unit | pair | half => simp

theorem stringTail_succ (fuel : Nat) {input : List Char} (noQuote : input.head? ≠ some '"') :
    stringTail (fuel + 1) input =
      (stringChar input).bind fun first =>
        (stringTail fuel first.2).map fun others => (first.1 :: others.1, others.2) := by
  rw [stringTail.eq_3 _ _ fun rest quote => noQuote (congrArg List.head? quote)]
  cases stringChar input with
  | none => rfl
  | some first =>
      simp only [Option.bind_eq_bind, Option.bind_some, Option.pure_def]
      cases stringTail fuel first.2 <;> rfl

theorem stringTail_append {content text : List Char}
    (written : SpellsCharacters False content text) (rest : List Char) {fuel : Nat}
    (enough : text.length < fuel) :
    stringTail fuel (text ++ '"' :: rest) = some (content, rest) := by
  induction written generalizing fuel with
  | nil =>
      obtain ⟨fuel, rfl⟩ := Nat.exists_eq_add_of_lt enough
      rfl
  | @cons character written content text first others induction =>
      have filled := List.length_pos_iff.mpr first.ne_nil
      rw [List.length_append] at enough
      obtain ⟨fuel, rfl⟩ : ∃ less, fuel = less + 1 := ⟨fuel - 1, by omega⟩
      rw [List.append_assoc, stringTail_succ fuel (first.head?_ne _), stringChar_append first,
        Option.bind_some]
      rw [induction (by omega), Option.map_some]

theorem spellsCharacters_of_stringTail {fuel : Nat} {input content rest : List Char}
    (read : stringTail fuel input = some (content, rest)) :
    ∃ text, SpellsCharacters True content text ∧ input = text ++ '"' :: rest := by
  induction fuel generalizing input content with
  | zero => cases read
  | succ fuel induction =>
      by_cases quote : input.head? = some '"'
      · obtain ⟨remaining, rfl⟩ := List.head?_eq_some_iff.mp quote
        cases read
        exact ⟨[], .nil, rfl⟩
      · simp only [stringTail_succ fuel quote, Option.bind_eq_some_iff, Option.map_eq_some_iff,
          Prod.exists, Prod.mk.injEq] at read
        obtain ⟨character, remaining, first, others, last, later, rfl, rfl⟩ := read
        obtain ⟨written, spelled, rfl⟩ := spellsCharacter_of_stringChar quote first
        obtain ⟨text, spelledOthers, rfl⟩ := induction later
        exact ⟨written ++ text, .cons spelled spelledOthers, by rw [List.append_assoc]⟩

theorem string_append {content : String} {text : List Char}
    (written : SpellsCharacters False content.toList text) (rest : List Char) :
    string (text ++ '"' :: rest) = some (content, rest) := by
  have enough : text.length < (text ++ '"' :: rest).length + 1 := by
    rw [List.length_append]
    omega
  rw [string, stringTail_append written rest enough]
  exact congrArg (fun read => some (read, rest)) String.ofList_toList

theorem spellsCharacters_of_string {input rest : List Char} {content : String}
    (read : string input = some (content, rest)) :
    ∃ text, SpellsCharacters True content.toList text ∧ input = text ++ '"' :: rest := by
  simp only [string, Option.map_eq_some_iff, Prod.exists, Prod.mk.injEq] at read
  obtain ⟨characters, remaining, tail, rfl, rfl⟩ := read
  rw [String.toList_ofList]
  exact spellsCharacters_of_stringTail tail

end ChatDispatch.Json
