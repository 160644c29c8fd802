import ChatDispatch.Proofs.CommandLine.Literal

/-!
# Words that show as they are written

An argument is read as a value before a command gets it, and a command that wants a text takes
the text of the value.  `Verbatim` lists the words that survive this way: truth values and
integers in their own spelling, decimals and collections that are written as they are shown, and
every word that is read as nothing but itself.
-/

namespace ChatDispatch.CommandLine

/-- A number in digits, without a zero in front of others. -/
structure Tidy (digits : List Char) : Prop where
  filled : digits ≠ []
  decimal : ∀ digit ∈ digits, Text.isAsciiDigit digit = true
  noZero : digits.head? = some '0' → digits = ['0']

/-- The floating-point number that digits before and after a point write. -/
def pointed (whole decimals : List Char) : Binary64 :=
  Binary64.ofDecimal false (Text.digitsValue (Text.digitsValue 0 whole) decimals)
    (-(decimals.length : Int))

/-- A word without a sign that shows as it is written, when it is read as a value. -/
inductive Verbatim : List Char → Prop where
  | yes : Verbatim "True".toList
  | no : Verbatim "False".toList
  | integer {digits : List Char} :
      Tidy digits → digits.length ≤ Json.limits.digits → Verbatim digits
  | decimal {whole decimals : List Char} :
      allDigits whole = true → allDigits decimals = true →
      (pointed whole decimals).text.toList = whole ++ '.' :: decimals →
      Verbatim (whole ++ '.' :: decimals)
  | collection {word : List Char} {value : Value} :
      looksLikeJson word = true → Json.read? word = some value →
      value.shown.toList = word → Verbatim word
  | plain {word : List Char} :
      truthValue? word = none → decimal? word = none →
      (looksLikeJson word = true → Json.read? word = none) → Verbatim word

/-- The digits that follow a positive number are written after those of the number. -/
theorem toDigits_digitsValue {start : Nat} (positive : 0 < start) {digits : List Char}
    (decimal : ∀ digit ∈ digits, Text.isAsciiDigit digit = true) :
    Nat.toDigits 10 (Text.digitsValue start digits) = Nat.toDigits 10 start ++ digits := by
  induction digits generalizing start with
  | nil => simp [Text.digitsValue]
  | cons digit rest induction =>
      obtain ⟨here, later⟩ := List.forall_mem_cons.mp decimal
      obtain ⟨small, same⟩ := digitChar_of_isAsciiDigit here
      have grown : 0 < 10 * start + (digit.toNat - 48) := by omega
      calc Nat.toDigits 10 (Text.digitsValue start (digit :: rest))
          = Nat.toDigits 10 (10 * start + (digit.toNat - 48)) ++ rest := induction grown later
        _ = Nat.toDigits 10 start ++ [digit] ++ rest := by
            rw [← Nat.toDigits_append_toDigits (by decide) positive small,
              Nat.toDigits_of_lt_base small, same]
        _ = Nat.toDigits 10 start ++ digit :: rest := by simp

theorem eq_zero_of_head?_toDigits {number : Nat}
    (zero : (Nat.toDigits 10 number).head? = some '0') : number = 0 := by
  induction number using Nat.strongRecOn with
  | ind number induction =>
      by_cases small : number < 10
      · rw [Nat.toDigits_of_lt_base small] at zero
        interval_cases number <;> first | rfl | exact absurd zero (by decide)
      · rw [Nat.toDigits_of_base_le (by decide) (by omega),
          List.head?_append_of_ne_nil _ (toDigits_ne_nil _)] at zero
        have quotient := induction (number / 10) (by omega) zero
        omega

theorem toDigits_digitsValue_iff {digits : List Char} (filled : digits ≠ [])
    (decimal : ∀ digit ∈ digits, Text.isAsciiDigit digit = true) :
    Nat.toDigits 10 (Text.digitsValue 0 digits) = digits ↔ Tidy digits := by
  constructor
  · intro same
    refine ⟨filled, decimal, fun zero => ?_⟩
    rw [← same] at zero
    rw [← same, eq_zero_of_head?_toDigits zero]
    rfl
  · intro tidy
    obtain ⟨first, rest, rfl⟩ := List.exists_cons_of_ne_nil filled
    obtain ⟨here, later⟩ := List.forall_mem_cons.mp decimal
    obtain ⟨small, same⟩ := digitChar_of_isAsciiDigit here
    by_cases zero : first = '0'
    · rw [tidy.noZero (congrArg some zero)]
      rfl
    · have positive : 0 < first.toNat - 48 := by
        refine Nat.pos_of_ne_zero fun none => zero ?_
        rw [← same, none]
        rfl
      have value : Text.digitsValue 0 (first :: rest) =
          Text.digitsValue (first.toNat - 48) rest := by
        simp [Text.digitsValue]
      rw [value, toDigits_digitsValue positive later, Nat.toDigits_of_lt_base small, same,
        List.singleton_append]

theorem allDigits_iff {text : List Char} :
    allDigits text = true ↔ text ≠ [] ∧ ∀ digit ∈ text, Text.isAsciiDigit digit = true := by
  simp [allDigits]

theorem takeWhile_point {whole : List Char}
    (digits : ∀ digit ∈ whole, Text.isAsciiDigit digit = true) (decimals : List Char) :
    (whole ++ '.' :: decimals).takeWhile Text.isAsciiDigit = whole ∧
      (whole ++ '.' :: decimals).dropWhile Text.isAsciiDigit = '.' :: decimals := by
  rw [List.takeWhile_append_of_pos digits, List.dropWhile_append_of_pos digits]
  constructor
  · rw [List.takeWhile_cons_of_neg (by decide), List.append_nil]
  · rw [List.dropWhile_cons_of_neg (by decide)]

/-- A decimal without a sign has only digits, or a point between digits. -/
theorem decimal?_eq_some_iff {word : List Char} (unsigned : word.head? ≠ some '-')
    {decimal : Decimal} :
    decimal? word = some decimal ↔
      (allDigits word = true ∧ decimal = ⟨false, word, none⟩) ∨
        ∃ whole decimals, word = whole ++ '.' :: decimals ∧ allDigits whole = true ∧
          allDigits decimals = true ∧ decimal = ⟨false, whole, some decimals⟩ := by
  have read : decimal? word = unsignedDecimal? false word := by
    cases word with
    | nil => rfl
    | cons first rest => exact decimal?_of_ne (fun minus => unsigned (congrArg some minus)) rest
  rw [read]
  constructor
  · intro written
    have parts := List.takeWhile_append_dropWhile (p := Text.isAsciiDigit) (l := word)
    have digits : ∀ digit ∈ word.takeWhile Text.isAsciiDigit,
        Text.isAsciiDigit digit = true := fun _ member => List.mem_takeWhile_imp member
    unfold unsignedDecimal? at written
    dsimp only at written
    split at written
    · rename_i noRest
      rw [noRest, List.append_nil] at parts
      rw [parts] at written digits
      split at written
      · cases written
      · rename_i filled
        rw [List.isEmpty_iff] at filled
        exact .inl ⟨allDigits_iff.mpr ⟨filled, digits⟩, (Option.some.inj written).symm⟩
    · rename_i decimals rest
      split at written
      · rename_i both
        rw [Bool.and_eq_true, Bool.not_eq_true', ← Bool.not_eq_true, List.isEmpty_iff] at both
        refine .inr ⟨_, decimals, ?_, allDigits_iff.mpr ⟨both.1, digits⟩, both.2,
          (Option.some.inj written).symm⟩
        rw [← rest, parts]
      · cases written
    · cases written
  · rintro (⟨digits, rfl⟩ | ⟨whole, decimals, rfl, wholeDigits, decimalDigits, rfl⟩)
    · obtain ⟨filled, all⟩ := allDigits_iff.mp digits
      exact unsignedDecimal?_digits false filled all
    · obtain ⟨filled, all⟩ := allDigits_iff.mp wholeDigits
      obtain ⟨taken, dropped⟩ := takeWhile_point all decimals
      simp [unsignedDecimal?, taken, dropped, filled, decimalDigits]

theorem truthValue?_of_decimal? {word : List Char} (unsigned : word.head? ≠ some '-')
    {decimal : Decimal} (written : decimal? word = some decimal) : truthValue? word = none := by
  have first : ∃ digit ∈ word.head?, Text.isAsciiDigit digit = true := by
    rcases (decimal?_eq_some_iff unsigned).mp written with
      ⟨digits, -⟩ | ⟨whole, decimals, rfl, wholeDigits, -, -⟩
    · obtain ⟨filled, all⟩ := allDigits_iff.mp digits
      obtain ⟨first, rest, rfl⟩ := List.exists_cons_of_ne_nil filled
      exact ⟨first, rfl, all first List.mem_cons_self⟩
    · obtain ⟨filled, all⟩ := allDigits_iff.mp wholeDigits
      obtain ⟨first, rest, rfl⟩ := List.exists_cons_of_ne_nil filled
      exact ⟨first, rfl, all first List.mem_cons_self⟩
  obtain ⟨digit, isFirst, isDigit⟩ := first
  have lowered : (word.map Char.toLower).head? = some digit := by
    rw [List.head?_map, isFirst]
    exact congrArg some (toLower_of_isAsciiDigit isDigit)
  unfold truthValue?
  rw [if_neg, if_neg]
  · intro same
    rw [same] at lowered
    cases lowered
    exact absurd isDigit (by decide)
  · intro same
    rw [same] at lowered
    cases lowered
    exact absurd isDigit (by decide)

theorem text_ne_of_allDigits (number : Binary64) {word : List Char}
    (digits : allDigits word = true) : number.text.toList ≠ word := by
  rintro rfl
  obtain ⟨-, all⟩ := allDigits_iff.mp digits
  obtain ⟨magnitude, form, written⟩ := exists_magnitude number
  have among (character : Char) (member : character ∈ magnitude) :
      character ∈ number.text.toList := by
    rcases written with unsigned | signed
    · rwa [unsigned]
    · rw [signed]
      exact List.mem_cons_of_mem _ member
  rcases form.mark with point | letter | letter
  · exact absurd (all '.' (among '.' point)) (by decide)
  · exact absurd (all 'e' (among 'e' letter)) (by decide)
  · exact absurd (all 'n' (among 'n' letter)) (by decide)

theorem verbatim_integer_iff {word : List Char} (digits : allDigits word = true) :
    (Decimal.value ⟨false, word, none⟩).asText.toList = word ↔
      Tidy word ∧ word.length ≤ Json.limits.digits := by
  obtain ⟨filled, all⟩ := allDigits_iff.mp digits
  unfold Decimal.value
  dsimp only
  split
  · rename_i short
    have shown : (Value.int (Text.digitsValue 0 word)).asText.toList =
        Nat.toDigits 10 (Text.digitsValue 0 word) := toList_toString_ofNat _
    rw [if_neg Bool.false_ne_true, shown, toDigits_digitsValue_iff filled all]
    exact ⟨fun tidy => ⟨tidy, short⟩, And.left⟩
  · rename_i long
    exact ⟨fun same => absurd same (text_ne_of_allDigits _ digits), fun both => absurd both.2 long⟩

theorem asText_of_collection {value : Value} (kinds : value.kind = .list ∨ value.kind = .map) :
    value.asText = value.shown := by
  cases value with
  | text content => rcases kinds with impossible | impossible <;> cases impossible
  | _ => rfl

theorem argument_of_looksLikeJson {word : List Char} (brackets : looksLikeJson word = true) :
    argument word = (Json.read? word).getD (.text (String.ofList word)) := by
  have noTruth : truthValue? word = none := by
    obtain ⟨rest, rfl | rfl⟩ := bracket_of_looksLikeJson brackets <;> rfl
  have noDecimal : decimal? word = none := by
    obtain ⟨rest, rfl | rfl⟩ := bracket_of_looksLikeJson brackets <;> rfl
  rw [argument, noTruth, noDecimal]
  dsimp only
  rw [if_pos brackets]

/-- A word that is neither a truth value nor a number is verbatim when it shows as it is
written. -/
theorem verbatim_of_neither {word : List Char} (noTruth : truthValue? word = none)
    (noDecimal : decimal? word = none) (same : (argument word).asText.toList = word) :
    Verbatim word := by
  cases read : Json.read? word with
  | none => exact .plain noTruth noDecimal fun _ => read
  | some value =>
      by_cases brackets : looksLikeJson word = true
      · refine .collection brackets read ?_
        rw [← asText_of_collection (kind_of_read? brackets read)]
        rwa [argument_of_looksLikeJson brackets, read, Option.getD_some] at same
      · exact .plain noTruth noDecimal fun some => absurd some brackets

theorem argument_of_truthValue? {word : List Char} {truth : Bool}
    (read : truthValue? word = some truth) : argument word = .bool truth := by
  rw [argument, read]

theorem argument_of_unsigned {word : List Char} (unsigned : word.head? ≠ some '-')
    {decimal : Decimal} (written : decimal? word = some decimal) :
    argument word = decimal.value := by
  rw [argument, truthValue?_of_decimal? unsigned written, written]

theorem verbatim_of_asText_argument {word : List Char} (unsigned : word.head? ≠ some '-')
    (same : (argument word).asText.toList = word) : Verbatim word := by
  cases truthful : truthValue? word with
  | some truth =>
      rw [argument_of_truthValue? truthful] at same
      rw [← same]
      cases truth with
      | true => exact .yes
      | false => exact .no
  | none =>
      cases written : decimal? word with
      | none => exact verbatim_of_neither truthful written same
      | some decimal =>
          rw [argument_of_unsigned unsigned written] at same
          rcases (decimal?_eq_some_iff unsigned).mp written with
            ⟨digits, rfl⟩ | ⟨whole, decimals, rfl, wholeDigits, decimalDigits, rfl⟩
          · obtain ⟨tidy, short⟩ := (verbatim_integer_iff digits).mp same
            exact .integer tidy short
          · exact .decimal wholeDigits decimalDigits same

theorem asText_argument_of_verbatim {word : List Char} (unsigned : word.head? ≠ some '-')
    (verbatim : Verbatim word) : (argument word).asText.toList = word := by
  cases verbatim with
  | yes => decide
  | no => decide
  | integer tidy short =>
      have digits := allDigits_iff.mpr ⟨tidy.filled, tidy.decimal⟩
      rw [argument_of_unsigned unsigned ((decimal?_eq_some_iff unsigned).mpr (.inl ⟨digits, rfl⟩))]
      exact (verbatim_integer_iff digits).mpr ⟨tidy, short⟩
  | decimal wholeDigits decimalDigits same =>
      rw [argument_of_unsigned unsigned ((decimal?_eq_some_iff unsigned).mpr
        (.inr ⟨_, _, rfl, wholeDigits, decimalDigits, rfl⟩))]
      exact same
  | collection brackets read same =>
      rw [argument_of_looksLikeJson brackets, read, Option.getD_some,
        asText_of_collection (kind_of_read? brackets read)]
      exact same
  | plain noTruth noDecimal noJson =>
      rw [argument, noTruth, noDecimal]
      dsimp only
      split
      · rename_i brackets
        rw [noJson brackets, Option.getD_none]
        exact String.toList_ofList
      · exact String.toList_ofList

/-- The text of what a word is read as is the word, exactly if the word is verbatim. -/
theorem asText_argument_iff_verbatim {word : List Char} (unsigned : word.head? ≠ some '-') :
    (argument word).asText.toList = word ↔ Verbatim word :=
  ⟨verbatim_of_asText_argument unsigned, asText_argument_of_verbatim unsigned⟩

end ChatDispatch.CommandLine
