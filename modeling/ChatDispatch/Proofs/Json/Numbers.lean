import ChatDispatch.Proofs.Json.Grammar
import Mathlib.Data.List.TakeWhile

/-!
# Reading numbers

A number is read as far as it goes: a numeral is read back when what follows could not
belong to it, and what is read as a number is written as a numeral.
-/

namespace ChatDispatch.Json

/-- What may follow a number: no character that could go on with it. -/
def Ends (rest : List Char) : Prop :=
  ∀ character ∈ rest.head?,
    Text.isAsciiDigit character = false ∧ character ≠ '.' ∧ character ≠ 'e' ∧ character ≠ 'E'

theorem Ends.digit {rest : List Char} (ends : Ends rest) :
    ∀ character ∈ rest.head?, Text.isAsciiDigit character = false :=
  fun character first => (ends character first).1

theorem Digits.exists_cons (decimals : Digits) :
    ∃ first rest, decimals.text = first :: rest ∧ Text.isAsciiDigit first = true := by
  obtain ⟨first, rest, same⟩ := List.exists_cons_of_ne_nil decimals.filled
  exact ⟨first, rest, same, decimals.decimal first (same ▸ List.mem_cons_self)⟩

theorem digits_append (decimals : Digits) {rest : List Char}
    (stop : ∀ character ∈ rest.head?, Text.isAsciiDigit character = false) :
    digits (decimals.text ++ rest) = (decimals.text, rest) := by
  unfold digits
  rw [List.takeWhile_append_of_pos decimals.decimal, List.dropWhile_append_of_pos decimals.decimal]
  cases rest with
  | nil => simp
  | cons character rest =>
      have stops := stop character rfl
      simp [stops]

theorem digits_of_filled {input text rest : List Char} (filled : text ≠ [])
    (read : digits input = (text, rest)) :
    ∃ decimals : Digits, decimals.text = text ∧ input = text ++ rest := by
  obtain ⟨rfl, rfl⟩ := Prod.mk.inj read
  exact ⟨⟨_, filled, fun _ member => List.mem_takeWhile_imp member⟩, rfl,
    List.takeWhile_append_dropWhile.symm⟩

theorem wholePart_append {whole : Digits}
    (tidy : whole.text.head? = some '0' → whole.text = ['0']) {rest : List Char}
    (stop : ∀ character ∈ rest.head?, Text.isAsciiDigit character = false) :
    wholePart (whole.text ++ rest) = some (whole.text, rest) := by
  have read := digits_append whole stop
  obtain ⟨first, others, written, -⟩ := whole.exists_cons
  by_cases zero : first = '0'
  · subst zero
    rw [tidy (congrArg List.head? written)]
    rfl
  · rw [written, List.cons_append] at read ⊢
    rw [wholePart.eq_2 _ fun _ same => zero (List.cons.inj same).1, read]

theorem digits_of_wholePart {input text rest : List Char}
    (read : wholePart input = some (text, rest)) :
    ∃ whole : Digits, whole.text = text ∧
      (text.head? = some '0' → text = ['0']) ∧ input = text ++ rest := by
  unfold wholePart at read
  split at read
  · cases read
    exact ⟨⟨['0'], by simp, List.all_eq_true.mp rfl⟩, rfl, fun _ => rfl, rfl⟩
  · rename_i noZero
    split at read
    · cases read
    · rename_i filled parts
      cases read
      obtain ⟨whole, same, rfl⟩ := digits_of_filled filled parts
      refine ⟨whole, same, fun zero => ?_, rfl⟩
      obtain ⟨others, rfl⟩ := List.head?_eq_some_iff.mp zero
      exact absurd rfl (noZero (others ++ rest))

theorem fraction_append (decimals : Option Digits) {rest : List Char}
    (stop : ∀ character ∈ rest.head?, Text.isAsciiDigit character = false ∧ character ≠ '.') :
    fraction (Numeral.fractionText decimals ++ rest) = (Numeral.decimalsOf decimals, rest) := by
  cases decimals with
  | none =>
      unfold fraction
      split
      · rename_i following same
        exact absurd rfl (stop '.' (congrArg List.head? same)).2
      · rfl
  | some decimals =>
      have read := digits_append decimals fun character first => (stop character first).1
      obtain ⟨first, others, written, -⟩ := decimals.exists_cons
      have point : Numeral.fractionText (some decimals) ++ rest =
          '.' :: (decimals.text ++ rest) := rfl
      have same : Numeral.decimalsOf (some decimals) = first :: others := written
      rw [point, fraction, read, written, same]

theorem exists_fraction (input : List Char) :
    ∃ decimals rest, fraction input = (Numeral.decimalsOf decimals, rest) ∧
      input = Numeral.fractionText decimals ++ rest := by
  unfold fraction
  split
  · split
    · exact ⟨none, _, rfl, rfl⟩
    · rename_i filled parts
      obtain ⟨decimals, rfl, rfl⟩ := digits_of_filled filled parts
      exact ⟨some decimals, _, rfl, rfl⟩
  · exact ⟨none, _, rfl, rfl⟩

/-- An exponent after its letter and its sign. -/
def scaled (negative : Bool) (unsigned : List Char) : Option (Int × List Char) :=
  match digits unsigned with
  | ([], _) => none
  | (power, rest) =>
      let size : Int := Text.digitsValue 0 power
      some (if negative then -size else size, rest)

theorem scaled_append (negative : Bool) (decimals : Digits) {rest : List Char}
    (stop : ∀ character ∈ rest.head?, Text.isAsciiDigit character = false) :
    scaled negative (decimals.text ++ rest) =
      some (if negative then -(decimals.number : Int) else decimals.number, rest) := by
  have read := digits_append decimals stop
  obtain ⟨first, others, written, -⟩ := decimals.exists_cons
  unfold scaled Digits.number
  rw [read, written]

theorem digits_of_scaled {negative : Bool} {unsigned rest : List Char} {power : Int}
    (read : scaled negative unsigned = some (power, rest)) :
    ∃ decimals : Digits, unsigned = decimals.text ++ rest ∧
      power = if negative then -(decimals.number : Int) else decimals.number := by
  unfold scaled at read
  split at read
  · cases read
  · rename_i filled parts
    cases read
    obtain ⟨decimals, rfl, rfl⟩ := digits_of_filled filled parts
    exact ⟨decimals, rfl, rfl⟩

/-- The sign in front of an exponent, which is optional. -/
def signed : List Char → Bool × List Char
  | '-' :: rest => (true, rest)
  | '+' :: rest => (false, rest)
  | rest => (false, rest)

theorem signed_append (sign : Option Bool) (decimals : Digits) (rest : List Char) :
    signed (signText sign ++ (decimals.text ++ rest)) =
      (decide (sign = some true), decimals.text ++ rest) := by
  match sign with
  | some true => rfl
  | some false => rfl
  | none =>
      obtain ⟨first, others, written, isDigit⟩ := decimals.exists_cons
      rw [written]
      unfold signed
      split
      · rename_i same
        cases same
        exact absurd isDigit (by decide)
      · rename_i same
        cases same
        exact absurd isDigit (by decide)
      · rfl

theorem signText_of_signed (input : List Char) :
    ∃ sign, (signed input).1 = decide (sign = some true) ∧
      input = signText sign ++ (signed input).2 := by
  unfold signed
  split
  · exact ⟨some true, rfl, rfl⟩
  · exact ⟨some false, rfl, rfl⟩
  · exact ⟨none, rfl, rfl⟩

theorem exponent?_letter {letter : Char} (isLetter : letter = 'e' ∨ letter = 'E')
    (rest : List Char) :
    exponent? (letter :: rest) = scaled (signed rest).1 (signed rest).2 := by
  rcases isLetter with rfl | rfl <;> rfl

theorem exponent?_other {letter : Char} (noLetter : letter ≠ 'e' ∧ letter ≠ 'E')
    (rest : List Char) : exponent? (letter :: rest) = none := by
  unfold exponent?
  simp [noLetter]

theorem exponent?_append (exponent : Exponent) {rest : List Char}
    (stop : ∀ character ∈ rest.head?, Text.isAsciiDigit character = false) :
    exponent? (exponent.text ++ rest) = some (exponent.power, rest) := by
  have isLetter : (if exponent.upper then 'E' else 'e') = 'e' ∨
      (if exponent.upper then 'E' else 'e') = 'E' := by
    cases exponent.upper
    · exact .inl rfl
    · exact .inr rfl
  rw [Exponent.text, List.cons_append, List.append_assoc, exponent?_letter isLetter,
    signed_append, scaled_append _ _ stop]
  simp [Exponent.power]

theorem exponent_of_exponent? {input rest : List Char} {power : Int}
    (read : exponent? input = some (power, rest)) :
    ∃ exponent : Exponent, exponent.power = power ∧ input = exponent.text ++ rest := by
  cases input with
  | nil => cases read
  | cons letter following =>
      by_cases isLetter : letter = 'e' ∨ letter = 'E'
      · rw [exponent?_letter isLetter] at read
        obtain ⟨sign, negative, signs⟩ := signText_of_signed following
        obtain ⟨decimals, written, rfl⟩ := digits_of_scaled read
        refine ⟨⟨letter == 'E', sign, decimals⟩, ?_, ?_⟩
        · rw [negative]
          simp [Exponent.power]
        · rw [signs, written]
          rcases isLetter with rfl | rfl <;> simp [Exponent.text]
      · rw [exponent?_other (not_or.mp isLetter)] at read
        cases read

/-- The exponent, if there is one, and what follows it. -/
def power? (input : List Char) : Option Int × List Char :=
  match exponent? input with
  | some (power, rest) => (some power, rest)
  | none => (none, input)

theorem power?_append (exponent : Option Exponent) {rest : List Char} (ends : Ends rest) :
    power? (Numeral.exponentText exponent ++ rest) = (exponent.map Exponent.power, rest) := by
  cases exponent with
  | none =>
      have nothing : exponent? rest = none := by
        cases rest with
        | nil => rfl
        | cons letter following => exact exponent?_other (ends letter rfl).2.2 following
      exact congrArg (fun read : Option (Int × List Char) => match read with
        | some (power, rest) => (some power, rest)
        | none => (none, rest)) nothing
  | some exponent =>
      have read := exponent?_append exponent ends.digit
      unfold power? Numeral.exponentText
      dsimp only
      rw [read]
      rfl

theorem exists_power? (input : List Char) :
    ∃ exponent rest, power? input = (exponent.map Exponent.power, rest) ∧
      input = Numeral.exponentText exponent ++ rest := by
  unfold power?
  split
  · rename_i read
    obtain ⟨exponent, rfl, rfl⟩ := exponent_of_exponent? read
    exact ⟨some exponent, _, rfl, rfl⟩
  · exact ⟨none, _, rfl, rfl⟩

theorem decimalsOf_isEmpty (fraction : Option Digits) :
    (Numeral.decimalsOf fraction).isEmpty = fraction.isNone := by
  cases fraction with
  | none => rfl
  | some decimals =>
      obtain ⟨first, others, written, -⟩ := decimals.exists_cons
      have same : Numeral.decimalsOf (some decimals) = first :: others := written
      rw [same]
      rfl

theorem unsignedNumber_eq (bounds : Limits) (negative : Bool) {input whole afterWhole : List Char}
    (first : wholePart input = some (whole, afterWhole)) :
    unsignedNumber bounds negative input =
      let decimals := fraction afterWhole
      let power := power? decimals.2
      if decimals.1.isEmpty && power.1.isNone then
        if bounds.digits < whole.length then none
        else
          some (.int (if negative then -(Text.digitsValue 0 whole : Int)
            else Text.digitsValue 0 whole), power.2)
      else
        some (.float (Binary64.ofDecimal negative
          (Text.digitsValue (Text.digitsValue 0 whole) decimals.1)
          (power.1.getD 0 - decimals.1.length)), power.2) := by
  unfold unsignedNumber power?
  rw [first]
  rfl

theorem Numeral.exists_first (numeral : Numeral) :
    ∃ first others, numeral.text = first :: others ∧
      (first = '-' ∨ Text.isAsciiDigit first = true) := by
  unfold Numeral.text
  split
  · exact ⟨'-', _, rfl, .inl rfl⟩
  · obtain ⟨digit, others, written, isDigit⟩ := numeral.whole.exists_cons
    rw [Numeral.unsignedText, written]
    exact ⟨digit, _, rfl, .inr isDigit⟩

/-- A number whose parts are those of a numeral has the value of the numeral. -/
theorem unsignedNumber_of_parts (bounds : Limits) (numeral : Numeral)
    {input afterWhole afterFraction rest : List Char}
    (whole : wholePart input = some (numeral.whole.text, afterWhole))
    (decimals : fraction afterWhole = (Numeral.decimalsOf numeral.fraction, afterFraction))
    (power : power? afterFraction = (numeral.exponent.map Exponent.power, rest)) :
    unsignedNumber bounds numeral.negative input =
      if numeral.Fits bounds.digits then some (numeral.value, rest) else none := by
  rw [unsignedNumber_eq bounds _ whole]
  dsimp only
  rw [decimals, power]
  dsimp only
  have kind : ((Numeral.decimalsOf numeral.fraction).isEmpty &&
      (numeral.exponent.map Exponent.power).isNone) = numeral.isInteger := by
    rw [decimalsOf_isEmpty, Option.isNone_map]
    rfl
  have joined : Text.digitsValue (Text.digitsValue 0 numeral.whole.text)
      (Numeral.decimalsOf numeral.fraction) =
        Text.digitsValue 0 (numeral.whole.text ++ Numeral.decimalsOf numeral.fraction) :=
    List.foldl_append.symm
  rw [kind, joined, Numeral.value]
  by_cases integer : numeral.isInteger = true
  · have limit : numeral.Fits bounds.digits ↔ ¬ bounds.digits < numeral.whole.text.length := by
      rw [Numeral.Fits, Nat.not_lt]
      exact forall_prop_of_true integer
    simp only [limit, integer, ↓reduceIte, Digits.number, ite_not]
  · have fits : numeral.Fits bounds.digits := fun isInteger => absurd isInteger integer
    rw [if_pos fits, if_neg integer, if_neg integer]

theorem exponentText_head {rest : List Char} (ends : Ends rest) (exponent : Option Exponent) :
    ∀ character ∈ (Numeral.exponentText exponent ++ rest).head?,
      Text.isAsciiDigit character = false ∧ character ≠ '.' := by
  cases exponent with
  | none => exact fun character first => ⟨(ends character first).1, (ends character first).2.1⟩
  | some exponent =>
      rintro _ ⟨⟩
      cases exponent.upper <;> exact ⟨rfl, by decide⟩

theorem fractionText_head {rest : List Char} (ends : Ends rest) (exponent : Option Exponent)
    (fraction : Option Digits) :
    ∀ character ∈ (Numeral.fractionText fraction ++ (Numeral.exponentText exponent ++ rest)).head?,
      Text.isAsciiDigit character = false := by
  cases fraction with
  | none => exact fun character first => (exponentText_head ends exponent character first).1
  | some digits =>
      rintro _ ⟨⟩
      rfl

theorem unsignedNumber_append (bounds : Limits) {numeral : Numeral}
    (fits : numeral.Fits bounds.digits) {rest : List Char} (ends : Ends rest) :
    unsignedNumber bounds numeral.negative (numeral.unsignedText ++ rest) =
      some (numeral.value, rest) := by
  have whole := wholePart_append numeral.tidy
    (fractionText_head ends numeral.exponent numeral.fraction)
  have decimals := fraction_append numeral.fraction (exponentText_head ends numeral.exponent)
  rw [Numeral.unsignedText, List.append_assoc, List.append_assoc,
    unsignedNumber_of_parts bounds numeral whole decimals
      (power?_append numeral.exponent ends),
    if_pos fits]

theorem numeral_of_unsignedNumber {bounds : Limits} {negative : Bool} {input rest : List Char}
    {value : Value} (read : unsignedNumber bounds negative input = some (value, rest)) :
    ∃ numeral : Numeral, numeral.negative = negative ∧ numeral.Fits bounds.digits ∧
      numeral.value = value ∧ input = numeral.unsignedText ++ rest := by
  cases first : wholePart input with
  | none =>
      rw [unsignedNumber, first] at read
      cases read
  | some parts =>
      obtain ⟨wholeText, afterWhole⟩ := parts
      obtain ⟨whole, rfl, tidy, rfl⟩ := digits_of_wholePart first
      obtain ⟨fraction, afterFraction, decimals, rfl⟩ := exists_fraction afterWhole
      obtain ⟨exponent, last, power, rfl⟩ := exists_power? afterFraction
      let numeral : Numeral := ⟨negative, whole, tidy, fraction, exponent⟩
      rw [unsignedNumber_of_parts bounds numeral first decimals power] at read
      split at read
      · rename_i fits
        cases read
        refine ⟨numeral, rfl, fits, rfl, ?_⟩
        simp only [numeral, Numeral.unsignedText, List.append_assoc]
      · cases read

theorem number_append (bounds : Limits) {numeral : Numeral} (fits : numeral.Fits bounds.digits)
    {rest : List Char} (ends : Ends rest) :
    number bounds (numeral.text ++ rest) = some (numeral.value, rest) := by
  have read := unsignedNumber_append bounds fits ends
  unfold Numeral.text
  split
  · rename_i negative
    rw [negative] at read
    exact read
  · rename_i positive
    rw [Bool.not_eq_true] at positive
    rw [positive] at read
    unfold number
    split
    · rename_i same
      obtain ⟨first, others, written, isDigit⟩ := numeral.whole.exists_cons
      rw [Numeral.unsignedText, written] at same
      cases same
      exact absurd isDigit (by decide)
    · exact read

theorem numeral_of_number {bounds : Limits} {input rest : List Char} {value : Value}
    (read : number bounds input = some (value, rest)) :
    ∃ numeral : Numeral, numeral.Fits bounds.digits ∧ numeral.value = value ∧
      input = numeral.text ++ rest := by
  unfold number at read
  split at read
  · obtain ⟨numeral, negative, fits, same, rfl⟩ := numeral_of_unsignedNumber read
    refine ⟨numeral, fits, same, ?_⟩
    rw [Numeral.text, if_pos negative]
    rfl
  · obtain ⟨numeral, positive, fits, same, rfl⟩ := numeral_of_unsignedNumber read
    refine ⟨numeral, fits, same, ?_⟩
    rw [Numeral.text, if_neg (by simp [positive])]

end ChatDispatch.Json
