import ChatDispatch.CommandLine.Argument
import ChatDispatch.Value.Shown
import Mathlib.Data.List.TakeWhile
import Mathlib.Tactic.IntervalCases

/-!
# Laws of typed arguments

A token that is read as a text is that text.  A token that is read as an integer has
only digits and a minus sign, and the digits of an integer are read back as the integer
or, when there are too many of them, as a floating-point number.
-/

namespace ChatDispatch.CommandLine

theorem bracket_of_looksLikeJson {token : List Char} (brackets : looksLikeJson token = true) :
    ∃ rest, token = '\x7b' :: rest ∨ token = '[' :: rest := by
  cases token with
  | nil => simp [looksLikeJson] at brackets
  | cons first rest =>
      simp only [looksLikeJson, List.head?_cons, Bool.or_eq_true, Bool.and_eq_true,
        beq_iff_eq, Option.some.injEq] at brackets
      rcases brackets with ⟨rfl, -⟩ | ⟨rfl, -⟩
      · exact ⟨rest, .inl rfl⟩
      · exact ⟨rest, .inr rfl⟩

theorem Json.value_looksLikeJson {bounds : Json.Limits} {depth : Nat} {token rest : List Char}
    {value : Value} (brackets : looksLikeJson token = true)
    (read : Json.value bounds depth (Json.skipSpace token) = some (value, rest)) :
    value.kind = .list ∨ value.kind = .map := by
  cases depth with
  | zero => simp [Json.value] at read
  | succ depth =>
      obtain ⟨others, rfl | rfl⟩ := bracket_of_looksLikeJson brackets
      · have here : Json.skipSpace ('\x7b' :: others) = '\x7b' :: others := rfl
        rw [here, Json.value, Option.map_eq_some_iff] at read
        obtain ⟨fields, -, rfl, -⟩ := read
        exact .inr rfl
      · have here : Json.skipSpace ('[' :: others) = '[' :: others := rfl
        rw [here, Json.value, Option.map_eq_some_iff] at read
        obtain ⟨items, -, rfl, -⟩ := read
        exact .inl rfl

/-- What looks like JSON is read as a collection or as a text. -/
theorem kind_of_read? {token : List Char} {value : Value}
    (brackets : looksLikeJson token = true) (read : Json.read? token = some value) :
    value.kind = .list ∨ value.kind = .map := by
  simp only [Json.read?, Option.bind_eq_bind, Option.bind_eq_some_iff] at read
  obtain ⟨⟨result, rest⟩, first, last⟩ := read
  split at last
  · obtain rfl := Option.some.inj last
    exact Json.value_looksLikeJson brackets first
  · cases last

theorem Decimal.kind_value (decimal : Decimal) :
    decimal.value.kind = .int ∨ decimal.value.kind = .float := by
  unfold Decimal.value
  split
  · exact .inr rfl
  · split
    · exact .inl rfl
    · exact .inr rfl

/-- What a token can be read as: a truth value, a number, a collection, or the text that
it is. -/
theorem argument_cases (token : List Char) :
    (∃ truth, argument token = .bool truth) ∨
    (∃ decimal, decimal? token = some decimal ∧ argument token = decimal.value) ∨
    ((argument token).kind = .list ∨ (argument token).kind = .map) ∨
    argument token = .text (String.ofList token) := by
  unfold argument
  split
  · rename_i truth _
    exact .inl ⟨truth, rfl⟩
  · split
    · rename_i decimal written
      exact .inr (.inl ⟨decimal, written, rfl⟩)
    · split
      · rename_i brackets
        cases collection : Json.read? token with
        | none => exact .inr (.inr (.inr rfl))
        | some value => exact .inr (.inr (.inl (kind_of_read? brackets collection)))
      · exact .inr (.inr (.inr rfl))

/-- A token that is read as none of the other things is read as the text that it is. -/
theorem argument_eq_text {token : List Char}
    (other : (argument token).kind ∉ [Kind.bool, .int, .float, .list, .map]) :
    argument token = .text (String.ofList token) := by
  rcases argument_cases token with ⟨truth, same⟩ | ⟨decimal, -, same⟩ | kinds | same
  · simp [same, Value.kind] at other
  · have number := decimal.kind_value
    rw [same] at other
    rcases number with kind | kind <;> simp [kind] at other
  · rcases kinds with kind | kind <;> simp [kind] at other
  · exact same

theorem eq_toList_of_argument {token : List Char} {content : String}
    (read : argument token = .text content) : token = content.toList := by
  have same : argument token = .text (String.ofList token) :=
    argument_eq_text (by simp [read, Value.kind])
  obtain rfl := Value.text.inj (read.symm.trans same)
  exact String.toList_ofList.symm

theorem argument_ne_callable (token : List Char) (content : Callable) (attributes : Entries) :
    argument token ≠ .callable content attributes := by
  intro read
  have same : argument token = .text (String.ofList token) :=
    argument_eq_text (by simp [read, Value.kind])
  cases read.symm.trans same

def unsignedDecimal? (negative : Bool) (text : List Char) : Option Decimal :=
  let whole := text.takeWhile Text.isAsciiDigit
  match text.dropWhile Text.isAsciiDigit with
  | [] => if whole.isEmpty then none else some ⟨negative, whole, none⟩
  | '.' :: decimals =>
      if !whole.isEmpty && allDigits decimals then
        some ⟨negative, whole, some decimals⟩
      else
        none
  | _ => none

theorem decimal?_minus (rest : List Char) :
    decimal? ('-' :: rest) = unsignedDecimal? true rest := rfl

theorem decimal?_of_ne {first : Char} (unsigned : first ≠ '-') (rest : List Char) :
    decimal? (first :: rest) = unsignedDecimal? false (first :: rest) := by
  unfold decimal?
  split
  rename_i negative remaining parts
  split at parts
  · rename_i minus
    exact absurd (List.cons.inj minus).1 unsigned
  · cases parts
    rfl

theorem forall_of_unsignedDecimal? {negative : Bool} {text : List Char} {decimal : Decimal}
    (read : unsignedDecimal? negative text = some decimal) (whole : decimal.decimals = none) :
    ∀ character ∈ text, Text.isAsciiDigit character = true := by
  unfold unsignedDecimal? at read
  split at read
  · rename_i noRest
    exact List.dropWhile_eq_nil_iff.mp noRest
  · dsimp only at read
    split at read
    · obtain rfl := Option.some.inj read
      cases whole
    · cases read
  · cases read

theorem unsignedDecimal?_digits (negative : Bool) {text : List Char} (filled : text ≠ [])
    (digits : ∀ character ∈ text, Text.isAsciiDigit character = true) :
    unsignedDecimal? negative text = some ⟨negative, text, none⟩ := by
  unfold unsignedDecimal?
  rw [List.dropWhile_eq_nil_iff.mpr digits, List.takeWhile_eq_self_iff.mpr digits]
  simp [filled]

theorem forall_of_decimal? {token : List Char} {decimal : Decimal}
    (read : decimal? token = some decimal) (whole : decimal.decimals = none) :
    ∀ character ∈ token, character = '-' ∨ Text.isAsciiDigit character = true := by
  intro character member
  cases token with
  | nil => cases member
  | cons first rest =>
      by_cases minus : first = '-'
      · subst minus
        rw [decimal?_minus] at read
        rcases List.mem_cons.mp member with here | later
        · exact .inl here
        · exact .inr (forall_of_unsignedDecimal? read whole character later)
      · rw [decimal?_of_ne minus] at read
        exact .inr (forall_of_unsignedDecimal? read whole character member)

/-- A token that is read as an integer has only digits and a minus sign. -/
theorem forall_of_argument_int {token : List Char} {number : Int}
    (read : argument token = .int number) :
    ∀ character ∈ token, character = '-' ∨ Text.isAsciiDigit character = true := by
  rcases argument_cases token with ⟨truth, same⟩ | ⟨decimal, written, same⟩ | kinds | same
  · cases read.symm.trans same
  · refine forall_of_decimal? written ?_
    have integer := same.symm.trans read
    unfold Decimal.value at integer
    split at integer
    · cases integer
    · assumption
  · rw [read] at kinds
    rcases kinds with impossible | impossible <;> cases impossible
  · cases read.symm.trans same

theorem isAsciiDigit_of_mem_toDigits {number : Nat} {digit : Char}
    (member : digit ∈ Nat.toDigits 10 number) : Text.isAsciiDigit digit = true := by
  have isDigit := Nat.isDigit_of_mem_toDigits (by decide) (by decide) member
  simp only [Char.isDigit, Bool.and_eq_true, decide_eq_true_eq] at isDigit
  simp only [Text.isAsciiDigit, Bool.and_eq_true, decide_eq_true_eq]
  exact ⟨isDigit.1, isDigit.2⟩

theorem digitChar_of_isAsciiDigit {digit : Char} (decimal : Text.isAsciiDigit digit = true) :
    digit.toNat - 48 < 10 ∧ Nat.digitChar (digit.toNat - 48) = digit := by
  simp only [Text.isAsciiDigit, Bool.and_eq_true, decide_eq_true_eq] at decimal
  have small : digit.toNat - 48 < 10 := by omega
  refine ⟨small, Char.toNat_inj.mp ?_⟩
  rw [Nat.toNat_digitChar_of_lt_ten small]
  omega

theorem digitsValue_append (start : Nat) (left right : List Char) :
    Text.digitsValue start (left ++ right) =
      Text.digitsValue (Text.digitsValue start left) right :=
  List.foldl_append

theorem digitsValue_digitChar {digit : Nat} (small : digit < 10) (start : Nat) :
    Text.digitsValue start [Nat.digitChar digit] = 10 * start + digit := by
  have place : (Nat.digitChar digit).toNat - 48 = digit := by
    interval_cases digit <;> rfl
  simp [Text.digitsValue, place]

theorem digitsValue_toDigits (number : Nat) :
    Text.digitsValue 0 (Nat.toDigits 10 number) = number := by
  induction number using Nat.strongRecOn with
  | ind number induction =>
      by_cases small : number < 10
      · rw [Nat.toDigits_of_lt_base small, digitsValue_digitChar small]
        omega
      · rw [Nat.toDigits_of_base_le (by decide) (by omega), digitsValue_append,
          induction (number / 10) (by omega), digitsValue_digitChar (by omega)]
        omega

theorem toLower_of_isAsciiDigit {character : Char}
    (digit : Text.isAsciiDigit character = true) : character.toLower = character := by
  simp only [Text.isAsciiDigit, Bool.and_eq_true, decide_eq_true_eq] at digit
  unfold Char.toLower
  rw [dif_neg]
  rintro ⟨upper, -⟩
  have large : 65 ≤ character.toNat := upper
  omega

theorem truthValue?_digits {token : List Char}
    (digits : ∀ character ∈ token, character = '-' ∨ Text.isAsciiDigit character = true) :
    truthValue? token = none := by
  have lowered : token.map Char.toLower = token := by
    refine (List.map_congr_left ?_).trans (List.map_id token)
    intro character member
    rcases digits character member with rfl | digit
    · rfl
    · exact toLower_of_isAsciiDigit digit
  have noLetter : 'e' ∉ token := by
    intro member
    rcases digits 'e' member with impossible | impossible <;>
      exact absurd impossible (by decide)
  unfold truthValue?
  rw [lowered, if_neg, if_neg]
  · rintro rfl
    exact noLetter (by decide)
  · rintro rfl
    exact noLetter (by decide)

theorem toDigits_ne_nil (number : Nat) : Nat.toDigits 10 number ≠ [] := by
  rw [Nat.toDigits_eq_if (by decide)]
  split <;> simp

theorem toList_toString_ofNat (number : Nat) :
    (toString (Int.ofNat number)).toList = Nat.toDigits 10 number := by
  change (Int.repr (Int.ofNat number)).toList = _
  simp only [Int.repr, Nat.repr, String.toList_ofList]

theorem toList_toString_negSucc (number : Nat) :
    (toString (Int.negSucc number)).toList = '-' :: Nat.toDigits 10 (number + 1) := by
  change (Int.repr (Int.negSucc number)).toList = _
  simp [Int.repr, Nat.repr, String.toList_ofList]

theorem argument_of_decimal? {token : List Char} {decimal : Decimal}
    (digits : ∀ character ∈ token, character = '-' ∨ Text.isAsciiDigit character = true)
    (read : decimal? token = some decimal) : argument token = decimal.value := by
  unfold argument
  rw [truthValue?_digits digits, read]

theorem forall_toString (number : Int) :
    ∀ character ∈ (toString number).toList,
      character = '-' ∨ Text.isAsciiDigit character = true := by
  intro character member
  cases number with
  | ofNat size =>
      rw [toList_toString_ofNat] at member
      exact .inr (isAsciiDigit_of_mem_toDigits member)
  | negSucc size =>
      rw [toList_toString_negSucc] at member
      exact (List.mem_cons.mp member).imp id isAsciiDigit_of_mem_toDigits

theorem decimal?_toString (number : Int) :
    decimal? (toString number).toList =
      some ⟨decide (number < 0), Nat.toDigits 10 number.natAbs, none⟩ := by
  have digits (size : Nat) :
      ∀ character ∈ Nat.toDigits 10 size, Text.isAsciiDigit character = true :=
    fun character member => isAsciiDigit_of_mem_toDigits member
  cases number with
  | ofNat size =>
      rw [toList_toString_ofNat]
      obtain ⟨first, rest, written⟩ := List.exists_cons_of_ne_nil (toDigits_ne_nil size)
      have unsigned : first ≠ '-' := by
        rintro rfl
        exact absurd (digits size '-' (written ▸ List.mem_cons_self)) (by decide)
      have read := unsignedDecimal?_digits false (toDigits_ne_nil size) (digits size)
      rw [written] at read ⊢
      rw [decimal?_of_ne unsigned, read]
      simp [written]
  | negSucc size =>
      rw [toList_toString_negSucc, decimal?_minus,
        unsignedDecimal?_digits true (toDigits_ne_nil _) (digits _)]
      simp [Int.natAbs]

theorem argument_toString_eq (number : Int) :
    argument (toString number).toList =
      if (Nat.toDigits 10 number.natAbs).length ≤ Json.limits.digits then .int number
      else .float (Binary64.ofDecimal (number < 0) number.natAbs 0) := by
  rw [argument_of_decimal? (forall_toString number) (decimal?_toString number)]
  unfold Decimal.value
  dsimp only
  rw [digitsValue_toDigits]
  split
  · apply congrArg Value.int
    by_cases negative : number < 0
    · rw [if_pos (decide_eq_true negative)]
      omega
    · rw [if_neg (by simpa using negative)]
      omega
  · rfl

/-- The digits of an integer are read back, unless there are too many of them. -/
theorem argument_toString (number : Int) :
    argument (toString number).toList = .int number ∨
      ∃ rounded, argument (toString number).toList = .float rounded := by
  rw [argument_toString_eq]
  split
  · exact .inl rfl
  · exact .inr ⟨_, rfl⟩

end ChatDispatch.CommandLine
