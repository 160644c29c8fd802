import ChatDispatch.Proofs.CommandLine.Arguments
import ChatDispatch.Proofs.CommandLine.Conservation
import ChatDispatch.Proofs.CommandLine.Reading
import Mathlib.Data.List.Chain

/-!
# Literal forms without texts

The literal form of a value that holds no text has only bare characters and spaces.
Its spaces come after separators, and its minus signs stand before numerals, so no piece
of it between spaces looks like a flag or an integer.
-/

namespace ChatDispatch

/-- Whether a key shows as a text of any content: it is a text or a callable. -/
def Key.isText : Key → Bool
  | .text _ => true
  | .callable _ => true
  | _ => false

mutual

/-- Whether a value is a text or a callable, or holds one. -/
def Value.holdsText : Value → Bool
  | .text _ => true
  | .callable _ _ => true
  | .list items => itemsHoldText items
  | .map entries => entriesHoldText entries
  | _ => false
termination_by structural value => value

/-- Whether an item of a list is a text or holds one. -/
def Value.itemsHoldText : List Value → Bool
  | [] => false
  | item :: items => holdsText item || itemsHoldText items
termination_by structural items => items

/-- Whether a key of a map is a text, or a value is a text or holds one. -/
def Value.entriesHoldText : List (Key × Value) → Bool
  | [] => false
  | (key, value) :: entries => key.isText || holdsText value || entriesHoldText entries
termination_by structural entries => entries

end

namespace CommandLine

/-- A character that ends an item, a key or a collection. -/
def isClosing (character : Char) : Bool :=
  character == ',' || character == ':' || character == ']' || character == '\x7d'

def isInner (character : Char) : Bool :=
  character != '-' && character != ' ' && !isClosing character

def Linked (left right : Char) : Prop :=
  (left = '-' → isInner right = true) ∧ (right = ' ' → isClosing left = true)

/-- A literal form, or a part of one. -/
structure Literal (text : List Char) : Prop where
  filled : text ≠ []
  fine : Fine text
  linked : text.IsChain Linked
  first : ∀ character ∈ text.head?, character ≠ ' '
  last : ∀ character ∈ text.getLast?, character ≠ '-'

theorem Literal.append {left right : List Char} (literalLeft : Literal left)
    (literalRight : Literal right) : Literal (left ++ right) where
  filled := by
    simp [literalLeft.filled]
  fine := fine_append.mpr ⟨literalLeft.fine, literalRight.fine⟩
  linked := by
    refine literalLeft.linked.append literalRight.linked ?_
    intro before lastLeft after firstRight
    exact ⟨fun minus => absurd minus (literalLeft.last before lastLeft),
      fun space => absurd space (literalRight.first after firstRight)⟩
  first := by
    rw [List.head?_append_of_ne_nil _ literalLeft.filled]
    exact literalLeft.first
  last := by
    rw [List.getLast?_append_of_ne_nil _ literalRight.filled]
    exact literalRight.last

theorem literal_of_bare {text : List Char} (filled : text ≠ []) (bare : Bare text)
    (plain : '-' ∉ text) : Literal text where
  filled := filled
  fine := bare.fine
  linked := by
    clear filled
    induction text with
    | nil => exact .nil
    | cons character rest induction =>
        rw [List.mem_cons, not_or] at plain
        have bareRest := (bare_cons.mp bare).2
        refine (induction bareRest plain.2).cons ?_
        intro next among
        refine ⟨fun minus => absurd minus.symm plain.1, ?_⟩
        rintro rfl
        exact absurd (bareRest ' ' (List.mem_of_mem_head? among)) (by decide)
  first := by
    rintro character among rfl
    exact absurd (bare ' ' (List.mem_of_mem_head? among)) (by decide)
  last := by
    rintro character among rfl
    exact plain (List.mem_of_mem_getLast? among)

theorem literal_of_word {text : List Char} (word : text ≠ [] ∧ Bare text ∧ '-' ∉ text) :
    Literal text :=
  literal_of_bare word.1 word.2.1 word.2.2

theorem Literal.minus {text : List Char} (literal : Literal text)
    (inner : ∀ character ∈ text.head?, isInner character = true) : Literal ('-' :: text) where
  filled := List.cons_ne_nil _ _
  fine := List.forall_mem_cons.mpr ⟨.inl rfl, literal.fine⟩
  linked := by
    refine literal.linked.cons ?_
    intro next among
    exact ⟨fun _ => inner next among, fun space => absurd space (literal.first next among)⟩
  first := by
    intro character among
    obtain rfl := Option.some.inj among
    decide
  last := by
    obtain ⟨next, rest, rfl⟩ := List.exists_cons_of_ne_nil literal.filled
    rw [List.getLast?_cons_cons]
    exact literal.last

/-- The characters of numbers besides the minus sign. -/
def isNumeral (character : Char) : Bool :=
  Text.isAsciiDigit character || character == '.' || character == 'e' || character == '+'

theorem isBare_of_isAsciiDigit {character : Char} (digit : Text.isAsciiDigit character = true) :
    isBare character = true := by
  have different (other : Char) (noDigit : Text.isAsciiDigit other = false) :
      character ≠ other := by
    rintro rfl
    rw [noDigit] at digit
    cases digit
  have visible : Text.isBlank character = false := by
    simp only [Text.isAsciiDigit, Bool.and_eq_true, decide_eq_true_eq] at digit
    simp only [Text.isBlank, Text.inRanges, Text.blankRanges, List.any_cons, List.any_nil,
      Bool.or_false, Bool.or_eq_false_iff, Bool.and_eq_false_iff, decide_eq_false_iff_not]
    omega
  simp [isBare, isQuote, visible, different '"' rfl, different '\'' rfl, different '\\' rfl]

theorem isInner_of_isAsciiDigit {character : Char} (digit : Text.isAsciiDigit character = true) :
    isInner character = true := by
  have different (other : Char) (noDigit : Text.isAsciiDigit other = false) :
      character ≠ other := by
    rintro rfl
    rw [noDigit] at digit
    cases digit
  simp [isInner, isClosing, different '-' rfl, different ' ' rfl, different ',' rfl,
    different ':' rfl, different ']' rfl, different '\x7d' rfl]

theorem isNumeral_cases {character : Char} (numeral : isNumeral character = true) :
    Text.isAsciiDigit character = true ∨ character ∈ ['.', 'e', '+'] := by
  simpa [isNumeral, or_assoc] using numeral

theorem isBare_of_isNumeral {character : Char} (numeral : isNumeral character = true) :
    isBare character = true := by
  rcases isNumeral_cases numeral with digit | other
  · exact isBare_of_isAsciiDigit digit
  · simp only [List.mem_cons, List.not_mem_nil, or_false] at other
    rcases other with rfl | rfl | rfl <;> rfl

theorem isInner_of_isNumeral {character : Char} (numeral : isNumeral character = true) :
    isInner character = true := by
  rcases isNumeral_cases numeral with digit | other
  · exact isInner_of_isAsciiDigit digit
  · simp only [List.mem_cons, List.not_mem_nil, or_false] at other
    rcases other with rfl | rfl | rfl <;> rfl

theorem literal_of_numerals {text : List Char} (filled : text ≠ [])
    (numerals : ∀ character ∈ text, isNumeral character = true) : Literal text := by
  refine literal_of_bare filled ?_ ?_
  · exact fun character member => isBare_of_isNumeral (numerals character member)
  · exact fun member => absurd (numerals '-' member) (by decide)

theorem isNumeral_of_mem_toDigits {number : Nat} {digit : Char}
    (member : digit ∈ Nat.toDigits 10 number) : isNumeral digit = true := by
  simp [isNumeral, isAsciiDigit_of_mem_toDigits member]

theorem literal_toString (number : Int) : Literal (toString number).toList := by
  have digits (size : Nat) : Literal (Nat.toDigits 10 size) :=
    literal_of_numerals (toDigits_ne_nil size) fun _ member => isNumeral_of_mem_toDigits member
  cases number with
  | ofNat size =>
      rw [toList_toString_ofNat]
      exact digits size
  | negSucc size =>
      rw [toList_toString_negSucc]
      refine (digits (size + 1)).minus ?_
      intro character among
      exact isInner_of_isNumeral (isNumeral_of_mem_toDigits (List.mem_of_mem_head? among))

/-- The form of a floating-point number without its sign. -/
structure Magnitude (text : List Char) : Prop where
  bare : Bare text
  literal : Literal text
  first : ∀ character ∈ text.head?, isInner character = true
  long : 2 ≤ text.length
  mark : '.' ∈ text ∨ 'e' ∈ text ∨ 'n' ∈ text

theorem Magnitude.ofNumerals {text : List Char} (long : 2 ≤ text.length)
    (numerals : ∀ character ∈ text, isNumeral character = true)
    (mark : '.' ∈ text ∨ 'e' ∈ text ∨ 'n' ∈ text) : Magnitude text where
  bare := fun character member => isBare_of_isNumeral (numerals character member)
  literal := by
    refine literal_of_numerals ?_ numerals
    rintro rfl
    cases long
  first := fun character among =>
    isInner_of_isNumeral (numerals character (List.mem_of_mem_head? among))
  long := long
  mark := mark

theorem isNumeral_of_mem_replicate {count : Nat} {character : Char}
    (member : character ∈ List.replicate count '0') : isNumeral character = true := by
  obtain rfl := (List.mem_replicate.mp member).2
  rfl

theorem magnitude_positional {digits : List Char}
    (numerals : ∀ character ∈ digits, isNumeral character = true) (exponent : Int) :
    Magnitude (Binary64.Layout.positional digits exponent) := by
  unfold Binary64.Layout.positional
  split
  · refine .ofNumerals (by simp) ?_ (.inl (by simp))
    intro character member
    rw [List.mem_cons, List.mem_cons, List.mem_append] at member
    rcases member with rfl | rfl | zero | digit
    · rfl
    · rfl
    · exact isNumeral_of_mem_replicate zero
    · exact numerals character digit
  · dsimp only
    generalize widened : digits ++ List.replicate _ '0' = padded
    have numeralsPadded : ∀ character ∈ padded, isNumeral character = true := by
      intro character member
      rw [← widened, List.mem_append] at member
      rcases member with digit | zero
      · exact numerals character digit
      · exact isNumeral_of_mem_replicate zero
    refine .ofNumerals ?_ ?_ (.inl (by simp))
    · rw [List.length_append, List.length_cons]
      split
      · simp
      · rename_i someDecimals
        rw [List.isEmpty_iff, ← List.length_eq_zero_iff] at someDecimals
        omega
    · intro character member
      rw [List.mem_append, List.mem_cons] at member
      rcases member with whole | rfl | decimal
      · exact numeralsPadded character (List.mem_of_mem_take whole)
      · rfl
      · split at decimal
        · obtain rfl := List.mem_singleton.mp decimal
          rfl
        · exact numeralsPadded character (List.mem_of_mem_drop decimal)

theorem literal_exponent {digits : List Char} (filled : digits ≠ [])
    (numerals : ∀ character ∈ digits, isNumeral character = true) {sign : Char}
    (signs : sign = '-' ∨ sign = '+') : Literal ('e' :: sign :: digits) := by
  rcases signs with rfl | rfl
  · have letter : Literal ['e'] := literal_of_word (by decide)
    refine letter.append ((literal_of_numerals filled numerals).minus ?_)
    intro character among
    exact isInner_of_isNumeral (numerals character (List.mem_of_mem_head? among))
  · refine literal_of_numerals (List.cons_ne_nil _ _) ?_
    exact List.forall_mem_cons.mpr ⟨rfl, List.forall_mem_cons.mpr ⟨rfl, numerals⟩⟩

theorem Magnitude.ofMantissa {mantissa power : List Char}
    (numerals : ∀ character ∈ mantissa, isNumeral character = true) (filled : power ≠ [])
    (bare : Bare power) (literal : Literal ('e' :: power)) :
    Magnitude (mantissa ++ 'e' :: power) where
  bare := by
    refine bare_append.mpr ⟨?_, bare_cons.mpr ⟨rfl, bare⟩⟩
    exact fun character member => isBare_of_isNumeral (numerals character member)
  literal := by
    by_cases empty : mantissa = []
    · subst empty
      exact literal
    · exact (literal_of_numerals empty numerals).append literal
  first := by
    intro character among
    cases mantissa with
    | nil =>
        obtain rfl := Option.some.inj among
        rfl
    | cons digit rest =>
        obtain rfl := Option.some.inj among
        exact isInner_of_isNumeral (numerals digit List.mem_cons_self)
  long := by
    have positive := List.length_pos_of_ne_nil filled
    rw [List.length_append, List.length_cons]
    omega
  mark := by simp

theorem magnitude_scientific {digits : List Char}
    (numerals : ∀ character ∈ digits, isNumeral character = true) (form : Binary64.Layout)
    (exponent : Int) : Magnitude (form.scientific digits exponent) := by
  have signs : (if exponent < 0 then '-' else '+') = '-' ∨
      (if exponent < 0 then '-' else '+') = '+' := by
    split
    · exact .inl rfl
    · exact .inr rfl
  have power : ∀ character ∈
      List.replicate (form.exponentWidth - (Nat.toDigits 10 exponent.natAbs).length) '0' ++
        Nat.toDigits 10 exponent.natAbs, isNumeral character = true := by
    intro character member
    rcases List.mem_append.mp member with zero | digit
    · exact isNumeral_of_mem_replicate zero
    · exact isNumeral_of_mem_toDigits digit
  have bareSign : isBare (if exponent < 0 then '-' else '+') = true := by
    rcases signs with sign | sign <;> (rw [sign]; rfl)
  unfold Binary64.Layout.scientific
  dsimp only
  rw [List.append_assoc, List.append_assoc, List.cons_append, List.cons_append, List.nil_append]
  refine .ofMantissa ?_ (List.cons_ne_nil _ _) ?_ (literal_exponent (by simp) power signs)
  · split
    · exact fun character member => nomatch member
    · exact numerals
    · obtain ⟨here, later⟩ := List.forall_mem_cons.mp numerals
      exact List.forall_mem_cons.mpr ⟨here, List.forall_mem_cons.mpr ⟨rfl, later⟩⟩
  · refine bare_cons.mpr ⟨bareSign, ?_⟩
    exact fun character member => isBare_of_isNumeral (power character member)

theorem magnitude_magnitude (form : Binary64.Layout) (number : Binary64) :
    Magnitude (form.magnitude number) := by
  have stripped : ∀ character ∈
      ((Nat.toDigits 10 number.shortest.1).reverse.dropWhile (· == '0')).reverse,
        isNumeral character = true := by
    intro character member
    rw [List.mem_reverse] at member
    have among := (List.dropWhile_sublist _).subset member
    exact isNumeral_of_mem_toDigits (List.mem_reverse.mp among)
  unfold Binary64.Layout.magnitude
  dsimp only
  split
  · exact magnitude_positional stripped _
  · exact magnitude_scientific stripped form _

theorem magnitude_of_word {word : List Char} (long : 2 ≤ word.length) (bare : Bare word)
    (plain : '-' ∉ word) (first : word.head?.all isInner = true) (mark : 'n' ∈ word) :
    Magnitude word where
  bare := bare
  literal := literal_of_bare (by rintro rfl; cases mark) bare plain
  first := Option.all_eq_true _ _ |>.mp first
  long := long
  mark := .inr (.inr mark)

/-- A floating-point number is written as a magnitude, after a minus sign or not. -/
theorem exists_magnitude (number : Binary64) :
    ∃ magnitude, Magnitude magnitude ∧
      (number.text.toList = magnitude ∨ number.text.toList = '-' :: magnitude) := by
  have split (magnitude : List Char) :
      (String.ofList (if number.isNegative then '-' :: magnitude else magnitude)).toList =
          magnitude ∨
        (String.ofList (if number.isNegative then '-' :: magnitude else magnitude)).toList =
          '-' :: magnitude := by
    rw [String.toList_ofList]
    cases number.isNegative with
    | true => exact .inr rfl
    | false => exact .inl rfl
  unfold Binary64.text
  by_cases noNumber : number.isNaN = true
  · rw [if_pos noNumber]
    exact ⟨_, magnitude_of_word (by decide) (by decide) (by decide) (by decide) (by decide),
      .inl rfl⟩
  · rw [if_neg noNumber]
    refine ⟨_, ?_, split _⟩
    split
    · exact magnitude_of_word (by decide) (by decide) (by decide) (by decide) (by decide)
    · split
      · exact .ofNumerals (by decide) (List.all_eq_true.mp rfl) (by decide)
      · exact magnitude_magnitude Binary64.layout number

theorem literal_text (number : Binary64) : Literal number.text.toList := by
  obtain ⟨magnitude, form, unsigned | signed⟩ := exists_magnitude number
  · rw [unsigned]
    exact form.literal
  · rw [signed]
    exact form.literal.minus form.first

theorem literal_shown_key {key : Key} (textFree : key.isText = false) :
    Literal key.shown.toList := by
  cases key with
  | null => exact literal_of_word (by decide)
  | bool truth =>
      cases truth with
      | true => exact literal_of_word (by decide)
      | false => exact literal_of_word (by decide)
  | int number => exact literal_toString number
  | float number => exact literal_text number
  | text content => cases textFree
  | callable content => cases textFree

theorem literal_separator (before : Char) (mark : before = ',' ∨ before = ':') :
    Literal [before, ' '] where
  filled := List.cons_ne_nil _ _
  fine := by
    intro character member
    rcases List.mem_cons.mp member with rfl | space
    · rcases mark with rfl | rfl
      · exact .inl rfl
      · exact .inl rfl
    · exact .inr (List.mem_singleton.mp space)
  linked := by
    rcases mark with rfl | rfl <;> simp [Linked, isClosing]
  first := by
    intro character among
    obtain rfl := Option.some.inj among
    rcases mark with rfl | rfl
    · decide
    · decide
  last := by simp

mutual

theorem literal_shown :
    ∀ value : Value, value.holdsText = false → Literal value.shown.toList
  | .null, _ => literal_of_word (by decide)
  | .bool true, _ => literal_of_word (by decide)
  | .bool false, _ => literal_of_word (by decide)
  | .int number, _ => literal_toString number
  | .float number, _ => literal_text number
  | .text _, textFree => nomatch textFree
  | .list items, textFree => by
      have opening : Literal ['['] :=
        literal_of_word (by decide)
      have closing : Literal [']'] :=
        literal_of_word (by decide)
      simp only [Value.shown, String.toList_append]
      rcases literal_shownItems items textFree with rfl | inner
      · exact opening.append closing
      · exact (opening.append inner).append closing
  | .map entries, textFree => by
      have opening : Literal ['\x7b'] :=
        literal_of_word (by decide)
      have closing : Literal ['\x7d'] :=
        literal_of_word (by decide)
      simp only [Value.shown, String.toList_append]
      rcases literal_shownEntries entries textFree with rfl | inner
      · exact opening.append closing
      · exact (opening.append inner).append closing
  | .callable _ _, textFree => nomatch textFree

theorem literal_shownItems :
    ∀ items : List Value, Value.itemsHoldText items = false →
      items = [] ∨
        Literal (String.intercalate Value.literal.separator (Value.shownItems items)).toList
  | [], _ => .inl rfl
  | [item], textFree => by
      rw [Value.itemsHoldText, Bool.or_eq_false_iff] at textFree
      right
      simp only [Value.shownItems, String.intercalate_singleton]
      exact literal_shown item textFree.1
  | item :: next :: items, textFree => by
      rw [Value.itemsHoldText, Bool.or_eq_false_iff] at textFree
      right
      rcases literal_shownItems (next :: items) textFree.2 with empty | later
      · cases empty
      · simp only [Value.shownItems, String.intercalate_cons_cons,
          String.toList_append] at later ⊢
        exact ((literal_shown item textFree.1).append
          (literal_separator ',' (.inl rfl))).append later

theorem literal_shownEntries :
    ∀ entries : Entries, Value.entriesHoldText entries = false →
      entries = [] ∨
        Literal (String.intercalate Value.literal.separator (Value.shownEntries entries)).toList
  | [], _ => .inl rfl
  | [(key, value)], textFree => by
      rw [Value.entriesHoldText, Bool.or_eq_false_iff, Bool.or_eq_false_iff] at textFree
      right
      simp only [Value.shownEntries, String.intercalate_singleton, String.toList_append]
      exact ((literal_shown_key textFree.1.1).append
        (literal_separator ':' (.inr rfl))).append (literal_shown value textFree.1.2)
  | (key, value) :: next :: entries, textFree => by
      rw [Value.entriesHoldText, Bool.or_eq_false_iff, Bool.or_eq_false_iff] at textFree
      right
      rcases literal_shownEntries (next :: entries) textFree.2 with empty | later
      · cases empty
      · obtain ⟨nextKey, nextValue⟩ := next
        simp only [Value.shownEntries, String.intercalate_cons_cons,
          String.toList_append] at later ⊢
        exact ((((literal_shown_key textFree.1.1).append
          (literal_separator ':' (.inr rfl))).append (literal_shown value textFree.1.2)).append
          (literal_separator ',' (.inl rfl))).append later

end

/-- A piece of the literal form of a collection. -/
structure CollectionPiece (piece : List Char) : Prop where
  linked : piece.IsChain Linked
  closing : ∃ last, piece.getLast? = some last ∧ isClosing last = true

theorem CollectionPiece.role_eq {piece : List Char} (part : CollectionPiece piece) :
    role piece = .plain := by
  obtain ⟨linked, last, isLast, closing⟩ := part
  unfold role
  split
  · have dashes := (List.isChain_cons_cons.mp linked).1.1 rfl
    cases dashes
  · have inner := (List.isChain_cons_cons.mp linked).1.1 rfl
    have closingName := closing
    rw [← Option.some.inj isLast] at closingName
    simp only [isInner, List.getLast_cons_cons, List.getLast_singleton] at closingName inner
    simp [closingName] at inner
  · rfl

theorem CollectionPiece.argument_ne {piece : List Char} (part : CollectionPiece piece)
    (number : Int) : argument piece ≠ .int number := by
  obtain ⟨-, last, isLast, closing⟩ := part
  intro read
  rcases forall_of_argument_int read last (List.mem_of_getLast? isLast) with rfl | digit
  · cases closing
  · have inner := isInner_of_isAsciiDigit digit
    simp [isInner, closing] at inner

theorem collectionPiece_of_mem_split {text : List Char} (linked : text.IsChain Linked)
    (closing : ∀ last ∈ text.getLast?, isClosing last = true) :
    ∀ piece ∈ Text.split ' ' text, piece ≠ [] → CollectionPiece piece := by
  induction text with
  | nil =>
      intro piece member filled
      exact absurd (List.mem_singleton.mp member) filled
  | cons character rest induction =>
      obtain ⟨here, linkedRest⟩ := List.isChain_cons.mp linked
      have closingRest : ∀ last ∈ rest.getLast?, isClosing last = true := by
        intro last isLast
        cases rest with
        | nil => cases isLast
        | cons next following =>
            exact closing last (by rwa [List.getLast?_cons_cons])
      have later := induction linkedRest closingRest
      intro piece member filled
      by_cases space : character = ' '
      · rw [Text.split, if_pos space] at member
        exact later piece ((List.mem_cons.mp member).resolve_left filled) filled
      · obtain ⟨others, pieces⟩ := exists_split_eq ' ' rest
        rw [Text.split, if_neg space, pieces] at member
        rw [pieces] at later
        rcases List.mem_cons.mp member with rfl | among
        · cases rest with
          | nil => exact ⟨.singleton _, character, rfl, closing character rfl⟩
          | cons next following =>
              by_cases spaceNext : next = ' '
              · have closingHere := (here next rfl).2 spaceNext
                simp only [List.takeWhile_cons, spaceNext]
                exact ⟨.singleton _, character, rfl, closingHere⟩
              · have visible : (next != ' ') = true := by simpa using spaceNext
                rw [List.takeWhile_cons, if_pos visible] at later ⊢
                obtain ⟨linkedPiece, last, isLast, closingLast⟩ :=
                  later _ List.mem_cons_self (List.cons_ne_nil _ _)
                refine ⟨linkedPiece.cons_cons (here next rfl), last, ?_, closingLast⟩
                rw [List.getLast?_cons_cons]
                exact isLast
        · exact later piece (List.mem_cons_of_mem _ among) filled

theorem isClosing_getLast {value : Value} (collection : value.kind = .list ∨ value.kind = .map) :
    ∀ last ∈ value.shown.toList.getLast?, isClosing last = true := by
  intro last isLast
  cases value with
  | list items =>
      simp only [Value.shown, String.toList_append] at isLast
      rw [List.getLast?_append_of_ne_nil _ (by decide)] at isLast
      obtain rfl := Option.some.inj isLast
      rfl
  | map entries =>
      simp only [Value.shown, String.toList_append] at isLast
      rw [List.getLast?_append_of_ne_nil _ (by decide)] at isLast
      obtain rfl := Option.some.inj isLast
      rfl
  | _ => rcases collection with impossible | impossible <;> cases impossible

/-- The pieces of a collection without texts, between spaces. -/
theorem collectionPiece_of_shown {value : Value} (textFree : value.holdsText = false)
    (collection : value.kind = .list ∨ value.kind = .map) :
    ∀ piece ∈ Text.split ' ' value.shown.toList, piece ≠ [] → CollectionPiece piece :=
  collectionPiece_of_mem_split (literal_shown value textFree).linked
    (isClosing_getLast collection)

theorem shown_ne_empty (value : Value) : value.shown ≠ "" := by
  have ended {text : String} (last : Char) : text ++ String.singleton last ≠ "" := by
    intro empty
    have noChars := congrArg String.toList empty
    simp at noChars
  cases value with
  | null => decide
  | bool truth => cases truth <;> decide
  | int number => exact fun empty => (literal_toString number).filled (congrArg String.toList empty)
  | float number => exact fun empty => (literal_text number).filled (congrArg String.toList empty)
  | text content =>
      intro empty
      have noChars : (Text.quoted content).toList = [] := congrArg String.toList empty
      rw [Text.quoted, String.toList_ofList] at noChars
      cases noChars
  | list items => exact ended ']'
  | map entries => exact ended '\x7d'
  | callable content attributes => exact content.visible

theorem asText_ne_empty {value : Value} (filled : value ≠ .text "") : value.asText ≠ "" := by
  cases value with
  | text content => exact fun empty => filled (congrArg Value.text empty)
  | _ => exact shown_ne_empty _

theorem asText_argument_ne_empty {token : List Char} (filled : token ≠ []) :
    (argument token).asText ≠ "" :=
  asText_ne_empty fun read => filled (eq_toList_of_argument read)

end CommandLine

end ChatDispatch
