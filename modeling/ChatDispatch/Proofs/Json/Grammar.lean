import ChatDispatch.Json
import ChatDispatch.Proofs.Table

/-!
# The grammar of JSON

`Spells` says how a tree is written, without saying how it is read, and `Tree.value` says
what the tree stands for.  A character of a string may stand for itself or be escaped; a
character above the basic plane is escaped as a pair of halves.  The grammar also allows a
half without the other one, which is no character: texts are spelled with or without such
halves.
-/

namespace ChatDispatch.Json

/-- Digits, of which there is at least one. -/
structure Digits where
  text : List Char
  filled : text ≠ []
  decimal : ∀ digit ∈ text, Text.isAsciiDigit digit = true

def Digits.number (digits : Digits) : Nat :=
  Text.digitsValue 0 digits.text

/-- The exponent of a number; it is negative when its sign is `true`. -/
structure Exponent where
  upper : Bool
  sign : Option Bool
  digits : Digits

def signText : Option Bool → List Char
  | some true => ['-']
  | some false => ['+']
  | none => []

def Exponent.text (exponent : Exponent) : List Char :=
  (if exponent.upper then 'E' else 'e') :: (signText exponent.sign ++ exponent.digits.text)

def Exponent.power (exponent : Exponent) : Int :=
  if exponent.sign = some true then -exponent.digits.number else exponent.digits.number

/-- A number as it is written: no zero stands in front of other digits. -/
structure Numeral where
  negative : Bool
  whole : Digits
  tidy : whole.text.head? = some '0' → whole.text = ['0']
  fraction : Option Digits
  exponent : Option Exponent

namespace Numeral

def fractionText : Option Digits → List Char
  | some digits => '.' :: digits.text
  | none => []

def exponentText : Option Exponent → List Char
  | some exponent => exponent.text
  | none => []

def unsignedText (numeral : Numeral) : List Char :=
  numeral.whole.text ++ (fractionText numeral.fraction ++ exponentText numeral.exponent)

def text (numeral : Numeral) : List Char :=
  if numeral.negative then '-' :: numeral.unsignedText else numeral.unsignedText

def decimalsOf (fraction : Option Digits) : List Char :=
  (fraction.map Digits.text).getD []

def isInteger (numeral : Numeral) : Bool :=
  numeral.fraction.isNone && numeral.exponent.isNone

/-- A numeral without fraction and exponent is an integer, all others are rounded. -/
def value (numeral : Numeral) : Value :=
  if numeral.isInteger then
    .int (if numeral.negative then -(numeral.whole.number : Int) else numeral.whole.number)
  else
    let decimals := decimalsOf numeral.fraction
    let power := (numeral.exponent.map Exponent.power).getD 0
    .float (Binary64.ofDecimal numeral.negative
      (Text.digitsValue 0 (numeral.whole.text ++ decimals)) (power - decimals.length))

/-- An integer has at most the given number of digits. -/
def Fits (limit : Nat) (numeral : Numeral) : Prop :=
  numeral.isInteger = true → numeral.whole.text.length ≤ limit

instance (limit : Nat) (numeral : Numeral) : Decidable (numeral.Fits limit) :=
  inferInstanceAs (Decidable (_ → _))

end Numeral

/-- The letters of the short escapes, each with the character that it stands for. -/
def shortEscapes : List (Char × Char) :=
  [('"', '"'), ('\\', '\\'), ('/', '/'), ('b', Char.ofNat 8), ('f', Char.ofNat 12), ('n', '\n'),
   ('r', '\r'), ('t', '\t')]

def HexDigit (digit : Char) (value : Nat) : Prop :=
  value < 16 ∧ digit.toLower = Nat.digitChar value

instance (digit : Char) (value : Nat) : Decidable (HexDigit digit value) :=
  inferInstanceAs (Decidable (_ ∧ _))

/-- Four hexadecimal digits. -/
inductive Hex : List Char → Nat → Prop where
  | four {a b c d : Char} {first second third fourth : Nat} :
      HexDigit a first → HexDigit b second → HexDigit c third → HexDigit d fourth →
      Hex [a, b, c, d] (((first * 16 + second) * 16 + third) * 16 + fourth)

/-- How one character is written between quotes.  Where lone halves are allowed, each stands for
the replacement character. -/
inductive SpellsCharacter (halves : Prop) : Char → List Char → Prop where
  | plain {character : Char} :
      character ≠ '"' → character ≠ '\\' → 32 ≤ character.toNat →
      SpellsCharacter halves character [character]
  | short {letter character : Char} :
      (letter, character) ∈ shortEscapes → SpellsCharacter halves character ['\\', letter]
  | unit {character : Char} {digits : List Char} :
      Hex digits character.toNat → SpellsCharacter halves character ('\\' :: 'u' :: digits)
  | pair {character : Char} {high low : List Char} :
      0x10000 ≤ character.toNat →
      Hex high (0xD800 + (character.toNat - 0x10000) / 0x400) →
      Hex low (0xDC00 + (character.toNat - 0x10000) % 0x400) →
      SpellsCharacter halves character ('\\' :: 'u' :: (high ++ '\\' :: 'u' :: low))
  | half {number : Nat} {digits : List Char} :
      halves → 0xD800 ≤ number → number ≤ 0xDFFF → Hex digits number →
      SpellsCharacter halves (Char.ofNat 0xFFFD) ('\\' :: 'u' :: digits)

/-- How characters are written one after the other. -/
inductive SpellsCharacters (halves : Prop) : List Char → List Char → Prop where
  | nil : SpellsCharacters halves [] []
  | cons {character : Char} {written content text : List Char} :
      SpellsCharacter halves character written → SpellsCharacters halves content text →
      SpellsCharacters halves (character :: content) (written ++ text)

/-- How a string is written, with its quotes. -/
inductive SpellsString (halves : Prop) (content : String) : List Char → Prop where
  | quoted {text : List Char} :
      SpellsCharacters halves content.toList text →
      SpellsString halves content ('"' :: (text ++ ['"']))

/-- The values of JSON texts; the fields of an object may repeat a name. -/
inductive Tree where
  | null
  | bool (truth : Bool)
  | number (numeral : Numeral)
  | string (content : String)
  | array (items : List Tree)
  | object (fields : List (String × Tree))

def Spaces (text : List Char) : Prop :=
  ∀ character ∈ text, character ∈ [' ', '\t', '\n', '\r']

instance (text : List Char) : Decidable (Spaces text) :=
  List.decidableBAll (· ∈ [' ', '\t', '\n', '\r']) text

/-- Members with commas between them, and with spaces around each. -/
inductive Series {α : Type} (Spelled : α → List Char → Prop) : List α → List Char → Prop where
  | last {member : α} {before text after : List Char} :
      Spaces before → Spelled member text → Spaces after →
      Series Spelled [member] (before ++ (text ++ after))
  | next {member : α} {members : List α} {before text after rest : List Char} :
      Spaces before → Spelled member text → Spaces after → Series Spelled members rest →
      Series Spelled (member :: members) (before ++ (text ++ (after ++ ',' :: rest)))

/-- What stands between brackets: a series, or nothing. -/
inductive Inside {α : Type} (Spelled : α → List Char → Prop) : List α → List Char → Prop where
  | nothing {gap : List Char} : Spaces gap → Inside Spelled [] gap
  | series {members : List α} {inner : List Char} :
      Series Spelled members inner → Inside Spelled members inner

/-- A name and a value with a colon between them. -/
inductive Field (halves : Prop) (Spelled : Tree → List Char → Prop) :
    String × Tree → List Char → Prop where
  | colon {name : String} {tree : Tree} {nameText before after text : List Char} :
      SpellsString halves name nameText → Spaces before → Spaces after → Spelled tree text →
      Field halves Spelled (name, tree) (nameText ++ (before ++ ':' :: (after ++ text)))

/-- How a tree is written. -/
inductive Spells (halves : Prop) : Tree → List Char → Prop where
  | null : Spells halves .null "null".toList
  | yes : Spells halves (.bool true) "true".toList
  | no : Spells halves (.bool false) "false".toList
  | number (numeral : Numeral) : Spells halves (.number numeral) numeral.text
  | string {content : String} {text : List Char} :
      SpellsString halves content text → Spells halves (.string content) text
  | array {items : List Tree} {inner : List Char} :
      Inside (Spells halves) items inner → Spells halves (.array items) ('[' :: (inner ++ [']']))
  | object {fields : List (String × Tree)} {inner : List Char} :
      Inside (Field halves (Spells halves)) fields inner →
      Spells halves (.object fields) ('\x7b' :: (inner ++ ['\x7d']))

/-- A tree with spaces around it. -/
inductive SpellsText (halves : Prop) (tree : Tree) : List Char → Prop where
  | padded {before text after : List Char} :
      Spaces before → Spells halves tree text → Spaces after →
      SpellsText halves tree (before ++ (text ++ after))

namespace Tree

mutual

def value : Tree → Value
  | .null => .null
  | .bool truth => .bool truth
  | .number numeral => numeral.value
  | .string content => .text content
  | .array items => .list (itemValues items)
  | .object fields => .map (Entries.named (Table.lastWins (fieldValues fields)))
termination_by structural tree => tree

def itemValues : List Tree → List Value
  | [] => []
  | item :: items => value item :: itemValues items
termination_by structural items => items

def fieldValues : List (String × Tree) → List (String × Value)
  | [] => []
  | (name, tree) :: fields => (name, value tree) :: fieldValues fields
termination_by structural fields => fields

end

theorem itemValues_eq (items : List Tree) : itemValues items = items.map value := by
  induction items with
  | nil => rfl
  | cons item items induction => rw [itemValues, induction, List.map_cons]

theorem fieldValues_eq (fields : List (String × Tree)) :
    fieldValues fields = fields.map fun field => (field.1, field.2.value) := by
  induction fields with
  | nil => rfl
  | cons field fields induction =>
      obtain ⟨name, tree⟩ := field
      rw [fieldValues, induction, List.map_cons]

/-- The integers of a tree have at most the given number of digits. -/
inductive Fits (limit : Nat) : Tree → Prop where
  | null : Fits limit .null
  | bool (truth : Bool) : Fits limit (.bool truth)
  | number {numeral : Numeral} : numeral.Fits limit → Fits limit (.number numeral)
  | string (content : String) : Fits limit (.string content)
  | array {items : List Tree} : (∀ item ∈ items, Fits limit item) → Fits limit (.array items)
  | object {fields : List (String × Tree)} :
      (∀ field ∈ fields, Fits limit field.2) → Fits limit (.object fields)

/-- A tree is nested at most as many levels deep as given. -/
inductive Within : Nat → Tree → Prop where
  | null (levels : Nat) : Within levels .null
  | bool (levels : Nat) (truth : Bool) : Within levels (.bool truth)
  | number (levels : Nat) (numeral : Numeral) : Within levels (.number numeral)
  | string (levels : Nat) (content : String) : Within levels (.string content)
  | array {levels : Nat} {items : List Tree} :
      (∀ item ∈ items, Within levels item) → Within (levels + 1) (.array items)
  | object {levels : Nat} {fields : List (String × Tree)} :
      (∀ field ∈ fields, Within levels field.2) → Within (levels + 1) (.object fields)

end Tree

end ChatDispatch.Json
