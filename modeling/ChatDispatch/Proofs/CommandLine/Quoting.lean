import ChatDispatch.Proofs.CommandLine.Words

/-!
# Styles of quoting

A token can be written bare, between double quotes or between single quotes.  In each
style a backslash stands before the characters that would mean something else.  A line of
tokens in any styles, with blanks between them and around them, is read as these tokens.
-/

namespace ChatDispatch.CommandLine

/-- A text with a backslash before each special character. -/
def escape (special : Char → Bool) : List Char → List Char
  | [] => []
  | character :: rest =>
      if special character then '\\' :: character :: escape special rest
      else character :: escape special rest

/-- The ways to write a token. -/
inductive Style where
  | bare
  | double
  | single
deriving DecidableEq

def Style.quote? : Style → Option Char
  | .bare => none
  | .double => some '"'
  | .single => some '\''

/-- Between quotes only the quote itself and the backslash are special; a bare token has to
escape blanks and both quotes as well. -/
def isSpecial : Option Char → Char → Bool
  | none, character => Text.isBlank character || isQuote character || character == '\\'
  | some quote, character => character == quote || character == '\\'

def Style.write (style : Style) (token : List Char) : List Char :=
  style.quote?.toList ++ escape (isSpecial style.quote?) token ++ style.quote?.toList

/-- A run of blanks, which may be empty. -/
structure Gap where
  text : List Char
  blank : ∀ character ∈ text, Text.isBlank character = true

/-- A token that is not empty, with its style and the blanks after it. -/
structure Word where
  token : String
  filled : token ≠ ""
  style : Style
  gap : Gap

def Word.text (word : Word) : List Char :=
  word.style.write word.token.toList ++ word.gap.text

/-- Words with blanks between them and around them. -/
structure Line where
  lead : Gap
  words : List Word
  apart : ∀ word ∈ words.dropLast, word.gap.text ≠ []

def Line.text (line : Line) : String :=
  String.ofList (line.lead.text ++ line.words.flatMap Word.text)

namespace Scanner

/-- In the middle of a token, inside the given quote or outside of quotes. -/
def within (quote? : Option Char) (token : List Char) : Scanner :=
  { holding token with openQuote := quote? }

theorem step_backslash_within (quote? : Option Char) (token : List Char) (character : Char) :
    ((within quote? token).step '\\').step character = within quote? (token ++ [character]) := by
  simp [within, holding, step, take]

theorem step_within {quote? : Option Char} {character : Char}
    (plain : isSpecial quote? character = false) (token : List Char) :
    (within quote? token).step character = within quote? (token ++ [character]) := by
  cases quote? with
  | none =>
      simp only [isSpecial, Bool.or_eq_false_iff, beq_eq_false_iff_ne] at plain
      obtain ⟨⟨visible, unquoted⟩, different⟩ := plain
      simp [within, holding, step, take, visible, unquoted, different]
  | some quote =>
      simp only [isSpecial, Bool.or_eq_false_iff, beq_eq_false_iff_ne] at plain
      obtain ⟨other, different⟩ := plain
      simp [within, holding, step, take, other, different]

theorem run_escape (quote? : Option Char) (token text : List Char) :
    (within quote? token).run (escape (isSpecial quote?) text) = within quote? (token ++ text) := by
  induction text generalizing token with
  | nil => simp [escape]
  | cons character rest induction =>
      have grown := induction (token ++ [character])
      rw [List.append_assoc, List.singleton_append] at grown
      cases special : isSpecial quote? character with
      | true =>
          rw [escape, if_pos special, run_cons, run_cons, step_backslash_within]
          exact grown
      | false =>
          rw [escape, special, if_neg Bool.false_ne_true, run_cons, step_within special]
          exact grown

end Scanner

theorem Style.scans_write (style : Style) (token : List Char) :
    Scans (style.write token) token := by
  have opened : Scanner.start.run style.quote?.toList = Scanner.within style.quote? [] := by
    cases style <;> rfl
  have closed : (Scanner.within style.quote? token).run style.quote?.toList =
      Scanner.holding token := by
    cases style <;> rfl
  calc
    Scanner.start.run (style.write token)
      = ((Scanner.start.run style.quote?.toList).run
          (escape (isSpecial style.quote?) token)).run style.quote?.toList := by
          rw [Style.write, Scanner.run_append, Scanner.run_append]
    _ = (Scanner.within style.quote? token).run style.quote?.toList := by
          rw [opened, Scanner.run_escape, List.nil_append]
    _ = Scanner.holding token := closed

theorem tokens_append_gap {word : List Char} (closed : (Scanner.start.run word).IsClosed)
    (gap : Gap) (filled : gap.text ≠ []) (text : List Char) :
    tokens (word ++ gap.text ++ text) = tokens word ++ tokens text := by
  obtain ⟨blanks, blank⟩ := gap
  obtain ⟨first, rest, rfl⟩ := List.exists_cons_of_ne_nil filled
  obtain ⟨here, later⟩ := List.forall_mem_cons.mp blank
  rw [List.append_assoc, List.cons_append, tokens_append_blank closed here,
    tokens_blanks_append later]

theorem Word.tokens_write (word : Word) :
    tokens (word.style.write word.token.toList) = [word.token.toList] := by
  apply (word.style.scans_write word.token.toList).tokens
  intro empty
  exact word.filled (String.toList_inj.mp empty)

theorem tokens_words {words : List Word} (apart : ∀ word ∈ words.dropLast, word.gap.text ≠ []) :
    tokens (words.flatMap Word.text) = words.map (·.token.toList) := by
  induction words with
  | nil => rfl
  | cons word words induction =>
      have closed := (word.style.scans_write word.token.toList).isClosed
      cases words with
      | nil =>
          rw [List.flatMap_singleton, Word.text, tokens_append_blanks closed word.gap.blank,
            word.tokens_write]
          rfl
      | cons next words =>
          rw [List.dropLast_cons_cons] at apart
          obtain ⟨here, later⟩ := List.forall_mem_cons.mp apart
          rw [List.flatMap_cons, Word.text, tokens_append_gap closed word.gap here,
            word.tokens_write, induction later]
          rfl

/-- A line of tokens, each in any style and with any blanks between them, is read as these
tokens. -/
theorem tokenize_line (line : Line) : tokenize line.text = line.words.map Word.token := by
  unfold tokenize Line.text
  rw [String.toList_ofList, tokens_blanks_append line.lead.blank, tokens_words line.apart,
    List.map_map]
  apply List.map_congr_left
  intro word _
  exact String.ofList_toList

/-- Tokens that are hard to tell from their quoting, one in each style. -/
def sampleLine : Line where
  lead := ⟨['\t'], List.all_eq_true.mp rfl⟩
  words := [
    ⟨"\"\\", by decide, .bare, ⟨[' '], List.all_eq_true.mp rfl⟩⟩,
    ⟨" \\", by decide, .single, ⟨[' ', '\n'], List.all_eq_true.mp rfl⟩⟩,
    ⟨"'\"", by decide, .double, ⟨[], List.all_eq_true.mp rfl⟩⟩]
  apart := by decide

example :
    sampleLine.text = "\t\\\"\\\\ ' \\\\' \n\"'\\\"\"" ∧
      tokenize sampleLine.text = ["\"\\", " \\", "'\""] := by
  decide +kernel

end ChatDispatch.CommandLine
