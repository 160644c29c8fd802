import ChatDispatch.CommandLine.Token
import ChatDispatch.CommandLine.Format

/-!
# Laws of the scanner

What has been finished does not influence what is read later, so a closed text and a
blank after it can be read apart from the rest of the line.  A bare text and a text
between double quotes are read as single tokens, and a line of such words is read word
by word.
-/

namespace ChatDispatch.CommandLine

/-- A character that stands for itself outside of quotes. -/
def isBare (character : Char) : Bool :=
  !Text.isBlank character && !isQuote character && character != '\\'

/-- A text without blanks, quotes and backslashes. -/
def Bare (text : List Char) : Prop :=
  ∀ character ∈ text, isBare character = true

instance : DecidablePred Bare := fun text =>
  decidable_of_iff (text.all isBare = true) List.all_eq_true

theorem not_isBlank_of_isBare {character : Char} (bare : isBare character = true) :
    Text.isBlank character = false := by
  simp only [isBare, Bool.and_eq_true, Bool.not_eq_true'] at bare
  exact bare.1.1

theorem not_isQuote_of_isBare {character : Char} (bare : isBare character = true) :
    isQuote character = false := by
  simp only [isBare, Bool.and_eq_true, Bool.not_eq_true'] at bare
  exact bare.1.2

theorem ne_backslash_of_isBare {character : Char} (bare : isBare character = true) :
    character ≠ '\\' := by
  simp only [isBare, Bool.and_eq_true, bne_iff_ne] at bare
  exact bare.2

theorem ne_backslash_of_isBlank {character : Char} (blank : Text.isBlank character = true) :
    character ≠ '\\' := by
  rintro rfl
  exact absurd blank (by decide)

theorem not_isQuote_of_isBlank {character : Char} (blank : Text.isBlank character = true) :
    isQuote character = false := by
  by_cases double : character = '"'
  · subst double
    exact absurd blank (by decide)
  · by_cases single : character = '\''
    · subst single
      exact absurd blank (by decide)
    · simp [isQuote, double, single]

theorem bare_nil : Bare [] := by
  intro character member
  cases member

theorem bare_cons {character : Char} {rest : List Char} :
    Bare (character :: rest) ↔ isBare character = true ∧ Bare rest :=
  List.forall_mem_cons

theorem bare_append {left right : List Char} :
    Bare (left ++ right) ↔ Bare left ∧ Bare right :=
  List.forall_mem_append

namespace Scanner

theorem run_append (scanner : Scanner) (left right : List Char) :
    scanner.run (left ++ right) = (scanner.run left).run right :=
  List.foldl_append

@[simp]
theorem run_nil (scanner : Scanner) : scanner.run [] = scanner := rfl

@[simp]
theorem run_cons (scanner : Scanner) (character : Char) (rest : List Char) :
    scanner.run (character :: rest) = (scanner.step character).run rest := rfl

/-- The scanner in the middle of a token, outside of quotes. -/
def holding (token : List Char) : Scanner :=
  { tokens := [], current := token.reverse, openQuote := none, escaped := false }

/-- The scanner with tokens that were finished before its own. -/
def after (scanner : Scanner) (earlier : List (List Char)) : Scanner :=
  { scanner with tokens := scanner.tokens ++ earlier }

@[simp]
theorem finished_after (scanner : Scanner) (earlier : List (List Char)) :
    (scanner.after earlier).finished = scanner.finished ++ earlier := by
  by_cases idle : scanner.current.isEmpty
  · simp [finished, after, idle]
  · simp [finished, after, idle]

theorem step_after (scanner : Scanner) (earlier : List (List Char)) (character : Char) :
    (scanner.after earlier).step character = (scanner.step character).after earlier := by
  obtain ⟨tokens, current, openQuote, escaped⟩ := scanner
  cases escaped with
  | true => rfl
  | false =>
      by_cases backslash : character = '\\'
      · simp [step, after, backslash]
      · cases openQuote with
        | some quote =>
            by_cases closing : character = quote
            · simp [step, after, ← closing, backslash]
            · simp [step, after, take, closing, backslash]
        | none =>
            cases opening : isQuote character with
            | true => simp [step, after, opening, backslash]
            | false =>
                cases blank : Text.isBlank character with
                | true =>
                    by_cases idle : current = []
                    · simp [step, after, finished, opening, backslash, blank, idle]
                    · simp [step, after, finished, opening, backslash, blank, idle]
                | false => simp [step, after, take, opening, backslash, blank]

theorem run_after (scanner : Scanner) (earlier : List (List Char)) (text : List Char) :
    (scanner.after earlier).run text = (scanner.run text).after earlier := by
  induction text generalizing scanner with
  | nil => rfl
  | cons character rest induction =>
      rw [run_cons, run_cons, step_after, induction]

theorem step_blank {scanner : Scanner} (closed : scanner.IsClosed) {character : Char}
    (blank : Text.isBlank character = true) :
    scanner.step character = start.after scanner.finished := by
  obtain ⟨tokens, current, openQuote, escaped⟩ := scanner
  obtain ⟨rfl, rfl⟩ := closed
  simp [step, start, after, blank, not_isQuote_of_isBlank blank, ne_backslash_of_isBlank blank]

theorem step_bare {scanner : Scanner} (closed : scanner.IsClosed) {character : Char}
    (bare : isBare character = true) : scanner.step character = scanner.take character := by
  obtain ⟨tokens, current, openQuote, escaped⟩ := scanner
  obtain ⟨rfl, rfl⟩ := closed
  simp [step, take, ne_backslash_of_isBare bare, not_isQuote_of_isBare bare,
    not_isBlank_of_isBare bare]

theorem isClosed_start : start.IsClosed := ⟨rfl, rfl⟩

theorem isClosed_holding (token : List Char) : (holding token).IsClosed := ⟨rfl, rfl⟩

theorem run_bare {text : List Char} (bare : Bare text) (token : List Char) :
    (holding token).run text = holding (token ++ text) := by
  induction text generalizing token with
  | nil => simp
  | cons character rest induction =>
      obtain ⟨here, later⟩ := bare_cons.mp bare
      have read : (holding token).step character = holding (token ++ [character]) := by
        rw [step_bare (isClosed_holding token) here]
        simp [holding, take]
      rw [run_cons, read, induction later]
      simp

/-- Between double quotes the escaped form of a text without backslashes is read as the
text. -/
theorem run_escapeQuotes {text : List Char} (plain : '\\' ∉ text) (token : List Char) :
    ({ holding token with openQuote := some '"' } : Scanner).run (escapeQuotes text) =
      { holding (token ++ text) with openQuote := some '"' } := by
  induction text generalizing token with
  | nil => simp [escapeQuotes]
  | cons character rest induction =>
      have later : '\\' ∉ rest := fun member => plain (List.mem_cons_of_mem _ member)
      have grown := induction later (token ++ [character])
      by_cases quote : character = '"'
      · subst quote
        simpa [escapeQuotes, step, take, holding] using grown
      · have different : character ≠ '\\' := by
          rintro rfl
          exact plain List.mem_cons_self
        simpa [escapeQuotes, quote, step, take, holding, different] using grown

end Scanner

/-- The scanner reads a word as the one given token, with nothing left open. -/
def Scans (word token : List Char) : Prop :=
  Scanner.start.run word = Scanner.holding token

theorem scans_of_bare {text : List Char} (bare : Bare text) : Scans text text :=
  Scanner.run_bare bare []

theorem scans_quoted {text : List Char} (plain : '\\' ∉ text) :
    Scans ('"' :: (escapeQuotes text ++ ['"'])) text := by
  have opened : Scanner.start.step '"' =
      { Scanner.holding [] with openQuote := some '"' } := by
    rfl
  unfold Scans
  rw [Scanner.run_cons, opened, Scanner.run_append, Scanner.run_escapeQuotes plain]
  rfl

theorem Scans.isClosed {word token : List Char} (scans : Scans word token) :
    (Scanner.start.run word).IsClosed := by
  rw [scans]
  exact Scanner.isClosed_holding token

theorem Scans.tokens {word token : List Char} (scans : Scans word token)
    (filled : token ≠ []) : tokens word = [token] := by
  unfold CommandLine.tokens
  rw [scans]
  simp [Scanner.finished, Scanner.holding, filled]

/-- A closed text and a blank after it are read apart from what follows. -/
theorem tokens_append_blank {left : List Char} (closed : (Scanner.start.run left).IsClosed)
    {blank : Char} (isBlank : Text.isBlank blank = true) (right : List Char) :
    tokens (left ++ blank :: right) = tokens left ++ tokens right := by
  unfold tokens
  rw [Scanner.run_append, Scanner.run_cons, Scanner.step_blank closed isBlank,
    Scanner.run_after, Scanner.finished_after, List.reverse_append]

end ChatDispatch.CommandLine
