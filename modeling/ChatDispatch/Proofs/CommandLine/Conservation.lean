import ChatDispatch.Proofs.CommandLine.Words
import Mathlib.Data.List.Induction

/-!
# What the scanner conserves

The tokens of a line have at most the characters of the line.  When no apostrophe is
lost, none opens quotes, and every double quote and every backslash of a token needs
backslashes of the line.  A line of words whose raw ones have neither double quotes nor
backslashes is read word by word, or loses an apostrophe or a blank.
-/

namespace ChatDispatch.CommandLine

namespace Scanner

/-- What reading one character can do. -/
inductive Move (scanner : Scanner) (character : Char) : Scanner → Prop where
  | escaped (pending : scanner.escaped = true) : Move scanner character (scanner.take character)
  | escape (ready : scanner.escaped = false) (backslash : character = '\\') :
      Move scanner character { scanner with escaped := true }
  | closing (ready : scanner.escaped = false) (inside : scanner.openQuote = some character) :
      Move scanner character { scanner with openQuote := none }
  | quoted (ready : scanner.escaped = false) (plain : character ≠ '\\') {quote : Char}
      (inside : scanner.openQuote = some quote) (other : character ≠ quote) :
      Move scanner character (scanner.take character)
  | opening (ready : scanner.escaped = false) (outside : scanner.openQuote = none)
      (quote : isQuote character = true) :
      Move scanner character { scanner with openQuote := some character }
  | blank (ready : scanner.escaped = false) (outside : scanner.openQuote = none)
      (blank : Text.isBlank character = true) :
      Move scanner character { scanner with tokens := scanner.finished, current := [] }
  | bare (ready : scanner.escaped = false) (outside : scanner.openQuote = none)
      (bare : isBare character = true) : Move scanner character (scanner.take character)

theorem move_step (scanner : Scanner) (character : Char) :
    Move scanner character (scanner.step character) := by
  unfold step
  cases ready : scanner.escaped with
  | true => exact .escaped ready
  | false =>
      by_cases backslash : character = '\\'
      · subst backslash
        simpa using Move.escape ready rfl
      · cases inside : scanner.openQuote with
        | some quote =>
            by_cases other : character = quote
            · subst other
              simpa [backslash, ready] using Move.closing ready inside
            · simpa [backslash, other] using Move.quoted ready backslash inside other
        | none =>
            cases quote : isQuote character with
            | true => simpa [backslash, quote, ready] using Move.opening ready inside quote
            | false =>
                cases blank : Text.isBlank character with
                | true =>
                        simpa [backslash, quote, blank, ready, inside] using
                          Move.blank ready inside blank
                | false =>
                    have bare : isBare character = true := by
                      simp [isBare, backslash, quote, blank]
                    simpa [backslash, quote, blank] using Move.bare ready inside bare

/-- How often a character occurs in the tokens so far. -/
def amount (scanner : Scanner) (counted : Char) : Nat :=
  scanner.tokens.flatten.count counted + scanner.current.count counted

@[simp]
theorem amount_start (counted : Char) : start.amount counted = 0 := rfl

@[simp]
theorem amount_take (scanner : Scanner) (character counted : Char) :
    (scanner.take character).amount counted =
      scanner.amount counted + if character == counted then 1 else 0 := by
  simp only [amount, take, List.count_cons]
  omega

theorem count_finished (scanner : Scanner) (counted : Char) :
    scanner.finished.flatten.count counted = scanner.amount counted := by
  unfold finished amount
  by_cases idle : scanner.current = []
  · simp [idle]
  · simp [idle, List.count_append, List.count_reverse, Nat.add_comm]

@[simp]
theorem amount_finished (scanner : Scanner) (counted : Char) :
    ({ scanner with tokens := scanner.finished, current := [] } : Scanner).amount counted =
      scanner.amount counted :=
  scanner.count_finished counted

theorem amount_step (scanner : Scanner) (character counted : Char) :
    scanner.amount counted ≤ (scanner.step character).amount counted ∧
      (scanner.step character).amount counted ≤
        scanner.amount counted + if character == counted then 1 else 0 := by
  have move := scanner.move_step character
  generalize scanner.step character = next at move
  cases move with
  | escaped pending => simp
  | escape ready backslash => simp [amount]
  | closing ready inside => simp [amount]
  | quoted ready plain inside other => simp
  | opening ready outside quote => simp [amount]
  | blank ready outside blank => simp
  | bare ready outside bare => simp

theorem amount_run (scanner : Scanner) (text : List Char) (counted : Char) :
    scanner.amount counted ≤ (scanner.run text).amount counted ∧
      (scanner.run text).amount counted ≤ scanner.amount counted + text.count counted := by
  induction text generalizing scanner with
  | nil => simp
  | cons character rest induction =>
      have here := scanner.amount_step character counted
      have later := induction (scanner.step character)
      rw [run_cons, List.count_cons]
      omega

/-- No apostrophe has opened quotes, and the double quotes and backslashes of the tokens
were escaped. -/
structure Sheltered (scanner : Scanner) (input : List Char) : Prop where
  quote : scanner.openQuote = none ∨ scanner.openQuote = some '"'
  backslashes :
    scanner.amount '"' + 2 * scanner.amount '\\' + (if scanner.escaped then 1 else 0) ≤
      input.count '\\'

/-- How many backslashes the double quotes and the backslashes of the tokens so far, and a
pending backslash, have taken. -/
def cost (scanner : Scanner) : Nat :=
  scanner.amount '"' + 2 * scanner.amount '\\' + (if scanner.escaped then 1 else 0)

/-- An escaped character takes the backslash before it; a backslash takes itself, too. -/
theorem cost_take_of_pending {scanner : Scanner} (pending : scanner.escaped = true)
    (character : Char) :
    (scanner.take character).cost ≤ scanner.cost + [character].count '\\' := by
  have settled : (scanner.take character).escaped = false := rfl
  simp only [cost, settled, pending, amount_take, List.count_singleton, Bool.false_eq_true,
    if_true, if_false]
  by_cases isDouble : character = '"'
  · subst isDouble
    simp
    omega
  · by_cases isBackslash : character = '\\'
    · subst isBackslash
      simp
      omega
    · simp [isDouble, isBackslash]

theorem cost_take_of_plain {scanner : Scanner} (ready : scanner.escaped = false)
    {character : Char} (noDouble : character ≠ '"') (noBackslash : character ≠ '\\') :
    (scanner.take character).cost = scanner.cost := by
  have settled : (scanner.take character).escaped = false := rfl
  simp [cost, settled, ready, noDouble, noBackslash]

theorem cost_finished {scanner : Scanner} :
    ({ scanner with tokens := scanner.finished, current := [] } : Scanner).cost =
      scanner.cost := by
  simp only [cost, amount_finished]

/-- Only an apostrophe that opens quotes ends the shelter, and it is lost. -/
theorem Sheltered.of_move {scanner next : Scanner} {input : List Char} {character : Char}
    (sheltered : Sheltered scanner input) (move : Move scanner character next) :
    character = '\'' ∧ next.amount '\'' = scanner.amount '\'' ∨
      Sheltered next (input ++ [character]) := by
  have before : scanner.cost ≤ input.count '\\' := sheltered.backslashes
  have longer : (input ++ [character]).count '\\' =
      input.count '\\' + [character].count '\\' := List.count_append
  have enough (after : next.cost ≤ scanner.cost + [character].count '\\') :
      next.cost ≤ (input ++ [character]).count '\\' :=
    longer ▸ after.trans (Nat.add_le_add_right before _)
  have free (same : next.cost = scanner.cost) :
      next.cost ≤ (input ++ [character]).count '\\' :=
    enough (same ▸ Nat.le_add_right _ _)
  cases move with
  | escaped pending =>
      exact .inr ⟨sheltered.quote, enough (cost_take_of_pending pending character)⟩
  | escape ready backslash =>
      refine .inr ⟨sheltered.quote, enough ?_⟩
      subst backslash
      simp [cost, amount, ready]
  | closing ready inside => exact .inr ⟨.inl rfl, free rfl⟩
  | @quoted ready plain opened inside other =>
      refine .inr ⟨sheltered.quote, free (cost_take_of_plain ready ?_ plain)⟩
      rcases sheltered.quote with outside | double
      · cases outside.symm.trans inside
      · exact Option.some.inj (inside.symm.trans double) ▸ other
  | opening ready outside quote =>
      by_cases single : character = '\''
      · exact .inl ⟨single, rfl⟩
      · have double : character = '"' := by
          simpa [CommandLine.isQuote, single] using quote
        exact .inr ⟨.inr (congrArg some double), free rfl⟩
  | blank ready outside blank => exact .inr ⟨sheltered.quote, free cost_finished⟩
  | bare ready outside bare =>
      have noDouble : character ≠ '"' := by
        rintro rfl
        cases not_isQuote_of_isBare bare
      exact .inr ⟨sheltered.quote,
        free (cost_take_of_plain ready noDouble (ne_backslash_of_isBare bare))⟩

theorem lost_or_sheltered (input : List Char) :
    (start.run input).amount '\'' < input.count '\'' ∨ Sheltered (start.run input) input := by
  induction input using List.reverseRecOn with
  | nil => exact .inr ⟨.inl rfl, Nat.le_refl 0⟩
  | append_singleton input character induction =>
      rw [run_append, run_cons, run_nil, List.count_append, List.count_singleton]
      have bound := (start.amount_run input '\'').2
      have atMost := ((start.run input).amount_step character '\'').2
      rw [amount_start, Nat.zero_add] at bound
      rcases induction with lost | sheltered
      · left
        omega
      · rcases sheltered.of_move ((start.run input).move_step character) with
          ⟨single, same⟩ | sheltered
        · left
          rw [same, single]
          exact Nat.lt_succ_of_le bound
        · exact .inr sheltered

end Scanner

theorem count_tokens_le (text : List Char) (counted : Char) :
    (tokens text).flatten.count counted ≤ text.count counted := by
  have bound := (Scanner.start.amount_run text counted).2
  rw [← Scanner.count_finished, Scanner.amount_start, Nat.zero_add] at bound
  simpa only [tokens, List.count_flatten, List.map_reverse, List.sum_reverse] using bound

theorem count_tokens_append_le (left right : List Char) (counted : Char) :
    (tokens left).flatten.count counted ≤ (tokens (left ++ right)).flatten.count counted := by
  have grown := ((Scanner.start.run left).amount_run right counted).1
  rw [← Scanner.run_append, ← Scanner.count_finished, ← Scanner.count_finished] at grown
  simpa only [tokens, List.count_flatten, List.map_reverse, List.sum_reverse] using grown

/-- Either an apostrophe is lost, or the double quotes and the backslashes of the tokens
were escaped in the text. -/
theorem apostrophe_lost_or_escaped (text : List Char) :
    (tokens text).flatten.count '\'' < text.count '\'' ∨
      (tokens text).flatten.count '"' + 2 * (tokens text).flatten.count '\\' ≤
        text.count '\\' := by
  have same (counted : Char) : (tokens text).flatten.count counted =
      (Scanner.start.run text).amount counted := by
    rw [← Scanner.count_finished]
    simp only [tokens, List.count_flatten, List.map_reverse, List.sum_reverse]
  rw [same, same, same]
  rcases Scanner.lost_or_sheltered text with lost | sheltered
  · exact .inl lost
  · exact .inr (Nat.le_trans (Nat.le_add_right _ _) sheltered.backslashes)

/-- An apostrophe, or a blank that is no space. -/
def isLossy (character : Char) : Bool :=
  character == '\'' || (Text.isBlank character && character != ' ')

/-- A raw text is fine, or there is a first character in it that is not. -/
theorem Raw.fine_or_lossy {text : List Char} (raw : Raw text) :
    Fine text ∨ ∃ before character after,
      text = before ++ character :: after ∧ Fine before ∧ isLossy character = true := by
  induction text with
  | nil => exact .inl fine_nil
  | cons first rest induction =>
      obtain ⟨noDouble, noBackslash⟩ := raw
      rw [List.mem_cons, not_or] at noDouble noBackslash
      by_cases fine : isBare first = true ∨ first = ' '
      · rcases induction ⟨noDouble.2, noBackslash.2⟩ with
          fineRest | ⟨before, character, after, rfl, fineBefore, lossy⟩
        · exact .inl (List.forall_mem_cons.mpr ⟨fine, fineRest⟩)
        · exact .inr ⟨first :: before, character, after, rfl,
            List.forall_mem_cons.mpr ⟨fine, fineBefore⟩, lossy⟩
      · refine .inr ⟨[], first, rest, rfl, fine_nil, ?_⟩
        rw [not_or] at fine
        have marked := fine.1
        simp only [isBare, isQuote, Bool.and_eq_true, Bool.not_eq_true', Bool.or_eq_false_iff,
          beq_eq_false_iff_ne, bne_iff_ne, not_and, Decidable.not_not] at marked
        simp only [isLossy, Bool.or_eq_true, Bool.and_eq_true, beq_iff_eq, bne_iff_ne]
        by_cases single : first = '\''
        · exact .inl single
        · cases blank : Text.isBlank first with
          | true => exact .inr ⟨rfl, fine.2⟩
          | false => exact absurd (marked ⟨blank, Ne.symm noDouble.1, single⟩).symm noBackslash.1

/-- After a fine text, an apostrophe opens quotes and a blank separates tokens: neither is
part of a token. -/
theorem count_tokens_lt {before after : List Char} {character : Char} (fine : Fine before)
    (lossy : isLossy character = true) :
    (tokens (before ++ character :: after)).flatten.count character <
      (before ++ character :: after).count character := by
  have closed := fine.run_isClosed_start
  have atMost := (Scanner.start.amount_run before character).2
  rw [Scanner.amount_start, Nat.zero_add] at atMost
  have unread : ((Scanner.start.run before).step character).amount character =
      (Scanner.start.run before).amount character := by
    have move := (Scanner.start.run before).move_step character
    generalize (Scanner.start.run before).step character = next at move
    generalize Scanner.start.run before = scanner at closed move
    cases move with
    | escaped pending => exact absurd (closed.2.symm.trans pending) (by decide)
    | escape ready backslash => rfl
    | closing ready inside => rfl
    | quoted ready plain inside other => exact absurd (closed.1.symm.trans inside) (by simp)
    | opening ready outside quote => rfl
    | blank ready outside blank => exact Scanner.amount_finished _ _
    | bare ready outside bare =>
        have notQuote := not_isQuote_of_isBare bare
        have notBlank := not_isBlank_of_isBare bare
        simp only [isQuote, Bool.or_eq_false_iff] at notQuote
        simp [isLossy, notQuote.2, notBlank] at lossy
  have later := (((Scanner.start.run before).step character).amount_run after character).2
  have bound : (tokens (before ++ character :: after)).flatten.count character =
      (((Scanner.start.run before).step character).run after).amount character := by
    rw [← Scanner.run_cons, ← Scanner.run_append, ← Scanner.count_finished]
    simp only [tokens, List.count_flatten, List.map_reverse, List.sum_reverse]
  rw [bound, List.count_append, List.count_cons_self]
  omega

/-- A line of quoted and raw words: all raw words are fine, or the line loses an apostrophe
or a blank. -/
theorem settled_or_lossy {words : List (List Char)}
    (raw : ∀ word ∈ words, Quoted word ∨ Raw word) :
    (∀ word ∈ words, Settled word) ∨
      ∃ character, isLossy character = true ∧
        (tokens (spaced words)).flatten.count character < (spaced words).count character := by
  induction words with
  | nil => exact .inl fun word member => nomatch member
  | cons word words induction =>
      obtain ⟨here, later⟩ := List.forall_mem_cons.mp raw
      have settledHere : Settled word ∨ ∃ before character after,
          word = before ++ character :: after ∧ Fine before ∧ isLossy character = true := by
        rcases here with quoted | rawWord
        · exact .inl (.inl quoted)
        · exact rawWord.fine_or_lossy.imp .inr id
      rcases settledHere with settled | ⟨before, character, after, rfl, fine, lossy⟩
      · rcases induction later with settledLater | ⟨character, lossy, lost⟩
        · exact .inl (List.forall_mem_cons.mpr ⟨settled, settledLater⟩)
        · refine .inr ⟨character, lossy, ?_⟩
          cases words with
          | nil => cases lost
          | cons next words =>
              have atMost := count_tokens_le word character
              rw [spaced_cons_cons, tokens_append_blank settled.isClosed (by decide),
                List.flatten_append, List.count_append, List.count_append, List.count_cons]
              omega
      · refine .inr ⟨character, lossy, ?_⟩
        cases words with
        | nil =>
            rw [spaced_singleton]
            exact count_tokens_lt fine lossy
        | cons next words =>
            rw [spaced_cons_cons, List.append_assoc, List.cons_append]
            exact count_tokens_lt fine lossy

end ChatDispatch.CommandLine
