import ChatDispatch.Proofs.CommandLine.Conservation
import ChatDispatch.Proofs.CommandLine.Parsed
import ChatDispatch.Proofs.CommandLine.Quoting

/-!
# How a text ends

A character at the end of a text changes the tokens exactly when the scanner takes it into
the token being read.  A scanner that is not closed takes blanks, so the closed texts are
those after which blanks separate whatever follows.  An open end is forgiven: neither the
quote that closes a run nor a backslash with nothing after it is taken, unless a backslash
is pending.
-/

namespace ChatDispatch.CommandLine

namespace Scanner

/-- The next character becomes a part of the token being read. -/
def Takes (scanner : Scanner) (character : Char) : Prop :=
  scanner.escaped = true ∨
    (character ≠ '\\' ∧ scanner.openQuote ≠ some character ∧
      (scanner.openQuote = none → isBare character = true))

theorem finished_take_ne (scanner : Scanner) (character : Char) :
    (scanner.take character).finished ≠ scanner.finished := by
  intro same
  have amounts : (scanner.take character).amount character = scanner.amount character := by
    rw [← count_finished, ← count_finished, same]
  rw [amount_take, beq_self_eq_true, if_pos rfl] at amounts
  omega

/-- If the text ended here, a character more would change its tokens exactly when it is
taken. -/
theorem finished_step_eq_iff (scanner : Scanner) (character : Char) :
    (scanner.step character).finished = scanner.finished ↔ ¬ scanner.Takes character := by
  have move := scanner.move_step character
  have grown := scanner.finished_take_ne character
  generalize scanner.step character = next at move
  cases move with
  | escaped pending => exact iff_of_false grown (not_not_intro (.inl pending))
  | escape ready backslash => exact iff_of_true rfl (by simp [Takes, ready, backslash])
  | closing ready inside => exact iff_of_true rfl (by simp [Takes, ready, inside])
  | quoted ready plain inside other =>
      have taken : scanner.Takes character := by
        simp [Takes, plain, inside, Ne.symm other]
      exact iff_of_false grown (not_not_intro taken)
  | opening ready outside quote =>
      have marked : isBare character = false := by simp [isBare, quote]
      exact iff_of_true rfl (by simp [Takes, ready, outside, marked])
  | blank ready outside blank =>
      have marked : isBare character = false := by simp [isBare, blank]
      exact iff_of_true rfl (by simp [Takes, ready, outside, marked])
  | bare ready outside bare =>
      have taken : scanner.Takes character := by
        simp [Takes, outside, bare, ne_backslash_of_isBare bare]
      exact iff_of_false grown (not_not_intro taken)

theorem takes_backslash_iff (scanner : Scanner) :
    scanner.Takes '\\' ↔ scanner.escaped = true := by
  simp [Takes]

theorem takes_openQuote_iff {scanner : Scanner} {quote : Char}
    (inside : scanner.openQuote = some quote) :
    scanner.Takes quote ↔ scanner.escaped = true := by
  simp [Takes, inside]

theorem isQuote_openQuote_step {scanner : Scanner}
    (quotes : ∀ quote ∈ scanner.openQuote, isQuote quote = true) (character : Char) :
    ∀ quote ∈ (scanner.step character).openQuote, isQuote quote = true := by
  have move := scanner.move_step character
  generalize scanner.step character = next at move
  cases move with
  | opening ready outside quote =>
      intro opened among
      obtain rfl := Option.some.inj among
      exact quote
  | closing ready inside =>
      intro opened among
      cases among
  | _ => exact quotes

theorem isQuote_openQuote_run {scanner : Scanner}
    (quotes : ∀ quote ∈ scanner.openQuote, isQuote quote = true) (text : List Char) :
    ∀ quote ∈ (scanner.run text).openQuote, isQuote quote = true := by
  induction text generalizing scanner with
  | nil => exact quotes
  | cons character rest induction => exact induction (isQuote_openQuote_step quotes character)

theorem isQuote_openQuote {text : List Char} {quote : Char}
    (inside : (start.run text).openQuote = some quote) : isQuote quote = true :=
  isQuote_openQuote_run (by simp [start]) text quote inside

end Scanner

def scan (text : String) : Scanner :=
  Scanner.start.run text.toList

theorem tokens_concat_eq_iff (text : List Char) (character : Char) :
    tokens (text ++ [character]) = tokens text ↔ ¬ (Scanner.start.run text).Takes character := by
  rw [← Scanner.finished_step_eq_iff, tokens, tokens, Scanner.run_append, Scanner.run_cons,
    Scanner.run_nil, List.reverse_inj]

theorem tokenize_push_eq_iff (text : String) (character : Char) :
    tokenize text = tokenize (text.push character) ↔ ¬ (scan text).Takes character := by
  have apart : Function.Injective (List.map String.ofList) :=
    List.map_injective_iff.mpr fun _ _ => String.ofList_inj.mp
  rw [scan, ← tokens_concat_eq_iff, tokenize, tokenize, apart.eq_iff, String.toList_push]
  exact eq_comm

/-- Blanks are taken between quotes and after a pending backslash, and nowhere else. -/
theorem takes_blank_iff {text : String} {blank : Char} (isBlank : Text.isBlank blank = true) :
    (scan text).Takes blank ↔ ¬ (scan text).IsClosed := by
  constructor
  · rintro (pending | ⟨-, -, outside⟩) closed
    · exact absurd (closed.2.symm.trans pending) (by decide)
    · have visible := not_isBlank_of_isBare (outside closed.1)
      exact absurd (visible.symm.trans isBlank) (by decide)
  · intro unclosed
    by_cases pending : (scan text).escaped = true
    · exact .inl pending
    · cases inside : (scan text).openQuote with
      | none => exact absurd ⟨inside, Bool.eq_false_of_not_eq_true pending⟩ unclosed
      | some quote =>
          have quotes : isQuote quote = true := Scanner.isQuote_openQuote inside
          have other : quote ≠ blank := by
            rintro rfl
            exact absurd (quotes.symm.trans (not_isQuote_of_isBlank isBlank)) (by decide)
          exact .inr ⟨ne_backslash_of_isBlank isBlank, by simp [inside, other], by simp [inside]⟩

theorem tokenize_append_gap {left : String} (closed : (scan left).IsClosed) (gap : Gap)
    (filled : gap.text ≠ []) (right : String) :
    tokenize (left ++ String.ofList gap.text ++ right) = tokenize left ++ tokenize right := by
  rw [tokenize, String.toList_append, String.toList_append, String.toList_ofList,
    tokens_append_gap closed gap filled, List.map_append]
  rfl

/-- One blank with nothing after it tells whether a text is closed. -/
theorem isClosed_of_splits {left : String} {blank : Char} (isBlank : Text.isBlank blank = true)
    (splits : tokenize (left ++ String.ofList [blank] ++ "") = tokenize left ++ tokenize "") :
    (scan left).IsClosed := by
  have nothing : tokenize "" = [] := rfl
  have pushed : left ++ String.ofList [blank] ++ "" = left.push blank := by
    rw [String.append_empty, String.push_eq_append]
    rfl
  rw [nothing, List.append_nil, pushed, eq_comm, tokenize_push_eq_iff, takes_blank_iff isBlank,
    not_not] at splits
  exact splits

/-- A text is closed exactly when blanks after it separate it from whatever follows.  No
token is empty.  An open end is forgiven: while no backslash is pending, and only then, the
closing quote or a backslash at the end leaves the tokens as they are. -/
theorem tokenize_splits_and_forgives :
    (∀ left : String, (scan left).IsClosed ↔
      ∀ (gap : Gap) (right : String), gap.text ≠ [] →
        tokenize (left ++ String.ofList gap.text ++ right) = tokenize left ++ tokenize right) ∧
    (∀ text : String, "" ∉ tokenize text) ∧
    (∀ (text : String) (quote : Char), (scan text).openQuote = some quote →
      ((scan text).escaped = false ↔ tokenize text = tokenize (text.push quote))) ∧
    ∀ text : String,
      (scan text).escaped = false ↔ tokenize text = tokenize (text.push '\\') := by
  refine ⟨fun left => ⟨fun closed gap right filled => ?splits, fun splits => ?closed⟩,
    fun text among => ?filled, fun text quote inside => ?quote, fun text => ?backslash⟩
  case splits => exact tokenize_append_gap closed gap filled right
  case closed =>
    have space : Text.isBlank ' ' = true := by decide
    have gap : ∀ character ∈ [' '], Text.isBlank character = true :=
      List.forall_mem_singleton.mpr space
    exact isClosed_of_splits space (splits ⟨[' '], gap⟩ "" (List.cons_ne_nil _ _))
  case filled =>
    obtain ⟨token, member, empty⟩ := List.mem_map.mp among
    exact ne_nil_of_mem_tokens member (String.ofList_eq_empty_iff.mp empty)
  case quote =>
    rw [tokenize_push_eq_iff, Scanner.takes_openQuote_iff inside, Bool.not_eq_true]
  case backslash =>
    rw [tokenize_push_eq_iff, Scanner.takes_backslash_iff, Bool.not_eq_true]

/-- A closed text before one whose quote stays open, and either end of the latter. -/
theorem tokenize_splits_and_forgives_open :
    (scan "say 'it is'").IsClosed ∧
      tokenize "say 'it is' \t\"not over" = tokenize "say 'it is'" ++ tokenize "\"not over" ∧
      (scan "\"not over").openQuote = some '"' ∧ (scan "\"not over").escaped = false ∧
      tokenize "\"not over" = tokenize "\"not over\"" ∧
      tokenize "\"not over" = tokenize "\"not over\\" := by
  obtain ⟨splits, -, forgivesQuote, forgivesBackslash⟩ := tokenize_splits_and_forgives
  have closed : (scan "say 'it is'").IsClosed := ⟨by decide +kernel, by decide +kernel⟩
  have inside : (scan "\"not over").openQuote = some '"' := by decide +kernel
  have ready : (scan "\"not over").escaped = false := by decide +kernel
  have blanks : ∀ character ∈ [' ', '\t'], Text.isBlank character = true :=
    List.all_eq_true.mp rfl
  exact ⟨closed, (splits _).mp closed ⟨[' ', '\t'], blanks⟩ "\"not over" (List.cons_ne_nil _ _),
    inside, ready, (forgivesQuote _ '"' inside).mp ready, (forgivesBackslash _).mp ready⟩

end ChatDispatch.CommandLine
