import ChatDispatch.Proofs.CommandLine.Scanning
import ChatDispatch.Text.Split
import Mathlib.Data.List.DropRight

/-!
# Words

A line is written as words with single spaces between them.  A word is quoted, or it is
fine: it has only bare characters and spaces.  A line of such words is read word by word,
also when the blanks at its end are trimmed; a fine word is read as its pieces between
the spaces.
-/

namespace ChatDispatch.CommandLine

def spaced (words : List (List Char)) : List Char :=
  [' '].intercalate words

@[simp]
theorem spaced_singleton (word : List Char) : spaced [word] = word :=
  List.intercalate_singleton

@[simp]
theorem spaced_cons_cons (word next : List Char) (words : List (List Char)) :
    spaced (word :: next :: words) = word ++ ' ' :: spaced (next :: words) := by
  simp [spaced]

def Fine (text : List Char) : Prop :=
  ∀ character ∈ text, isBare character = true ∨ character = ' '

/-- A text without double quotes and backslashes. -/
def Raw (text : List Char) : Prop :=
  '"' ∉ text ∧ '\\' ∉ text

/-- A text between double quotes, its own double quotes escaped. -/
def Quoted (word : List Char) : Prop :=
  ∃ text, '\\' ∉ text ∧ word = '"' :: (escapeQuotes text ++ ['"'])

def Settled (word : List Char) : Prop :=
  Quoted word ∨ Fine word

theorem fine_nil : Fine [] := by
  intro character member
  cases member

theorem fine_append {left right : List Char} : Fine (left ++ right) ↔ Fine left ∧ Fine right :=
  List.forall_mem_append

theorem Bare.fine {text : List Char} (bare : Bare text) : Fine text :=
  fun character member => .inl (bare character member)

theorem Fine.run_isClosed {text : List Char} (fine : Fine text) {scanner : Scanner}
    (closed : scanner.IsClosed) : (scanner.run text).IsClosed := by
  induction text generalizing scanner with
  | nil => exact closed
  | cons character rest induction =>
      obtain ⟨here, later⟩ := List.forall_mem_cons.mp fine
      refine induction later ?_
      rcases here with bare | rfl
      · rw [Scanner.step_bare closed bare]
        exact ⟨closed.1, rfl⟩
      · rw [Scanner.step_blank closed (by decide)]
        exact Scanner.isClosed_start

theorem Fine.run_isClosed_start {text : List Char} (fine : Fine text) :
    (Scanner.start.run text).IsClosed :=
  fine.run_isClosed Scanner.isClosed_start

theorem Settled.isClosed {word : List Char} (settled : Settled word) :
    (Scanner.start.run word).IsClosed := by
  rcases settled with ⟨text, plain, rfl⟩ | fine
  · exact (scans_quoted plain).isClosed
  · exact fine.run_isClosed_start

theorem exists_split_eq (mark : Char) (text : List Char) :
    ∃ others, Text.split mark text = text.takeWhile (· != mark) :: others := by
  induction text with
  | nil => exact ⟨[], rfl⟩
  | cons character rest induction =>
      obtain ⟨others, here⟩ := induction
      by_cases found : character = mark
      · exact ⟨Text.split mark rest, by simp [Text.split, found]⟩
      · exact ⟨others, by simp [Text.split, found, here]⟩

theorem split_append {mark : Char} {right first : List Char} {others : List (List Char)}
    (left : List Char) (absent : mark ∉ left) (pieces : Text.split mark right = first :: others) :
    Text.split mark (left ++ right) = (left ++ first) :: others := by
  induction left with
  | nil => exact pieces
  | cons character rest induction =>
      rw [List.mem_cons, not_or] at absent
      simp [Text.split, Ne.symm absent.1, induction absent.2]

theorem split_of_not_mem {mark : Char} {text : List Char} (absent : mark ∉ text) :
    Text.split mark text = [text] := by
  have whole := split_append text absent (Text.split.eq_1 mark)
  rwa [List.append_nil] at whole

theorem split_append_cons {mark : Char} {left : List Char} (absent : mark ∉ left)
    (right : List Char) :
    Text.split mark (left ++ mark :: right) = left :: Text.split mark right := by
  have start : Text.split mark (mark :: right) = [] :: Text.split mark right := by
    rw [Text.split, if_pos rfl]
  have parted := split_append left absent start
  rwa [List.append_nil] at parted

theorem split_induction (mark : Char) {motive : List Char → Prop}
    (last : ∀ text, mark ∉ text → motive text)
    (next : ∀ left right, mark ∉ left → motive right → motive (left ++ mark :: right))
    (text : List Char) : motive text := by
  by_cases present : mark ∈ text
  · obtain ⟨left, right, parts, absent⟩ := List.eq_append_cons_of_mem present
    have shorter : right.length < text.length := by
      rw [parts, List.length_append, List.length_cons]
      omega
    exact parts ▸ next left right absent (split_induction mark last next right)
  · exact last text present
termination_by text.length

theorem not_mem_of_mem_split {mark : Char} {text piece : List Char}
    (member : piece ∈ Text.split mark text) : mark ∉ piece := by
  induction text using split_induction mark with
  | last text absent =>
      rw [split_of_not_mem absent] at member
      rwa [List.mem_singleton.mp member]
  | next left right absent induction =>
      rw [split_append_cons absent] at member
      rcases List.mem_cons.mp member with rfl | later
      · exact absent
      · exact induction later

theorem length_lt_of_mem_split {mark : Char} {text piece : List Char} (present : mark ∈ text)
    (member : piece ∈ Text.split mark text) : piece.length < text.length := by
  induction text using split_induction mark with
  | last text absent => exact absurd present absent
  | next left right absent induction =>
      rw [split_append_cons absent] at member
      rw [List.length_append, List.length_cons]
      rcases List.mem_cons.mp member with rfl | later
      · omega
      · by_cases again : mark ∈ right
        · have shorter := induction again later
          omega
        · rw [split_of_not_mem again] at later
          obtain rfl := List.mem_singleton.mp later
          omega

theorem exists_mem_split {mark seen : Char} (other : seen ≠ mark) {text : List Char}
    (member : seen ∈ text) : ∃ piece ∈ Text.split mark text, seen ∈ piece := by
  induction text using split_induction mark with
  | last text absent => exact ⟨text, by simp [split_of_not_mem absent], member⟩
  | next left right absent induction =>
      rw [split_append_cons absent]
      rw [List.mem_append, List.mem_cons] at member
      rcases member with here | same | later
      · exact ⟨left, List.mem_cons_self, here⟩
      · exact absurd same other
      · obtain ⟨piece, among, seenPiece⟩ := induction later
        exact ⟨piece, List.mem_cons_of_mem _ among, seenPiece⟩

/-- When nothing stands after the first mark, the text ends with the mark. -/
theorem getLast?_of_split {mark : Char} {text first : List Char} {others : List (List Char)}
    (pieces : Text.split mark text = first :: others) (present : mark ∈ text)
    (empty : ∀ piece ∈ others, piece = []) : text.getLast? = some mark := by
  obtain ⟨left, right, rfl, absent⟩ := List.eq_append_cons_of_mem present
  rw [split_append_cons absent] at pieces
  obtain ⟨-, rfl⟩ := List.cons.inj pieces
  have marks : ∀ character ∈ mark :: right, character = mark := by
    intro character member
    rcases List.mem_cons.mp member with same | later
    · exact same
    · by_contra other
      obtain ⟨piece, among, inPiece⟩ := exists_mem_split other later
      rw [empty piece among] at inPiece
      cases inPiece
  rw [List.getLast?_append_of_ne_nil _ (List.cons_ne_nil _ _),
    List.getLast?_eq_some_getLast (List.cons_ne_nil _ _)]
  exact congrArg some (marks _ (List.getLast_mem _))

theorem tokens_bare {text : List Char} (bare : Bare text) :
    tokens text = [text].filter (!·.isEmpty) := by
  by_cases empty : text = []
  · subst empty
    rfl
  · rw [(scans_of_bare bare).tokens empty]
    simp [empty]

theorem tokens_append_fine {before text first : List Char} {others : List (List Char)}
    (bare : Bare before) (fine : Fine text) (pieces : Text.split ' ' text = first :: others) :
    tokens (before ++ text) = ((before ++ first) :: others).filter (!·.isEmpty) := by
  induction text generalizing before first others with
  | nil =>
      obtain ⟨rfl, rfl⟩ := List.cons.inj pieces
      rw [List.append_nil]
      exact tokens_bare bare
  | cons character rest induction =>
      obtain ⟨here, later⟩ := List.forall_mem_cons.mp fine
      by_cases space : character = ' '
      · subst space
        rw [Text.split, if_pos rfl] at pieces
        obtain ⟨rfl, rfl⟩ := List.cons.inj pieces
        obtain ⟨next, following, piecesRest⟩ :=
          List.exists_cons_of_ne_nil (Text.split_ne_nil ' ' rest)
        have closed := bare.fine.run_isClosed_start
        rw [tokens_append_blank closed (by decide), tokens_bare bare]
        have readRest := induction bare_nil later piecesRest
        rw [List.nil_append, List.nil_append] at readRest
        rw [readRest, piecesRest, List.append_nil, ← List.filter_append]
        rfl
      · have bareHere : isBare character = true := here.resolve_right space
        obtain ⟨next, following, piecesRest⟩ :=
          List.exists_cons_of_ne_nil (Text.split_ne_nil ' ' rest)
        rw [Text.split, if_neg space, piecesRest] at pieces
        obtain ⟨rfl, rfl⟩ := List.cons.inj pieces
        have grown : Bare (before ++ [character]) :=
          bare_append.mpr ⟨bare, bare_cons.mpr ⟨bareHere, bare_nil⟩⟩
        have readRest := induction grown later piecesRest
        rw [List.append_assoc, List.singleton_append, List.append_assoc,
          List.singleton_append] at readRest
        exact readRest

theorem tokens_fine {text : List Char} (fine : Fine text) :
    tokens text = (Text.split ' ' text).filter (!·.isEmpty) := by
  obtain ⟨first, others, pieces⟩ := List.exists_cons_of_ne_nil (Text.split_ne_nil ' ' text)
  rw [pieces]
  exact tokens_append_fine bare_nil fine pieces

def trimEnd (text : List Char) : List Char :=
  text.rdropWhile Text.isBlank

theorem trim_of_visible {first : Char} (visible : Text.isBlank first = false)
    (rest : List Char) : Text.trim (first :: rest) = first :: trimEnd rest := by
  unfold Text.trim trimEnd List.rdropWhile
  rw [List.dropWhile_cons_of_neg (by simp [visible]), List.reverse_cons, List.dropWhile_append]
  split
  · rename_i allBlank
    rw [List.isEmpty_iff] at allBlank
    simp [allBlank, visible]
  · simp

theorem exists_eq_trimEnd_append (text : List Char) :
    ∃ blanks, text = trimEnd text ++ blanks ∧ ∀ blank ∈ blanks, Text.isBlank blank = true := by
  refine ⟨(text.reverse.takeWhile Text.isBlank).reverse, ?_, ?_⟩
  · unfold trimEnd List.rdropWhile
    rw [← List.reverse_append, List.takeWhile_append_dropWhile, List.reverse_reverse]
  · intro blank member
    exact List.mem_takeWhile_imp (List.mem_reverse.mp member)

theorem trimEnd_append {right : List Char} {seen : Char} (member : seen ∈ right)
    (visible : Text.isBlank seen = false) (left : List Char) :
    trimEnd (left ++ right) = left ++ trimEnd right := by
  unfold trimEnd List.rdropWhile
  rw [List.reverse_append, List.dropWhile_append]
  split
  · rename_i allBlank
    rw [List.isEmpty_iff, List.dropWhile_eq_nil_iff] at allBlank
    rw [allBlank seen (List.mem_reverse.mpr member)] at visible
    cases visible
  · simp

theorem tokens_blanks_append {blanks : List Char}
    (blank : ∀ character ∈ blanks, Text.isBlank character = true) (text : List Char) :
    tokens (blanks ++ text) = tokens text := by
  induction blanks with
  | nil => rfl
  | cons first rest induction =>
      obtain ⟨here, later⟩ := List.forall_mem_cons.mp blank
      have apart : tokens ([] ++ first :: (rest ++ text)) = tokens [] ++ tokens (rest ++ text) :=
        tokens_append_blank bare_nil.fine.run_isClosed_start here (rest ++ text)
      rw [induction later] at apart
      exact apart

theorem tokens_blanks {blanks : List Char}
    (blank : ∀ character ∈ blanks, Text.isBlank character = true) : tokens blanks = [] := by
  have skipped := tokens_blanks_append blank []
  rwa [List.append_nil] at skipped

theorem tokens_append_blanks {left blanks : List Char}
    (closed : (Scanner.start.run left).IsClosed)
    (blank : ∀ character ∈ blanks, Text.isBlank character = true) :
    tokens (left ++ blanks) = tokens left := by
  cases blanks with
  | nil => rw [List.append_nil]
  | cons first rest =>
      obtain ⟨here, later⟩ := List.forall_mem_cons.mp blank
      rw [tokens_append_blank closed here, tokens_blanks later, List.append_nil]

theorem Settled.tokens_trimEnd {word : List Char} (settled : Settled word) :
    tokens (trimEnd word) = tokens word := by
  rcases settled with ⟨text, plain, rfl⟩ | fine
  · have kept : trimEnd ('"' :: (escapeQuotes text ++ ['"'])) =
        '"' :: (escapeQuotes text ++ ['"']) := by
      rw [← List.cons_append, trimEnd_append (List.mem_singleton_self _) (by decide)]
      rfl
    rw [kept]
  · obtain ⟨blanks, parts, blank⟩ := exists_eq_trimEnd_append word
    rw [parts] at fine
    have closed := (fine_append.mp fine).1.run_isClosed_start
    conv_rhs => rw [parts]
    exact (tokens_append_blanks closed blank).symm

/-- The blanks at the end of a line of settled words do not matter, if no word consists of
blanks only. -/
theorem tokens_trimEnd_spaced {words : List (List Char)}
    (settled : ∀ word ∈ words, Settled word)
    (visible : ∀ word ∈ words, ∃ seen ∈ word, Text.isBlank seen = false) :
    tokens (trimEnd (spaced words)) = words.flatMap tokens := by
  induction words with
  | nil => rfl
  | cons word words induction =>
      obtain ⟨here, later⟩ := List.forall_mem_cons.mp settled
      cases words with
      | nil => simp [here.tokens_trimEnd]
      | cons next words =>
          obtain ⟨-, visibleLater⟩ := List.forall_mem_cons.mp visible
          obtain ⟨seen, member, seenVisible⟩ := visibleLater next List.mem_cons_self
          have among : seen ∈ spaced (next :: words) := by
            cases words with
            | nil => simpa using member
            | cons => simp [member]
          rw [spaced_cons_cons, ← List.singleton_append, ← List.append_assoc,
            trimEnd_append among seenVisible, List.append_assoc, List.singleton_append,
            tokens_append_blank here.isClosed (by decide), induction later visibleLater]
          rfl

end ChatDispatch.CommandLine
