import ChatDispatch.Proofs.CommandLine.Parsed

/-!
# The roles of tokens

After the target every token of a line is an argument, a flag or the value of the flag
before it.  Which of these it is depends on the token and its left neighbour only, although
the reader of arguments and flags skips a token whenever it has taken one as a value.
-/

namespace ChatDispatch

namespace CommandLine

def isLong (token : List Char) : Bool :=
  token.take 2 == ['-', '-']

/-- A token of a dash and another character. -/
def isShort (token : List Char) : Bool :=
  token.length == 2 && token.head? == some '-' && token != ['-', '-']

/-- A token that is the value of the one before it. -/
def isTaken (before : Option (List Char)) (token : List Char) : Bool :=
  before.any isShort && token.head? != some '-'

/-- A token between its neighbours. -/
structure Place where
  before : Option (List Char)
  token : List Char
  next : Option (List Char)

/-- The places of tokens that stand after another one. -/
def placesAfter (before : Option (List Char)) : List (List Char) → List Place
  | [] => []
  | token :: rest => ⟨before, token, rest.head?⟩ :: placesAfter (some token) rest

theorem placesAfter_cons (before : Option (List Char)) (token : List Char)
    (rest : List (List Char)) :
    placesAfter before (token :: rest) =
      ⟨before, token, rest.head?⟩ :: placesAfter (some token) rest := rfl

def places (tokens : List (List Char)) : List Place :=
  placesAfter none tokens

/-- The argument that a token writes at its place. -/
def Place.argument? (place : Place) : Option Value :=
  if isLong place.token || isShort place.token || isTaken place.before place.token then none
  else some (argument place.token)

/-- The value of a long flag, from the text after its dashes. -/
def longValue (body : List Char) : Value :=
  if '=' ∈ body then argument (body.dropWhile (· != '=')).tail else .bool true

/-- The value of a short flag, from the token after it. -/
def shortValue (token : List Char) : Option (List Char) → Value
  | some next => if isTaken (some token) next then argument next else .bool true
  | none => .bool true

/-- The flag that a token names at its place. -/
def Place.flag? (place : Place) : Option (String × Value) :=
  if isLong place.token then
    some (String.ofList ((place.token.drop 2).takeWhile (· != '=')), longValue (place.token.drop 2))
  else if isShort place.token then
    some (String.ofList (place.token.drop 1), shortValue place.token place.next)
  else
    none

theorem cut_eq (mark : Char) (text : List Char) :
    Text.cut mark text = (text.takeWhile (· != mark),
      if mark ∈ text then some (text.dropWhile (· != mark)).tail else none) := by
  by_cases present : mark ∈ text
  · obtain ⟨before, after, rfl, absent⟩ := List.eq_append_cons_of_mem present
    have other : ∀ character ∈ before, (character != mark) = true := by
      intro character member
      rw [bne_iff_ne]
      rintro rfl
      exact absent member
    rw [cut_append absent, List.takeWhile_append_of_pos other, List.dropWhile_append_of_pos other]
    simp
  · have other : ∀ character ∈ text, (character != mark) = true := by
      intro character member
      rw [bne_iff_ne]
      rintro rfl
      exact present member
    rw [cut_of_not_mem present, List.takeWhile_eq_self_iff.mpr other, if_neg present]

theorem flag?_of_long {token name : List Char} {content : Option (List Char)}
    (long : role token = .long name content) (before next : Option (List Char)) :
    isLong token = true ∧ isShort token = false ∧
      Place.flag? ⟨before, token, next⟩ = some (String.ofList name, flagValue content) := by
  obtain ⟨body, rfl, cut⟩ := role_eq_long long
  rw [cut_eq] at cut
  obtain ⟨rfl, rfl⟩ := Prod.mk.inj cut
  have starts : isLong ('-' :: '-' :: body) = true := rfl
  refine ⟨starts, ?_, ?_⟩
  · cases body <;> simp [isShort]
  · rw [Place.flag?, if_pos starts]
    by_cases equals : '=' ∈ body <;> simp [longValue, flagValue, equals]

theorem isShort_of_short {token : List Char} {name : Char} (short : role token = .short name) :
    isLong token = false ∧ isShort token = true := by
  obtain rfl := role_eq_short short
  have other : name ≠ '-' := by
    rintro rfl
    cases short
  simp [isLong, isShort, other]

theorem apart_of_plain {token : List Char} (plain : role token = .plain) :
    isLong token = false ∧ isShort token = false := by
  unfold role at plain
  split at plain
  · cases plain
  · cases plain
  · rename_i noLong noShort
    match token with
    | [] => exact ⟨rfl, rfl⟩
    | [first] => simp [isLong, isShort]
    | [first, second] =>
        have dash : first ≠ '-' := by
          rintro rfl
          exact noShort second rfl
        simp [isLong, isShort, dash]
    | first :: second :: third :: rest =>
        have dashes : first = '-' → second ≠ '-' := by
          rintro rfl rfl
          exact noLong (third :: rest) rfl
        simpa [isLong, isShort] using dashes

theorem canBeTaken_eq (token : List Char) : canBeTaken token = (token.head? != some '-') := by
  unfold canBeTaken
  split
  · rfl
  · rename_i noDash
    cases token with
    | nil => rfl
    | cons first rest =>
        have dash : first ≠ '-' := by
          rintro rfl
          exact noDash rest rfl
        simp [dash]

theorem role_of_canBeTaken {token : List Char} (taken : canBeTaken token = true) :
    role token = .plain := by
  cases token with
  | nil => rfl
  | cons first rest =>
      apply role_of_ne
      rintro rfl
      cases taken

theorem placesAfter_written {before : Option (List Char)} {tokens : List (List Char)}
    (free : ∀ token ∈ tokens.head?, isTaken before token = false) :
    written tokens = ((placesAfter before tokens).filterMap Place.argument?,
      Entries.named ((placesAfter before tokens).filterMap Place.flag?)) := by
  have freeAfter {token : List Char} (noShort : isShort token = false)
      (rest : List (List Char)) : ∀ next ∈ rest.head?, isTaken (some token) next = false := by
    intro next _
    simp [isTaken, noShort]
  induction tokens using written.induct generalizing before with
  | case1 => rfl
  | case2 token rest name content long induction =>
      obtain ⟨isLong, noShort, flag⟩ := flag?_of_long long before rest.head?
      rw [written_long long, induction (freeAfter noShort rest), placesAfter_cons]
      simp [Place.argument?, isLong, flag, Entries.named]
  | case3 token name short next following taken induction =>
      obtain ⟨noLong, isShort⟩ := isShort_of_short short
      obtain ⟨noLongNext, noShortNext⟩ := apart_of_plain (role_of_canBeTaken taken)
      have isTaken : isTaken (some token) next = true := by
        simpa [isTaken, isShort, canBeTaken_eq] using taken
      obtain rfl := role_eq_short short
      rw [written_taken short taken, induction (freeAfter noShortNext following),
        placesAfter_cons, placesAfter_cons]
      simp [Place.argument?, Place.flag?, noLong, isShort, noLongNext, noShortNext, isTaken,
        shortValue, Entries.named]
  | case4 token name short next following left induction =>
      obtain ⟨noLong, isShort⟩ := isShort_of_short short
      have untaken : isTaken (some token) next = false := by
        simpa [isTaken, isShort, canBeTaken_eq] using left
      have freeNext : ∀ other ∈ (next :: following).head?,
          CommandLine.isTaken (some token) other = false := by
        intro other among
        obtain rfl := Option.some.inj among
        exact untaken
      obtain rfl := role_eq_short short
      rw [written_left short left, induction freeNext, placesAfter_cons before]
      simp [Place.argument?, Place.flag?, noLong, isShort, untaken, shortValue, Entries.named]
  | case5 token name short =>
      obtain ⟨noLong, isShort⟩ := isShort_of_short short
      obtain rfl := role_eq_short short
      rw [written_last short]
      simp [placesAfter, Place.argument?, Place.flag?, noLong, isShort, shortValue, Entries.named]
  | case6 token rest plain induction =>
      obtain ⟨noLong, noShort⟩ := apart_of_plain plain
      have untaken := free token rfl
      rw [written_plain plain, induction (freeAfter noShort rest), placesAfter_cons]
      simp [Place.argument?, Place.flag?, noLong, noShort, untaken]

/-- The arguments are the tokens that are neither flags nor taken, in order.  The flags stand
in the order in which they are first named, each with the value that it is given last. -/
theorem argumentsAndFlags_by_place (tokens : List (List Char)) :
    argumentsAndFlags [] tokens = ((places tokens).filterMap Place.argument?,
      Entries.named (Table.lastWins ((places tokens).filterMap Place.flag?))) := by
  have free : ∀ token ∈ tokens.head?, isTaken none token = false := by
    intro token _
    rfl
  rw [argumentsAndFlags_eq, placesAfter_written free]
  exact congrArg _ (Entries.ofEntries_named _)

/-- A dash that is taken neither way, a flag that is named both ways and one without a name. -/
example :
    argumentsAndFlags [] (["-v", "-", "--v=1", "a", "-v", "b", "--", "c"].map String.toList) =
      ([.text "-", .text "a", .text "c"], [(.text "v", .text "b"), (.text "", .bool true)]) := by
  decide +kernel

end CommandLine

end ChatDispatch
