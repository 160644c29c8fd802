import ChatDispatch.CommandLine.Parse
import ChatDispatch.Proofs.CommandLine.Arguments
import ChatDispatch.Proofs.Table

/-!
# Laws of reading arguments and flags

The arguments that tokens write and the flags that they store, one after the other, do
not depend on the flags so far.  Every argument comes from a token, and so do the name
and the value of every flag.
-/

namespace ChatDispatch.CommandLine

/-- The arguments that tokens write, and their flags in the order of storing. -/
def written : List (List Char) → List Value × Entries
  | [] => ([], [])
  | token :: rest =>
      match role token with
      | .long name content =>
          ((written rest).1, (String.ofList name, flagValue content) :: (written rest).2)
      | .short name =>
          match rest with
          | next :: following =>
              if canBeTaken next then
                ((written following).1,
                  (String.ofList [name], argument next) :: (written following).2)
              else
                ((written (next :: following)).1,
                  (String.ofList [name], .bool true) :: (written (next :: following)).2)
          | [] => ([], [(String.ofList [name], .bool true)])
      | .plain => (argument token :: (written rest).1, (written rest).2)

theorem role_eq_long {token name : List Char} {content : Option (List Char)}
    (long : role token = .long name content) :
    ∃ rest, token = '-' :: '-' :: rest ∧ Text.cut '=' rest = (name, content) := by
  unfold role at long
  split at long
  · rename_i rest
    obtain ⟨rfl, rfl⟩ := Role.long.inj long
    exact ⟨rest, rfl, rfl⟩
  · cases long
  · cases long

theorem role_eq_short {token : List Char} {name : Char} (short : role token = .short name) :
    token = ['-', name] := by
  unfold role at short
  split at short
  · cases short
  · obtain rfl := Role.short.inj short
    rfl
  · cases short

theorem role_dashes (rest : List Char) :
    role ('-' :: '-' :: rest) = .long (Text.cut '=' rest).1 (Text.cut '=' rest).2 := rfl

theorem role_of_ne {first : Char} (other : first ≠ '-') (rest : List Char) :
    role (first :: rest) = .plain := by
  unfold role
  split
  · rename_i dashes
    exact absurd (List.cons.inj dashes).1 other
  · rename_i dash
    exact absurd (List.cons.inj dash).1 other
  · rfl

theorem canBeTaken_of_long {token name : List Char} {content : Option (List Char)}
    (long : role token = .long name content) : canBeTaken token = false := by
  obtain ⟨rest, rfl, -⟩ := role_eq_long long
  rfl

theorem written_plain {token : List Char} (plain : role token = .plain)
    (rest : List (List Char)) :
    written (token :: rest) = (argument token :: (written rest).1, (written rest).2) := by
  rw [written, plain]

theorem written_long {token name : List Char} {content : Option (List Char)}
    (long : role token = .long name content) (rest : List (List Char)) :
    written (token :: rest) =
      ((written rest).1, (.text (String.ofList name), flagValue content) :: (written rest).2) := by
  rw [written, long]

theorem written_taken {token next : List Char} {name : Char} (short : role token = .short name)
    (taken : canBeTaken next = true) (following : List (List Char)) :
    written (token :: next :: following) =
      ((written following).1,
        (.text (String.ofList [name]), argument next) :: (written following).2) := by
  rw [written, short]
  exact if_pos taken

theorem written_left {token next : List Char} {name : Char} (short : role token = .short name)
    (left : ¬canBeTaken next = true) (following : List (List Char)) :
    written (token :: next :: following) =
      ((written (next :: following)).1,
        (.text (String.ofList [name]), .bool true) :: (written (next :: following)).2) := by
  rw [written, short]
  exact if_neg left

theorem written_last {token : List Char} {name : Char} (short : role token = .short name) :
    written [token] = ([], [(.text (String.ofList [name]), .bool true)]) := by
  rw [written, short]

theorem argumentsAndFlags_eq (flags : Entries) (tokens : List (List Char)) :
    argumentsAndFlags flags tokens =
      ((written tokens).1, Table.update flags (written tokens).2) := by
  induction flags, tokens using argumentsAndFlags.induct with
  | case1 flags => rfl
  | case2 flags token rest name content long induction =>
      rw [argumentsAndFlags, long, written_long long]
      exact induction
  | case3 flags token name short next following taken induction =>
      rw [argumentsAndFlags, short, written_taken short taken]
      simp only [taken, if_true]
      exact induction
  | case4 flags token name short next following left induction =>
      rw [argumentsAndFlags, short, written_left short left]
      simp only [left, Bool.false_eq_true, if_false]
      exact induction
  | case5 flags token name short =>
      rw [argumentsAndFlags, short, written_last short]
      rfl
  | case6 flags token rest plain arguments others read induction =>
      rw [argumentsAndFlags, plain, written_plain plain]
      dsimp only
      rw [induction]

theorem written_plains {tokens : List (List Char)}
    (plain : ∀ token ∈ tokens, role token = .plain) :
    written tokens = (tokens.map argument, []) := by
  induction tokens with
  | nil => rfl
  | cons token rest induction =>
      obtain ⟨here, later⟩ := List.forall_mem_cons.mp plain
      rw [written_plain here, induction later]
      rfl

/-- Tokens before one that cannot be taken as a value are read apart from it. -/
theorem written_append {left right : List (List Char)}
    (barrier : ∀ next ∈ right.head?, canBeTaken next = false) :
    written (left ++ right) =
      ((written left).1 ++ (written right).1, (written left).2 ++ (written right).2) := by
  induction left using written.induct with
  | case1 => rfl
  | case2 token rest name content long induction =>
      rw [List.cons_append, written_long long, written_long long, induction]
      rfl
  | case3 token name short next following taken induction =>
      rw [List.cons_append, List.cons_append, written_taken short taken,
        written_taken short taken, induction]
      rfl
  | case4 token name short next following left induction =>
      rw [List.cons_append, List.cons_append, written_left short left,
        written_left short left, ← List.cons_append, induction]
      rfl
  | case5 token name short =>
      cases right with
      | nil => rw [List.append_nil, written_last short]; rfl
      | cons next following =>
          have untaken : ¬canBeTaken next = true := by
            simp [barrier next rfl]
          rw [List.singleton_append, written_left short untaken, written_last short]
          rfl
  | case6 token rest plain induction =>
      rw [List.cons_append, written_plain plain, written_plain plain, induction]
      rfl

theorem exists_plain_of_mem_written {tokens : List (List Char)} {value : Value}
    (member : value ∈ (written tokens).1) :
    ∃ token ∈ tokens, role token = .plain ∧ argument token = value := by
  induction tokens using written.induct with
  | case1 => cases member
  | case2 token rest name content long induction =>
      rw [written_long long] at member
      obtain ⟨source, among, reads⟩ := induction member
      exact ⟨source, List.mem_cons_of_mem _ among, reads⟩
  | case3 token name short next following taken induction =>
      rw [written_taken short taken] at member
      obtain ⟨source, among, reads⟩ := induction member
      exact ⟨source, List.mem_cons_of_mem _ (List.mem_cons_of_mem _ among), reads⟩
  | case4 token name short next following left induction =>
      rw [written_left short left] at member
      obtain ⟨source, among, reads⟩ := induction member
      exact ⟨source, List.mem_cons_of_mem _ among, reads⟩
  | case5 token name short =>
      rw [written_last short] at member
      cases member
  | case6 token rest plain induction =>
      rw [written_plain plain] at member
      rcases List.mem_cons.mp member with rfl | later
      · exact ⟨token, List.mem_cons_self, plain, rfl⟩
      · obtain ⟨source, among, reads⟩ := induction later
        exact ⟨source, List.mem_cons_of_mem _ among, reads⟩

/-- The tokens a stored flag can come from: a long flag, or a short one whose value is
`true` or a token itself. -/
def StoredBy (tokens : List (List Char)) (entry : Key × Value) : Prop :=
  (∃ token ∈ tokens, ∃ name content, role token = .long name content ∧
      entry = (.text (String.ofList name), flagValue content)) ∨
    ∃ token ∈ tokens, ∃ name, role token = .short name ∧
      entry.1 = .text (String.ofList [name]) ∧
      (entry.2 = .bool true ∨ ∃ next ∈ tokens, entry.2 = argument next)

theorem StoredBy.mono {tokens others : List (List Char)} {entry : Key × Value}
    (stored : StoredBy tokens entry) (among : ∀ token ∈ tokens, token ∈ others) :
    StoredBy others entry := by
  rcases stored with ⟨token, member, long⟩ | ⟨token, member, name, short, named, valued⟩
  · exact .inl ⟨token, among token member, long⟩
  · refine .inr ⟨token, among token member, name, short, named, valued.imp id ?_⟩
    rintro ⟨next, nextMember, read⟩
    exact ⟨next, among next nextMember, read⟩

theorem storedBy_of_mem_written {tokens : List (List Char)} {entry : Key × Value}
    (member : entry ∈ (written tokens).2) : StoredBy tokens entry := by
  induction tokens using written.induct with
  | case1 => cases member
  | case2 token rest name content long induction =>
      rw [written_long long] at member
      rcases List.mem_cons.mp member with rfl | later
      · exact .inl ⟨token, List.mem_cons_self, name, content, long, rfl⟩
      · exact (induction later).mono fun other => List.mem_cons_of_mem _
  | case3 token name short next following taken induction =>
      rw [written_taken short taken] at member
      rcases List.mem_cons.mp member with rfl | later
      · exact .inr ⟨token, List.mem_cons_self, name, short, rfl, .inr ⟨next, by simp, rfl⟩⟩
      · exact (induction later).mono fun other among =>
          List.mem_cons_of_mem _ (List.mem_cons_of_mem _ among)
  | case4 token name short next following left induction =>
      rw [written_left short left] at member
      rcases List.mem_cons.mp member with rfl | later
      · exact .inr ⟨token, List.mem_cons_self, name, short, rfl, .inl rfl⟩
      · exact (induction later).mono fun other => List.mem_cons_of_mem _
  | case5 token name short =>
      rw [written_last short] at member
      obtain rfl := List.mem_singleton.mp member
      exact .inr ⟨token, List.mem_cons_self, name, short, rfl, .inl rfl⟩
  | case6 token rest plain induction =>
      rw [written_plain plain] at member
      exact (induction member).mono fun other => List.mem_cons_of_mem _

theorem mem_written_of_long {tokens : List (List Char)} {token name : List Char}
    {content : Option (List Char)} (member : token ∈ tokens)
    (long : role token = .long name content) :
    (.text (String.ofList name), flagValue content) ∈ (written tokens).2 := by
  induction tokens using written.induct with
  | case1 => cases member
  | case2 first rest otherName otherContent otherLong induction =>
      rw [written_long otherLong]
      rcases List.mem_cons.mp member with rfl | later
      · rw [long] at otherLong
        obtain ⟨rfl, rfl⟩ := Role.long.inj otherLong
        exact List.mem_cons_self
      · exact List.mem_cons_of_mem _ (induction later)
  | case3 first otherName short next following taken induction =>
      rw [written_taken short taken]
      rcases List.mem_cons.mp member with rfl | later
      · rw [long] at short
        cases short
      · rcases List.mem_cons.mp later with rfl | following
        · rw [canBeTaken_of_long long] at taken
          cases taken
        · exact List.mem_cons_of_mem _ (induction following)
  | case4 first otherName short next following left induction =>
      rw [written_left short left]
      rcases List.mem_cons.mp member with rfl | later
      · rw [long] at short
        cases short
      · exact List.mem_cons_of_mem _ (induction later)
  | case5 first otherName short =>
      obtain rfl := List.mem_singleton.mp member
      rw [long] at short
      cases short
  | case6 first rest plain induction =>
      rw [written_plain plain]
      rcases List.mem_cons.mp member with rfl | later
      · rw [long] at plain
        cases plain
      · exact induction later

theorem mem_written_of_plain {tokens : List (List Char)} {token : List Char}
    (noShort : ∀ other ∈ tokens, ∀ name, role other ≠ .short name) (member : token ∈ tokens)
    (plain : role token = .plain) : argument token ∈ (written tokens).1 := by
  induction tokens with
  | nil => cases member
  | cons first rest induction =>
      obtain ⟨here, later⟩ := List.forall_mem_cons.mp noShort
      cases firstRole : role first with
      | long name content =>
          rw [written_long firstRole]
          rcases List.mem_cons.mp member with rfl | among
          · rw [plain] at firstRole
            cases firstRole
          · exact induction later among
      | short name => exact absurd firstRole (here name)
      | plain =>
          rw [written_plain firstRole]
          rcases List.mem_cons.mp member with rfl | among
          · exact List.mem_cons_self
          · exact List.mem_cons_of_mem _ (induction later among)

end ChatDispatch.CommandLine
