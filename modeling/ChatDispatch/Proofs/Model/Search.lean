import ChatDispatch.Model.Search
import ChatDispatch.Proofs.Table

/-!
# What a search for models finds

A search goes through the names of the models, and on demand through those of the catalogue, which
are sorted before.  Sorting only rearranges names, and a text that comes up several times stays
(`text_mem_sortedSet_iff`).  So if a term occurs in any of the names, then those in which it occurs
are found, each one once and in increasing order.
-/

namespace ChatDispatch

namespace Value

theorem eq_text_of_alike {content : String} {value : Value}
    (alike : (Value.text content).alike value = true) : value = .text content := by
  rw [alike_iff, canonical] at alike
  cases value with
  | text other => exact alike.symm
  | float number =>
      rw [canonical] at alike
      split at alike <;> cases alike
  | _ => cases alike

theorem text_mem_eraseDups_iff {content : String} {values : List Value} :
    .text content ∈ values.eraseDups ↔ .text content ∈ values := by
  induction counted : values.length using Nat.strongRecOn generalizing values with
  | ind size induction =>
      cases values with
      | nil => simp
      | cons first rest =>
          have fewer : (rest.filter fun value => !value == first).length < size := by
            rw [← counted]
            exact Nat.lt_succ_of_le (List.length_filter_le _ rest)
          rw [List.eraseDups_cons, List.mem_cons, List.mem_cons, induction _ fewer rfl,
            List.mem_filter]
          constructor
          · exact Or.imp_right And.left
          · rintro (same | member)
            · exact .inl same
            · cases alike : Value.text content == first with
              | true => exact .inl (eq_text_of_alike alike).symm
              | false => exact .inr ⟨member, rfl⟩

/-- A text is in a sorted set exactly if it is among the values that make it up. -/
theorem text_mem_sortedSet_iff {values found : List Value} (sorted : sortedSet values = .ok found)
    {content : String} : .text content ∈ found ↔ .text content ∈ values := by
  unfold sortedSet at sorted
  split at sorted
  · cases sorted
  · rw [(Sorting.sort_perm sorted).mem_iff, text_mem_eraseDups_iff]

end Value

namespace Model

/-- A name is one of a model, or on demand one of a chat model in the catalogue. -/
inductive Offers (models : List Model) (catalogue : Entries) (all : Bool) (name : String) :
    Prop where
  | model {model : Model} (member : model ∈ models) (named : model.name = .text name)
  | chat {names : List Value} (wanted : all = true) (listed : catalogueNames catalogue = .ok names)
      (member : .text name ∈ names)

def Occurs (term name : String) : Prop :=
  occursIn (Text.lower term).toList (Text.lower name).toList = true

variable {models : List Model} {catalogue : Entries} {all : Bool} {term : String}

theorem mem_texts_iff {values : List Value} {texts : List String}
    (read : textNames values = .ok texts) {name : String} :
    name ∈ texts ↔ .text name ∈ values := by
  induction values generalizing texts with
  | nil =>
      cases read
      simp
  | cons first rest induction =>
      cases first with
      | text content =>
          rw [textNames] at read
          obtain ⟨names, others, rfl⟩ := Sorting.exists_of_map_eq_ok read
          rw [List.mem_cons, List.mem_cons, induction others, Value.text.injEq]
      | _ => cases read

theorem exists_of_bind_eq_ok {ε α β : Type} {outcome : Except ε α} {next : α → Except ε β}
    {result : β} (done : outcome.bind next = .ok result) :
    ∃ value, outcome = .ok value ∧ next value = .ok result := by
  cases outcome with
  | error fault => cases done
  | ok value => exact ⟨value, rfl, done⟩

theorem text_mem_chatModels_iff {values : List Value}
    (found : chatModels catalogue = .ok values) {name : String} :
    .text name ∈ values ↔ ∃ names, catalogueNames catalogue = .ok names ∧ .text name ∈ names := by
  obtain ⟨names, listed, sorted⟩ := exists_of_bind_eq_ok found
  rw [Value.text_mem_sortedSet_iff sorted]
  constructor
  · exact fun member => ⟨names, listed, member⟩
  · rintro ⟨_, again, member⟩
    obtain rfl := Except.ok.inj (listed.symm.trans again)
    exact member

theorem text_mem_candidates_iff {values : List Value}
    (found : candidates models catalogue all = .ok values) {name : String} :
    .text name ∈ values ↔ Offers models catalogue all name := by
  have ofModels : .text name ∈ models.map (·.name) ↔ ∃ model ∈ models, model.name = .text name :=
    List.mem_map
  unfold candidates at found
  cases all with
  | false =>
      obtain rfl := Except.ok.inj found
      rw [ofModels]
      constructor
      · rintro ⟨model, member, named⟩
        exact .model member named
      · rintro (⟨member, named⟩ | ⟨wanted, -, -⟩)
        · exact ⟨_, member, named⟩
        · cases wanted
  | true =>
      simp only [if_true] at found
      split at found
      · cases found
      · obtain ⟨further, chat, sorted⟩ := exists_of_bind_eq_ok found
        rw [Value.text_mem_sortedSet_iff sorted, List.mem_append, ofModels,
          text_mem_chatModels_iff chat]
        constructor
        · rintro (⟨model, member, named⟩ | ⟨names, listed, member⟩)
          · exact .model member named
          · exact .chat rfl listed member
        · rintro (⟨member, named⟩ | ⟨-, listed, member⟩)
          · exact .inl ⟨_, member, named⟩
          · exact .inr ⟨_, listed, member⟩

theorem mem_sortedSet {texts : List String} {name : String} :
    name ∈ sortedSet texts ↔ name ∈ texts := by
  rw [sortedSet, List.mem_mergeSort, List.mem_eraseDups]

/-- If a term occurs in any of the names, then a search gives those in which it occurs, each one
once and in increasing order. -/
theorem search_finds_occurrences {names : List String}
    (found : search models catalogue term all = .ok names)
    (occurs : ∃ name, Offers models catalogue all name ∧ Occurs term name) :
    names.Pairwise (· < ·) ∧
      ∀ name, name ∈ names ↔ Offers models catalogue all name ∧ Occurs term name := by
  unfold search at found
  obtain ⟨texts, named, rfl⟩ := Sorting.exists_of_map_eq_ok found
  obtain ⟨values, offered, read⟩ := exists_of_bind_eq_ok named
  have among (name : String) :
      name ∈ texts.filter (fun name =>
          occursIn (Text.lower term).toList (Text.lower name).toList) ↔
        Offers models catalogue all name ∧ Occurs term name := by
    rw [List.mem_filter, mem_texts_iff read, text_mem_candidates_iff offered]
    rfl
  unfold matching
  dsimp only
  split
  · rename_i none
    obtain ⟨name, matched⟩ := occurs
    rw [← among, none] at matched
    cases matched
  · refine ⟨Table.pairwise_mergeSort_eraseDups _, fun name => ?_⟩
    rw [mem_sortedSet, among]

end Model

end ChatDispatch
