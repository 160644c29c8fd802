import ChatDispatch.Table
import ChatDispatch.Value.Shift
import ChatDispatch.Value.Shown

/-!
# Values made anew

A value does not change with the numbers of its callables, but for these: it shows the same, and two
values are as equal as they were.
-/

namespace ChatDispatch

variable (offset : Nat)

theorem Callable.shift_injective {left right : Callable}
    (same : left.shift offset = right.shift offset) : left = right := by
  cases left
  cases right
  simpa [Callable.shift] using same

namespace Key

theorem shift_injective {left right : Key} (same : left.shift offset = right.shift offset) :
    left = right := by
  cases left <;> cases right <;> simp only [Key.shift, reduceCtorEq] at same ⊢
  case callable.callable =>
    exact congrArg _ (Callable.shift_injective offset (Key.callable.inj same))
  all_goals exact same

theorem shown_shift (key : Key) : (key.shift offset).shown = key.shown := by
  cases key <;> rfl

theorem canonical_shift (key : Key) :
    (key.shift offset).canonical = key.canonical.shift offset := by
  cases key with
  | float number =>
      simp only [Key.shift, canonical]
      cases number.integer? <;> rfl
  | _ => rfl

theorem notAfter_shift (left right : Key) :
    (left.shift offset).notAfter (right.shift offset) = left.notAfter right := by
  cases left <;> cases right
  case callable.callable left right =>
    have same : ((left.number + offset : Nat) : Int) = (right.number + offset : Nat) ↔
        (left.number : Int) = right.number := by omega
    have smaller : ((left.number + offset : Nat) : Int) < (right.number + offset : Nat) ↔
        (left.number : Int) < right.number := by omega
    simp only [Key.shift, notAfter, rank, Callable.shift, ne_eq, same, smaller]
    congr
  all_goals rfl

@[simp]
theorem beq_text_shift (key : Key) (name : String) :
    (key.shift offset == .text name) = (key == .text name) := by
  cases key <;> rfl

end Key

theorem Key.value_shift (key : Key) : (key.shift offset).value = key.value.shift offset := by
  cases key <;> rfl

namespace Value

theorem shiftEntries_eq_map (entries : Entries) :
    shiftEntries offset entries =
      entries.map fun entry => (entry.1.shift offset, entry.2.shift offset) := by
  induction entries with
  | nil => rfl
  | cons entry rest induction => rw [shiftEntries, induction, List.map_cons]

theorem shiftItems_eq_map (items : List Value) :
    shiftItems offset items = items.map (·.shift offset) := by
  induction items with
  | nil => rfl
  | cons item rest induction => rw [shiftItems, induction, List.map_cons]

@[simp]
theorem shift_null : null.shift offset = null := rfl

@[simp]
theorem shift_text (content : String) : (text content).shift offset = text content := rfl

@[simp]
theorem shift_list_nil : (list []).shift offset = list [] := rfl

theorem holds_shift (value : Value) : (value.shift offset).holds = value.holds := by
  cases value with
  | list items => cases items <;> rfl
  | map entries => cases entries <;> rfl
  | _ => rfl

theorem isCallable_shift (value : Value) :
    (value.shift offset).isCallable = value.isCallable := by
  cases value <;> rfl

theorem isNaN_shift (value : Value) : (value.shift offset).isNaN = value.isNaN := by
  cases value <;> rfl

theorem kind_shift (value : Value) : (value.shift offset).kind = value.kind := by
  cases value <;> rfl

theorem orElse_shift (value replacement : Value) :
    (value.orElse replacement).shift offset =
      (value.shift offset).orElse (replacement.shift offset) := by
  rw [orElse, orElse, holds_shift]
  split <;> rfl

mutual

theorem shown_shift : ∀ value : Value, (value.shift offset).shown = value.shown
  | .null | .bool _ | .int _ | .float _ | .text _ | .callable _ _ => rfl
  | .list items => by rw [shift, shown, shown, shownItems_shift items]
  | .map entries => by rw [shift, shown, shown, shownEntries_shift entries]

theorem shownItems_shift :
    ∀ items : List Value, shownItems (shiftItems offset items) = shownItems items
  | [] => rfl
  | item :: items => by
      rw [shiftItems, shownItems, shownItems, shown_shift item, shownItems_shift items]

theorem shownEntries_shift :
    ∀ entries : Entries, shownEntries (shiftEntries offset entries) = shownEntries entries
  | [] => rfl
  | (key, value) :: entries => by
      rw [shiftEntries, shownEntries, shownEntries, Key.shown_shift, shown_shift value,
        shownEntries_shift entries]

end

theorem asText_shift (value : Value) : (value.shift offset).asText = value.asText := by
  cases value with
  | text content => rfl
  | _ => exact shown_shift offset _

mutual

theorem shift_injective :
    ∀ left right : Value, left.shift offset = right.shift offset → left = right
  | .null, right => by cases right <;> simp [shift]
  | .bool _, right => by cases right <;> simp [shift]
  | .int _, right => by cases right <;> simp [shift]
  | .float _, right => by cases right <;> simp [shift]
  | .text _, right => by cases right <;> simp [shift]
  | .list items, right => by
      cases right <;> simp only [shift, reduceCtorEq, list.injEq, false_implies]
      exact shiftItems_injective items _
  | .map entries, right => by
      cases right <;> simp only [shift, reduceCtorEq, map.injEq, false_implies]
      exact shiftEntries_injective entries _
  | .callable content attributes, right => by
      cases right <;> simp only [shift, reduceCtorEq, callable.injEq, false_implies]
      exact fun ⟨same, others⟩ => ⟨Callable.shift_injective offset same,
        shiftEntries_injective attributes _ others⟩

theorem shiftItems_injective :
    ∀ left right : List Value, shiftItems offset left = shiftItems offset right → left = right
  | [], right => by cases right <;> simp [shiftItems]
  | item :: items, right => by
      cases right with
      | nil => simp [shiftItems]
      | cons other others =>
          simp only [shiftItems, List.cons.injEq]
          exact fun ⟨here, later⟩ =>
            ⟨shift_injective item other here, shiftItems_injective items others later⟩

theorem shiftEntries_injective :
    ∀ left right : Entries, shiftEntries offset left = shiftEntries offset right → left = right
  | [], right => by cases right <;> simp [shiftEntries]
  | (key, value) :: entries, right => by
      cases right with
      | nil => simp [shiftEntries]
      | cons other others =>
          obtain ⟨otherKey, otherValue⟩ := other
          simp only [shiftEntries, List.cons.injEq, Prod.mk.injEq]
          exact fun ⟨⟨keys, values⟩, later⟩ =>
            ⟨⟨Key.shift_injective offset keys, shift_injective value otherValue values⟩,
              shiftEntries_injective entries others later⟩

end

mutual

theorem canonical_shift :
    ∀ value : Value, (value.shift offset).canonical = value.canonical.shift offset
  | .null | .bool _ | .int _ | .text _ | .callable _ _ => rfl
  | .float number => by
      rw [shift, canonical]
      cases number.integer? <;> rfl
  | .list items => by rw [shift, canonical, canonical, shift, canonicalItems_shift items]
  | .map entries => by
      rw [shift, canonical, canonical, shift, canonicalEntries_shift entries, shiftEntries_eq_map,
        shiftEntries_eq_map, List.map_mergeSort]
      exact fun left _ right _ => (Key.notAfter_shift offset left.1 right.1).symm

theorem canonicalItems_shift :
    ∀ items : List Value,
      canonicalItems (shiftItems offset items) = shiftItems offset (canonicalItems items)
  | [] => rfl
  | item :: items => by
      rw [shiftItems, canonicalItems, canonicalItems, shiftItems, canonical_shift item,
        canonicalItems_shift items]

theorem canonicalEntries_shift :
    ∀ entries : Entries,
      canonicalEntries (shiftEntries offset entries) =
        shiftEntries offset (canonicalEntries entries)
  | [] => rfl
  | (key, value) :: entries => by
      rw [shiftEntries, canonicalEntries, canonicalEntries, shiftEntries, Key.canonical_shift,
        canonical_shift value, canonicalEntries_shift entries]

end

theorem equals_shift (left right : Value) :
    (left.shift offset).equals (right.shift offset) = left.equals right := by
  rw [equals, equals, isNaN_shift, alike, alike, canonical_shift, canonical_shift]
  congr 1
  exact decide_eq_decide.mpr ⟨shift_injective offset _ _, congrArg _⟩

theorem lookup_shiftEntries (name : String) (entries : Entries) :
    Table.lookup (Key.text name) (shiftEntries offset entries) =
      (Table.lookup (Key.text name) entries).map (·.shift offset) := by
  induction entries with
  | nil => rfl
  | cons entry rest induction =>
      simp only [shiftEntries, Table.lookup, Key.beq_text_shift]
      split
      · rfl
      · exact induction

end Value

end ChatDispatch
