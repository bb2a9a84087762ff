import Mathlib.Order.Bounds.Basic
import ComptimeTyping.Proofs.JoinedValues

/-! Tags in the order of what may stand for what. Two tags agree on their least upper bound, so
what many of them agree on is the least upper bound of their set, in whatever order they come. -/

namespace ComptimeTyping

open Analysis

namespace Tag

variable {left right joined upper tag : Tag}

theorem resolve_comm_of_ok (agreed : left.resolve right false = .ok joined) :
    right.resolve left false = .ok joined := by
  cases left <;> cases right <;> first | exact agreed | cases agreed

theorem Adapts.antisymm (first : left.Adapts right) (second : right.Adapts left) :
    left = right := by
  have agreed := resolve_comm_of_ok first
  rw [second] at agreed
  cases agreed
  rfl

/-- A tag is below the tags that a value of it may stand for. -/
instance : PartialOrder Tag where
  le := Adapts
  le_refl := Adapts.refl
  le_trans _ _ _ := Adapts.trans
  le_antisymm _ _ := Adapts.antisymm

theorem eq_of_le_of_concrete (below : left ≤ right) (concrete : left.isComptime = false) :
    right = left :=
  Adapts.eq_of_concrete below concrete

/-! ## Two tags -/

theorem resolve_comptime (comptime : left.isComptime = true)
    (rightComptime : right.isComptime = true) :
    left.resolve right false = .ok left ∨ left.resolve right false = .ok right := by
  cases left <;> cases comptime <;> cases right <;> cases rightComptime <;> decide

/-- Tags with an upper bound agree on a tag below it. -/
theorem exists_resolve_of_le (first : left ≤ upper) (second : right ≤ upper) :
    ∃ joined, left.resolve right false = .ok joined ∧ joined ≤ upper := by
  cases leftKind : left.isComptime with
  | false =>
      obtain rfl := eq_of_le_of_concrete first leftKind
      exact ⟨upper, resolve_comm_of_ok second, le_refl upper⟩
  | true =>
      cases rightKind : right.isComptime with
      | false =>
          obtain rfl := eq_of_le_of_concrete second rightKind
          exact ⟨upper, first, le_refl upper⟩
      | true =>
          rcases resolve_comptime leftKind rightKind with agreed | agreed
          · exact ⟨left, agreed, first⟩
          · exact ⟨right, agreed, second⟩

theorem le_iff_of_resolve (agreed : left.resolve right false = .ok joined) :
    joined ≤ upper ↔ left ≤ upper ∧ right ≤ upper := by
  have bounds := adapts_of_resolve agreed
  constructor
  · intro below
    exact ⟨bounds.1.trans below, bounds.2.trans below⟩
  · intro ⟨first, second⟩
    obtain ⟨other, same, below⟩ := exists_resolve_of_le first second
    rw [agreed] at same
    cases same
    exact below

/-! ## Many tags -/

theorem isLUB_singleton_iff : IsLUB {joined} tag ↔ joined = tag := by
  constructor
  · intro least
    exact isLUB_singleton.unique least
  · rintro rfl
    exact isLUB_singleton

/-- What two tags agree on may take their place among others. -/
theorem isLUB_insert_of_resolve {tags : Set Tag} (agreed : left.resolve right false = .ok joined) :
    IsLUB (insert joined tags) tag ↔ IsLUB (insert left (insert right tags)) tag := by
  have same : upperBounds (insert joined tags) = upperBounds (insert left (insert right tags)) := by
    ext upper
    simp only [upperBounds_insert, Set.mem_inter_iff, Set.mem_Ici, le_iff_of_resolve agreed,
      and_assoc]
  rw [IsLUB, same, IsLUB]

theorem not_isLUB_of_resolve {tags : Set Tag} {failure : CoercionFailure}
    (failed : left.resolve right false = .error failure) :
    ¬IsLUB (insert left (insert right tags)) tag := by
  intro least
  have first : left ≤ tag := least.1 (Set.mem_insert _ _)
  have second : right ≤ tag := least.1 (Set.mem_insert_of_mem _ (Set.mem_insert _ _))
  obtain ⟨joined, agreed, _⟩ := exists_resolve_of_le first second
  rw [failed] at agreed
  cases agreed

end Tag

/-! ## The tags of operands -/

namespace Analysis

/-- The tags of operands, or of what they are made of. -/
def elementTags (operands : List Resolved) : Set Tag :=
  {tag | ∃ operand ∈ operands, operand.type.elementTag = tag}

@[simp] theorem elementTags_nil : elementTags [] = ∅ := by
  simp [elementTags]

@[simp] theorem elementTags_cons (operand : Resolved) (operands : List Resolved) :
    elementTags (operand :: operands) = insert operand.type.elementTag (elementTags operands) := by
  ext tag
  simp [elementTags, eq_comm]

theorem elementTags_perm {operands others : List Resolved} (same : operands.Perm others) :
    elementTags operands = elementTags others := by
  ext tag
  simp [elementTags, same.mem_iff]

end Analysis

end ComptimeTyping
