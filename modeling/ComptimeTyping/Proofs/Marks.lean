import Mathlib

/-! Texts in parts. A part ends at the first mark behind it, so texts that are equal have equal
parts as long as no part contains the mark that ends it. No mark but the sign occurs in the text
of an integer, and the text tells which integer it is. -/

namespace ComptimeTyping.Text

/-! ## Parts -/

/-- What stands before the first mark and what stands behind it are read off a text. -/
theorem append_mark_inj {α : Type} {mark : α} {left right leftRest rightRest : List α}
    (notLeft : mark ∉ left) (notRight : mark ∉ right) :
    left ++ mark :: leftRest = right ++ mark :: rightRest ↔
      left = right ∧ leftRest = rightRest := by
  induction left generalizing right with
  | nil =>
      cases right with
      | nil => simp
      | cons first right =>
          have different : mark ≠ first := fun same => notRight (same ▸ List.mem_cons_self)
          simp [different]
  | cons first left induction =>
      have other : mark ∉ left := fun member => notLeft (List.mem_cons_of_mem first member)
      cases right with
      | nil =>
          have different : first ≠ mark := fun same => notLeft (same ▸ List.mem_cons_self)
          simp [different]
      | cons second right =>
          have another : mark ∉ right := fun member =>
            notRight (List.mem_cons_of_mem second member)
          simp only [List.cons_append, List.cons.injEq, induction other another, and_assoc]

/-! ## Numbers -/

theorem toString_int_inj {left right : Int} : toString left = toString right ↔ left = right := by
  rw [Int.toString_eq_repr, Int.toString_eq_repr, Int.repr_inj]

theorem isDigit_of_mem_repr {value : Nat} {char : Char} (member : char ∈ value.repr.toList) :
    char.isDigit = true := by
  rw [Nat.toList_repr] at member
  exact Nat.isDigit_of_mem_toDigits (by decide) (by decide) member

theorem not_mem_toString_int {mark : Char} (noDigit : mark.isDigit = false) (noSign : mark ≠ '-')
    (value : Int) : mark ∉ (toString value).toList := by
  have noPart : ∀ size : Nat, mark ∉ size.repr.toList := by
    intro size member
    rw [isDigit_of_mem_repr member] at noDigit
    cases noDigit
  intro member
  rw [Int.toString_eq_repr, Int.repr_eq_if] at member
  split at member
  · exact noPart _ member
  · rw [String.toList_append, List.mem_append] at member
    rcases member with sign | digits
    · exact noSign (List.mem_singleton.mp sign)
    · exact noPart _ digits

end ComptimeTyping.Text
