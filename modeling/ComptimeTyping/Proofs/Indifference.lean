import ComptimeTyping.Proofs.Coherence
import ComptimeTyping.Proofs.Results

/-! Expressions that do not depend on what they are asked for. What is asked for goes down
through prefix and arithmetic operators, and arithmetic looks at it once more, but only if an
operand is marked. Where conversions, arrays, ranges and branches are not reached in this way,
nothing ever looks at it: the analysis does the same and ends in the same way, whatever is asked
for. What lies below a comparison, an index, a property or a call may be anything. -/

namespace ComptimeTyping

open Analysis

/-- Through prefix and arithmetic operators no conversion, array, range, block or conditional is
reached. -/
def Expr.isSelfContained : Expr → Bool
  | .prefixOp _ _ right => right.isSelfContained
  | .infixOp _ left operator right =>
      match InfixOp.ofSymbol? operator with
      | some (.arithmetic _) => left.isSelfContained && right.isSelfContained
      | _ => true
  | .conversion _ _ _ | .array _ _ | .range _ _ _ _ _ | .block _ _ | .conditional _ _ _ _ => false
  | _ => true

namespace Indifference

open Discipline

/-! ## Results -/

/-- Two sequences are the same if they go on in the same way with every result that their first
part can have. -/
theorem bind_congr {α β : Type} {first : Analysis α} {good : α → Prop}
    {next other : α → Analysis β} (yields : Coherence.Yields first good)
    (same : ∀ value, good value → next value = other value) :
    first >>= next = first >>= other := by
  ext state
  rw [run_bind, run_bind]
  cases started : first.run state with
  | error abort middle => rfl
  | ok value middle =>
      dsimp only
      rw [same value (yields.result started trivial)]

theorem unmarked_of_isSelfContained {expr : Expr} (ctx : Context) (target : Option Ty)
    (contained : expr.isSelfContained = true) :
    Coherence.Yields (expr.resolve ctx target) (·.explicit = false) := by
  cases bare : Results.isBare expr with
  | true => exact (Results.bare_of_isBare ctx target bare).mono fun _ bare => bare.unmarked
  | false =>
      cases expr with
      | ident name =>
          unfold Expr.resolve
          exact Results.yields_recorded _ (Results.unmarked_identifier name)
      | conversion | range | block | conditional => cases contained
      | _ => cases bare

/-! ## Arithmetic -/

/-- Arithmetic looks at what is asked for only beside a marked operand. -/
theorem arithmetic_congr (ctx : Context) (node : Node) (op : ArithOp) {left right : Resolved}
    (leftPlain : left.operand.explicit = false) (rightPlain : right.operand.explicit = false)
    (target other : Option Ty) :
    arithmetic ctx node op left right target = arithmetic ctx node op left right other := by
  have agreed : ∀ leftTag rightTag,
      arithmeticResult node left right leftTag rightTag target
        = arithmeticResult node left right leftTag rightTag other := by
    intro leftTag rightTag
    unfold arithmeticResult
    rw [leftPlain, rightPlain, Bool.or_false, if_neg Bool.false_ne_true,
      if_neg Bool.false_ne_true]
  unfold arithmetic combineNumbers
  simp only [agreed]

/-! ## Expressions -/

theorem resolve_congr (ctx : Context) (target other : Option Ty) : (expr : Expr) →
    expr.isSelfContained = true → expr.resolve ctx target = expr.resolve ctx other
  | .prefixOp node operator right => fun contained => by
      unfold Expr.resolve
      rw [resolve_congr ctx target other right contained]
  | .infixOp node left operator right => fun contained => by
      unfold Expr.resolve
      cases operation : InfixOp.ofSymbol? operator with
      | none => rfl
      | some op =>
          cases op with
          | comparison | logical => rfl
          | arithmetic op =>
              unfold Expr.isSelfContained at contained
              rw [operation, Bool.and_eq_true] at contained
              rcases contained with ⟨leftContained, rightContained⟩
              have leftSame := resolve_congr ctx (scalarHint target) (scalarHint other) left
                leftContained
              have rightSame := resolve_congr ctx (scalarHint target) (scalarHint other) right
                rightContained
              dsimp only [operandHint]
              rw [leftSame, rightSame]
              congr 1
              -- What is left is the rule, which looks at the target only beside a marker.
              apply bind_congr (unmarked_of_isSelfContained ctx _ leftContained)
              intro leftOperand leftPlain
              apply bind_congr (unmarked_of_isSelfContained ctx _ rightContained)
              intro rightOperand rightPlain
              exact arithmetic_congr ctx node op leftPlain rightPlain target other
  | .conversion _ _ _ | .array _ _ | .range _ _ _ _ _ | .block _ _ | .conditional _ _ _ _ => nofun
  | .missing | .int _ _ | .float _ _ | .bool _ _ | .string _ _ | .undef _ | .ident _
  | .index _ _ _ | .member _ _ _ | .call _ _ _ => fun _ => by
      unfold Expr.resolve
      rfl

end Indifference

/-- A self-contained expression is resolved in the same way whatever is asked for: from every
state the analysis gives the same operand, or stops for the same reason, and leaves the same
state behind, which has the notes, the reports and the symbol table. -/
theorem Expr.same_for_every_target {expr : Expr} (contained : expr.isSelfContained = true)
    (ctx : Context) (target other : Option Ty) (state : State) :
    (expr.resolve ctx target).run state = (expr.resolve ctx other).run state := by
  rw [Indifference.resolve_congr ctx target other expr contained]

namespace Sample

/-- An element of an array, picked by a block, times a negative number. -/
def scaled : Expr :=
  .infixOp (node 0)
    (.index (node 1) (.array (node 2) (.ofList [.int (node 3) "10", .int (node 4) "20"]))
      (.block (node 5) (branch 6 "1")))
    "*" (.prefixOp (node 8) "-" (.int (node 9) "3"))

def scaledEnd : State :=
  ((scaled.resolve (.start .strict .bits32) none).run (.ofTable .empty)).state

end Sample

theorem Expr.same_for_every_target_sample :
    Sample.scaled.isSelfContained = true ∧
    (Sample.scaled.resolve (.start .strict .bits32) (some (.scalar .i32))).run (.ofTable .empty)
      = .ok (.typed .comptimeInt) Sample.scaledEnd := by
  have contained : Sample.scaled.isSelfContained = true := rfl
  have alone : (Sample.scaled.resolve (.start .strict .bits32) none).run (.ofTable .empty)
      = .ok (.typed .comptimeInt) Sample.scaledEnd := rfl
  have same := Expr.same_for_every_target contained (.start .strict .bits32)
    (some (.scalar .i32)) none (.ofTable .empty)
  exact ⟨contained, same.trans alone⟩

end ComptimeTyping
