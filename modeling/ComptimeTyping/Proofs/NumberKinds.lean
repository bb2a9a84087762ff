import ComptimeTyping.Proofs.Conversions
import ComptimeTyping.Proofs.FloatSteps
import ComptimeTyping.Proofs.Joins

/-! Whether arithmetic on numbers gives an integer or a float. The type of a result has three
sources: comptime operands are promoted, operands without a marker agree, and beside a marked
operand a number that is asked for is chosen before the type of the operand. Division gives a
float from all of them. Integer division and the remainder check their operands, and not what
is chosen: beside a marked operand they give the float that is asked for. A float literal keeps
its fraction in arithmetic; in a comparison that is not checked. -/

namespace ComptimeTyping

open Analysis

/-! ## Tags -/

namespace Tag

theorem isFloat_of_numeric {tag : Tag} (numeric : tag.isNumeric = true)
    (notInteger : tag.isInteger = false) : tag.isFloat = true := by
  rw [isNumeric, notInteger, Bool.false_or] at numeric
  exact numeric

theorem isInteger_of_numeric {tag : Tag} (numeric : tag.isNumeric = true)
    (notFloat : tag.isFloat = false) : tag.isInteger = true := by
  rw [isNumeric, notFloat, Bool.or_false] at numeric
  exact numeric

theorem isFloat_of_adapts {tag : Tag} (adapts : Tag.comptimeFloat.Adapts tag) :
    tag.isFloat = true := by
  rcases adapts_iff.mp adapts with rfl | adapts | ⟨differs, _⟩
  · rfl
  · exact (Bool.and_eq_true_iff.mp adapts).1
  · cases differs

theorem promote_of_integers {left right : Tag} (leftInteger : left.isFloat = false)
    (rightInteger : right.isFloat = false) : left.promote right = .comptimeInt := by
  unfold promote
  split
  · next either =>
      rcases either with rfl | rfl
      · cases leftInteger
      · cases rightInteger
  · rfl

/-- What a float literal is compared with. -/
theorem kind_of_resolve {other tag : Tag} {explicit : Bool}
    (resolved : Tag.comptimeFloat.resolve other explicit = .ok tag ∨
      other.resolve .comptimeFloat explicit = .ok tag) :
    other.isFloat = true ∨ other = .comptimeInt ∨ other.isInteger = true ∧ explicit = true := by
  cases other <;> cases explicit <;> first
    | exact .inl rfl
    | exact .inr (.inl rfl)
    | exact .inr (.inr ⟨rfl, rfl⟩)
    | rcases resolved with resolved | resolved <;> cases resolved

end Tag

theorem Ty.eq_scalar_of_scalarTag? {type : Ty} {tag : Tag} (found : type.scalarTag? = some tag) :
    type = .scalar tag := by
  cases type with
  | scalar => rw [Option.some.inj found]
  | _ => cases found

namespace NumberKinds

open Discipline

/-- The second pair is the first one, in one order or the other. -/
inductive Sides {α : Type} (left right : α) : α → α → Prop
  | leftFirst : Sides left right left right
  | rightFirst : Sides left right right left

theorem Sides.map {α β : Type} {left right first second : α}
    (sides : Sides left right first second) (transform : α → β) :
    Sides (transform left) (transform right) (transform first) (transform second) := by
  cases sides with
  | leftFirst => exact .leftFirst
  | rightFirst => exact .rightFirst

/-! ## The type of a result -/

/-- A float literal that is not marked does not become an integer. -/
def KeepsFraction (operand : Operand) (result : Tag) : Prop :=
  operand.type = .comptimeFloat → operand.explicit = false → result.isInteger = false

/-- Where the type of an arithmetic expression comes from. -/
inductive Source (op : ArithOp) (left right : Operand) (leftTag rightTag : Tag)
    (target : Option Ty) : Tag → Prop
  | promoted (comptime : leftTag.isComptime = true ∧ rightTag.isComptime = true) :
      Source op left right leftTag rightTag target
        (if op = .div then .comptimeFloat else leftTag.promote rightTag)
  | agreed {tag : Tag} (plain : left.explicit = false ∧ right.explicit = false)
      (resolved : leftTag.resolve rightTag false = .ok tag) :
      Source op left right leftTag rightTag target tag
  | chosen (marked : left.explicit = true ∨ right.explicit = true)
      (leftKept : KeepsFraction left (explicitResult left right leftTag rightTag target))
      (rightKept : KeepsFraction right (explicitResult left right leftTag rightTag target)) :
      Source op left right leftTag rightTag target
        (explicitResult left right leftTag rightTag target)

/-- Two numbers of the given tags are combined to a number of another tag. -/
structure Combination (op : ArithOp) (left right : Operand) (target : Option Ty)
    (leftTag rightTag tag : Tag) : Prop where
  leftType : left.type = .scalar leftTag
  rightType : right.type = .scalar rightTag
  leftNumeric : leftTag.isNumeric = true
  rightNumeric : rightTag.isNumeric = true
  /-- Only integers are divided as integers. -/
  integers : op = .intDiv ∨ op = .rem → leftTag.isFloat = false ∧ rightTag.isFloat = false
  divides : op = .div → tag.isInteger = false
  source : Source op left right leftTag rightTag target tag

theorem explicitResult_cases {left right : Operand} {leftTag rightTag tag : Tag}
    {target : Option Ty} (chosen : explicitResult left right leftTag rightTag target = tag) :
    tag = leftTag ∨ tag = rightTag ∨
      target = some (.scalar tag) ∧ tag.isNumeric = true ∧ tag.isConcrete = true := by
  unfold explicitResult at chosen
  split at chosen
  · next asked found =>
      subst chosen
      rcases Option.filter_eq_some_iff.mp found with ⟨scalar, number⟩
      rcases Option.bind_eq_some_iff.mp scalar with ⟨type, rfl, tagged⟩
      rw [Ty.eq_scalar_of_scalarTag? tagged]
      exact .inr (.inr ⟨rfl, Bool.and_eq_true_iff.mp number⟩)
  · repeat' split at chosen
    all_goals first
      | exact .inl chosen.symm
      | exact .inr (.inl chosen.symm)

namespace Combination

variable {op : ArithOp} {left right : Operand} {target : Option Ty}
  {leftTag rightTag tag : Tag}

theorem numeric (combined : Combination op left right target leftTag rightTag tag) :
    tag.isNumeric = true := by
  cases combined.source with
  | promoted =>
      split
      · rfl
      · unfold Tag.promote
        split <;> rfl
  | agreed _ resolved =>
      exact Tag.isNumeric_resolve combined.leftNumeric combined.rightNumeric resolved
  | chosen =>
      rcases explicitResult_cases rfl with left | right | ⟨_, numeric, _⟩
      · rw [left]
        exact combined.leftNumeric
      · rw [right]
        exact combined.rightNumeric
      · exact numeric

theorem isFloat_of_div (combined : Combination op left right target leftTag rightTag tag)
    (division : op = .div) : tag.isFloat = true :=
  Tag.isFloat_of_numeric combined.numeric (combined.divides division)

/-- Integers divided as integers give an integer, or the float that is asked for beside a
marked operand. -/
theorem isInteger_or_asked
    (combined : Combination op left right target leftTag rightTag tag)
    (division : op = .intDiv ∨ op = .rem) :
    tag.isInteger = true ∨
      tag.isFloat = true ∧ tag.isConcrete = true ∧ target = some (.scalar tag) ∧
        (left.explicit = true ∨ right.explicit = true) := by
  rcases combined.integers division with ⟨leftInteger, rightInteger⟩
  cases float : tag.isFloat with
  | false => exact .inl (Tag.isInteger_of_numeric combined.numeric float)
  | true =>
      refine .inr ⟨rfl, ?_⟩
      cases combined.source with
      | promoted =>
          have notFloat : op ≠ .div := by
            rintro rfl
            rcases division with division | division <;> cases division
          rw [if_neg notFloat, Tag.promote_of_integers leftInteger rightInteger] at float
          cases float
      | agreed _ resolved =>
          rcases (FloatSteps.isFloat_of_resolve resolved).mp float with leftFloat | rightFloat
          · rw [leftInteger] at leftFloat
            cases leftFloat
          · rw [rightInteger] at rightFloat
            cases rightFloat
      | chosen marked =>
          -- The operands are integers, so a float can only come from the target.
          rcases explicitResult_cases rfl with left | right | ⟨asked, _, concrete⟩
          · rw [left, leftInteger] at float
            cases float
          · rw [right, rightInteger] at float
            cases float
          · exact ⟨concrete, asked, marked⟩

/-- With a float literal that is not marked the result is a float. -/
theorem isFloat_of_literal
    (combined : Combination op left right target leftTag rightTag tag) {literal other : Operand}
    (sides : Sides left right literal other) (type : literal.type = .comptimeFloat)
    (plain : literal.explicit = false) : tag.isFloat = true := by
  have tagged : leftTag = .comptimeFloat ∨ rightTag = .comptimeFloat := by
    cases sides with
    | leftFirst =>
        rw [combined.leftType] at type
        exact .inl (Ty.scalar.inj type)
    | rightFirst =>
        rw [combined.rightType] at type
        exact .inr (Ty.scalar.inj type)
  cases combined.source with
  | promoted =>
      rw [Tag.promote, if_pos tagged, ite_self]
      rfl
  | agreed _ resolved =>
      rcases Tag.adapts_of_resolve resolved with ⟨leftAdapts, rightAdapts⟩
      rcases tagged with rfl | rfl
      · exact Tag.isFloat_of_adapts leftAdapts
      · exact Tag.isFloat_of_adapts rightAdapts
  | chosen _ leftKept rightKept =>
      apply Tag.isFloat_of_numeric combined.numeric
      cases sides with
      | leftFirst => exact leftKept type plain
      | rightFirst => exact rightKept type plain

end Combination

/-! ## Arithmetic -/

section Rules

variable {discipline : Discipline}

theorem yields_keepsFraction (source : Resolved) (result : Tag) :
    discipline.Yields (keepsFraction source result) fun kept =>
      kept = true → KeepsFraction source.operand result := by
  unfold keepsFraction
  split
  · next literal =>
      rcases literal with ⟨type, _, integer⟩
      rw [type]
      split
      · exact .after fun _ => .pure nofun
      · next assigned =>
          -- No integer takes a float literal without a marker.
          cases result <;> cases integer <;> cases assigned
  · next other =>
      refine .pure fun _ type plain => ?_
      cases integer : result.isInteger with
      | false => rfl
      | true => exact absurd ⟨type, ne_true_of_eq_false plain, integer⟩ other

theorem yields_arithmeticResult (node : Node) (op : ArithOp) (left right : Resolved)
    (leftTag rightTag : Tag) (target : Option Ty) :
    discipline.Yields (arithmeticResult node left right leftTag rightTag target) fun result =>
      ∀ tag, result = some tag →
        Source op left.operand right.operand leftTag rightTag target tag := by
  unfold arithmeticResult
  split
  · next marked =>
      rw [Bool.or_eq_true] at marked
      dsimp only
      apply (yields_keepsFraction left _).bind
      intro leftKept leftKeeps
      split
      · exact .pure nofun
      · next leftFits =>
          rw [Bool.not_eq_true, Bool.not_eq_false'] at leftFits
          apply (yields_keepsFraction right _).bind
          intro rightKept rightKeeps
          split
          · exact .pure nofun
          · next rightFits =>
              rw [Bool.not_eq_true, Bool.not_eq_false'] at rightFits
              refine .pure ?_
              rintro _ ⟨⟩
              exact .chosen marked (leftKeeps leftFits) (rightKeeps rightFits)
  · next unmarked =>
      rw [Bool.not_eq_true, Bool.or_eq_false_iff] at unmarked
      split
      · next resolved =>
          refine .pure ?_
          rintro _ ⟨⟩
          exact .agreed unmarked resolved
      · exact .after fun _ => .pure nofun

/-- A result of arithmetic that is not unknown. -/
def Combined (op : ArithOp) (left right : Operand) (target : Option Ty) (result : Operand) :
    Prop :=
  result.isUnknown = false → ∃ leftTag rightTag tag,
    Combination op left right target leftTag rightTag tag ∧ result.type = .scalar tag

theorem combined_refuse {op : ArithOp} {left right : Operand} {target : Option Ty}
    (position : Position) (finding : Finding) :
    discipline.Yields (refuse position finding) (Combined op left right target) :=
  .after fun _ => .pure nofun

theorem type_foldComptime (op : ArithOp) (left right : Resolved) (leftTag rightTag : Tag) :
    discipline.Yields (foldComptime op left right leftTag rightTag) fun result =>
      result.isUnknown = false →
        result.type = .scalar (if op = .div then .comptimeFloat else leftTag.promote rightTag) := by
  unfold foldComptime
  dsimp only
  split
  · split
    · exact .stop _
    · exact .pure fun _ => rfl
    · split
      · exact .after fun _ => .pure nofun
      · exact .pure fun _ => rfl
  · exact .pure fun _ => rfl

theorem combined_combineNumbers (ctx : Context) (node : Node) (op : ArithOp)
    {left right : Resolved} {leftTag rightTag : Tag} (leftType : left.type = .scalar leftTag)
    (rightType : right.type = .scalar rightTag) (leftNumeric : leftTag.isNumeric = true)
    (rightNumeric : rightTag.isNumeric = true) (target : Option Ty) :
    discipline.Yields (combineNumbers ctx node op left right leftTag rightTag target)
      (Combined op left.operand right.operand target) := by
  unfold combineNumbers
  split
  · exact combined_refuse _ _
  · next allowed =>
      have integers : op = .intDiv ∨ op = .rem →
          leftTag.isFloat = false ∧ rightTag.isFloat = false := by
        intro division
        rw [not_and, not_or, Bool.not_eq_true, Bool.not_eq_true] at allowed
        exact allowed division
      split
      · next comptime =>
          apply (type_foldComptime op left right leftTag rightTag).mono
          intro result typed known
          have divides : op = .div → (if op = .div then Tag.comptimeFloat
              else leftTag.promote rightTag).isInteger = false := by
            intro division
            rw [if_pos division]
            rfl
          exact ⟨leftTag, rightTag, _, ⟨leftType, rightType, leftNumeric, rightNumeric, integers,
            divides, .promoted comptime⟩, typed known⟩
      · apply (yields_arithmeticResult node op left right leftTag rightTag target).bind
        intro result source
        split
        · exact .pure nofun
        · next tag =>
            apply Yields.guarded
            apply Yields.guarded
            split
            · exact combined_refuse _ _
            · next divides =>
                rw [not_and, Bool.not_eq_true] at divides
                refine .pure fun _ => ⟨leftTag, rightTag, tag, ?_, rfl⟩
                exact ⟨leftType, rightType, leftNumeric, rightNumeric, integers, divides,
                  source tag rfl⟩

theorem combined_arithmetic (ctx : Context) (node : Node) (op : ArithOp)
    (left right : Resolved) (target : Option Ty) :
    discipline.Yields (arithmetic ctx node op left right target)
      (Combined op left.operand right.operand target) := by
  unfold arithmetic
  split
  · exact .pure nofun
  · split
    · next leftTag rightTag leftFound rightFound =>
        rcases Option.filter_eq_some_iff.mp leftFound with ⟨leftTagged, leftNumeric⟩
        rcases Option.filter_eq_some_iff.mp rightFound with ⟨rightTagged, rightNumeric⟩
        exact combined_combineNumbers _ _ _ (Ty.eq_scalar_of_scalarTag? leftTagged)
          (Ty.eq_scalar_of_scalarTag? rightTagged) leftNumeric rightNumeric _
    · exact combined_refuse _ _
    · exact combined_refuse _ _

end Rules

/-! ## Beside a float literal -/

section Clean

variable {left right literal other : Resolved}

/-- Where nothing is reported, scalars are compared that agree under their markers. -/
theorem agreed_comparison (ctx : Context) (node : Node) (operator : String) (ordered : Bool)
    (leftSettled : left.type.Settled) (rightSettled : right.type.Settled) :
    Clean.Yields (comparison ctx node operator ordered left right) fun _ =>
      ∃ leftTag rightTag tag, left.type = .scalar leftTag ∧ right.type = .scalar rightTag ∧
        leftTag.resolve rightTag (left.operand.explicit || right.operand.explicit) = .ok tag := by
  unfold comparison
  split
  · split
    · next leftTag rightTag leftFound rightFound =>
        have agreed : Clean.Yields
            (compareScalars ctx node operator ordered left right leftTag rightTag) fun _ =>
            ∃ tag, leftTag.resolve rightTag
              (left.operand.explicit || right.operand.explicit) = .ok tag := by
          unfold compareScalars
          split
          · exact .report _ _ fun faulted => absurd faulted Clean.not_faulted
          · split
            · exact .report _ _ fun faulted => absurd faulted Clean.not_faulted
            · next tag resolved => exact ⟨fun _ _ => ⟨tag, resolved⟩⟩
        apply agreed.bind
        rintro _ ⟨tag, resolved⟩
        exact .pure ⟨leftTag, rightTag, tag, Ty.eq_scalar_of_scalarTag? leftFound,
          Ty.eq_scalar_of_scalarTag? rightFound, resolved⟩
    · exact Clean.reported _ _ _
  · next unknown =>
      have known := leftSettled.neither_unknown rightSettled
      rw [Bool.not_eq_true, Bool.not_eq_false'] at unknown
      exact absurd unknown known

/-- Where nothing is reported, arithmetic with a float literal gives a float. -/
theorem float_beside_literal (ctx : Context) (node : Node) (op : ArithOp) (target : Option Ty)
    (leftSettled : left.type.Settled) (rightSettled : right.type.Settled)
    (sides : Sides left right literal other) (type : literal.type = .comptimeFloat)
    (plain : literal.operand.explicit = false) :
    Clean.Yields (arithmetic ctx node op left right target) fun result =>
      ∃ tag, result.type = .scalar tag ∧ tag.isFloat = true where
  result run quiet := by
    have settled := Clean.settled_arithmetic ctx node op target leftSettled rightSettled
    have known := (settled.result run quiet).isUnknown
    have combines : Clean.Yields _ _ := combined_arithmetic ctx node op left right target
    rcases combines.result run quiet known with ⟨_, _, tag, combined, typed⟩
    exact ⟨tag, typed, combined.isFloat_of_literal (sides.map Resolved.operand) type plain⟩

/-- Where nothing is reported, a float literal is compared with a float, with a literal or with
a conversion. -/
theorem kind_beside_literal (ctx : Context) (node : Node) (operator : String) (ordered : Bool)
    (leftSettled : left.type.Settled) (rightSettled : right.type.Settled)
    (sides : Sides left right literal other) (type : literal.type = .comptimeFloat)
    (plain : literal.operand.explicit = false) :
    Clean.Yields (comparison ctx node operator ordered left right) fun _ =>
      ∃ tag, other.type = .scalar tag ∧
        (tag.isFloat = true ∨ tag = .comptimeInt ∨
          tag.isInteger = true ∧ other.operand.explicit = true) := by
  apply (agreed_comparison ctx node operator ordered leftSettled rightSettled).mono
  rintro _ ⟨leftTag, rightTag, tag, leftType, rightType, resolved⟩
  cases sides with
  | leftFirst =>
      obtain rfl : leftTag = .comptimeFloat := Ty.scalar.inj (leftType.symm.trans type)
      rw [plain, Bool.false_or] at resolved
      exact ⟨rightTag, rightType, Tag.kind_of_resolve (.inl resolved)⟩
  | rightFirst =>
      obtain rfl : rightTag = .comptimeFloat := Ty.scalar.inj (rightType.symm.trans type)
      rw [plain, Bool.or_false] at resolved
      exact ⟨leftTag, leftType, Tag.kind_of_resolve (.inr resolved)⟩

end Clean

end NumberKinds

/-! ## Expressions -/

/-- Two expressions that are resolved one after the other. -/
structure OperandPair (ctx : Context) (hint : Option Ty) (left right : Expr) (before : State) where
  leftOperand : Operand
  leftEnd : State
  rightOperand : Operand
  rightEnd : State
  leftRun : (left.resolve ctx hint).run before = .ok leftOperand leftEnd
  rightRun : (right.resolve ctx hint).run leftEnd = .ok rightOperand rightEnd

namespace OperandPair

variable {ctx : Context} {hint : Option Ty} {left right : Expr} {before : State}

def resolvedLeft (pair : OperandPair ctx hint left right before) : Resolved :=
  ⟨left.node, pair.leftOperand⟩

def resolvedRight (pair : OperandPair ctx hint left right before) : Resolved :=
  ⟨right.node, pair.rightOperand⟩

def IsMarked (pair : OperandPair ctx hint left right before) : Prop :=
  pair.leftOperand.explicit = true ∨ pair.rightOperand.explicit = true

end OperandPair

section Expressions

open NumberKinds

variable {ctx : Context} {target : Option Ty} {node : Node} {left right : Expr}
  {operator : String} {before after : State} {operand : Operand}

/-- The operands of an operator are resolved and then combined. -/
theorem Expr.exists_of_infix {op : InfixOp} (operation : InfixOp.ofSymbol? operator = some op)
    (run : ((Expr.infixOp node left operator right).resolve ctx target).run before
      = .ok operand after) :
    ∃ (pair : OperandPair ctx (operandHint op target) left right before) (middle : State),
      (infixed ctx node operator op pair.resolvedLeft pair.resolvedRight target).run pair.rightEnd
        = .ok operand middle ∧ middle.GrowsTo after := by
  unfold Expr.resolve at run
  rcases exists_of_run_recorded run with ⟨middle, resolved, grows, _⟩
  rw [operation] at resolved
  rcases run_bind_eq_ok.mp resolved with ⟨leftOperand, leftEnd, leftRun, rest⟩
  rcases run_bind_eq_ok.mp rest with ⟨rightOperand, rightEnd, rightRun, combined⟩
  exact ⟨⟨leftOperand, leftEnd, rightOperand, rightEnd, leftRun, rightRun⟩, middle, combined,
    grows⟩

/-- A result of arithmetic that is known is one of two numbers. -/
theorem Expr.exists_combination {op : ArithOp}
    (operation : InfixOp.ofSymbol? operator = some (.arithmetic op))
    (run : ((Expr.infixOp node left operator right).resolve ctx target).run before
      = .ok operand after) (known : operand.isUnknown = false) :
    ∃ (pair : OperandPair ctx (scalarHint target) left right before) (leftTag rightTag tag : Tag),
      Combination op pair.leftOperand pair.rightOperand target leftTag rightTag tag ∧
        operand.type = .scalar tag := by
  rcases Expr.exists_of_infix operation run with ⟨pair, middle, combined, _⟩
  have yields : Discipline.coherent.Yields
      (arithmetic ctx node op pair.resolvedLeft pair.resolvedRight target) _ :=
    combined_arithmetic _ _ _ _ _ _
  exact ⟨pair, yields.result combined trivial known⟩

theorem Expr.kind_of_integer_division {op : ArithOp}
    (operation : InfixOp.ofSymbol? operator = some (.arithmetic op))
    (division : op = .intDiv ∨ op = .rem)
    (run : ((Expr.infixOp node left operator right).resolve ctx target).run before
      = .ok operand after) (known : operand.isUnknown = false) :
    ∃ tag, operand.type = .scalar tag ∧
      (tag.isInteger = true ∨
        tag.isFloat = true ∧ tag.isConcrete = true ∧ target = some (.scalar tag) ∧
          ∃ pair : OperandPair ctx (scalarHint target) left right before, pair.IsMarked) := by
  rcases Expr.exists_combination operation run known with ⟨pair, _, _, tag, combined, type⟩
  refine ⟨tag, type, (combined.isInteger_or_asked division).imp_right ?_⟩
  rintro ⟨float, concrete, asked, marked⟩
  exact ⟨float, concrete, asked, pair, marked⟩

/-- In every state and for every target, a result of `/` that is not unknown is a float, and one
of the operators that divide integers is an integer. The one exception is a concrete float that
is asked for: beside a marked operand these operators give that. -/
theorem Expr.division_kinds
    (run : ((Expr.infixOp node left operator right).resolve ctx target).run before
      = .ok operand after) (known : operand.isUnknown = false) :
    after.type? node.id = some (some operand.type) ∧
    (operator = "/" → ∃ tag, operand.type = .scalar tag ∧ tag.isFloat = true) ∧
    (operator = "\\" ∨ operator = "%" → ∃ tag, operand.type = .scalar tag ∧
      (tag.isInteger = true ∨
        tag.isFloat = true ∧ tag.isConcrete = true ∧ target = some (.scalar tag) ∧
          ∃ pair : OperandPair ctx (scalarHint target) left right before, pair.IsMarked)) := by
  refine ⟨?_, ?_, ?_⟩
  · rcases Expr.noted_last run with ⟨middle, noted, _⟩
    unfold State.type?
    rw [noted]
    exact List.lookup_cons_self
  · rintro rfl
    have operation : InfixOp.ofSymbol? "/" = some (.arithmetic .div) := rfl
    rcases Expr.exists_combination operation run known with ⟨_, _, _, tag, combined, type⟩
    exact ⟨tag, type, combined.isFloat_of_div rfl⟩
  · rintro (rfl | rfl)
    · have operation : InfixOp.ofSymbol? "\\" = some (.arithmetic .intDiv) := rfl
      exact Expr.kind_of_integer_division operation (.inl rfl) run known
    · have operation : InfixOp.ofSymbol? "%" = some (.arithmetic .rem) := rfl
      exact Expr.kind_of_integer_division operation (.inr rfl) run known

end Expressions

namespace Sample

def divisionContext : Context := .start .strict .bits32

/-- The quotient `7 \ 2`. -/
def division : Expr := .infixOp (node 0) (.int (node 1) "7") "\\" (.int (node 2) "2")

def three : Operand := { type := .comptimeInt, value := some (.int 3) }

def divisionEnd : State :=
  ((division.resolve divisionContext (some (.scalar .f32))).run (.ofTable .empty)).state

end Sample

theorem Expr.division_kinds_sample :
    (Sample.division.resolve Sample.divisionContext (some (.scalar .f32))).run (.ofTable .empty)
      = .ok Sample.three Sample.divisionEnd ∧
    Sample.three.isUnknown = false ∧
    Sample.divisionEnd.type? 0 = some (some .comptimeInt) ∧
    ∃ tag, Ty.comptimeInt = .scalar tag ∧ tag.isInteger = true := by
  have run : (Sample.division.resolve Sample.divisionContext (some (.scalar .f32))).run
      (.ofTable .empty) = .ok Sample.three Sample.divisionEnd := rfl
  rcases Expr.division_kinds run rfl with ⟨noted, _, integers⟩
  rcases integers (.inl rfl) with ⟨tag, type, integer | ⟨float, _⟩⟩
  · exact ⟨run, rfl, noted, tag, type, integer⟩
  · cases type
    cases float

namespace Sample

/-- A marked quotient of integers in a slot for a float. -/
def markedQuotient : Program where
  file := ""
  statements := .ofList [
    .declaration (node 0) false (some (name 1 "count")) (.named (node 2) "i32")
      (.int (node 3) "7"),
    .declaration (node 4) false (some (name 5 "half")) (.named (node 6) "f32")
      (.infixOp (node 7) (.conversion (node 8) (.ident (name 9 "count")) (.named (node 10) "i64"))
        "\\" (.int (node 11) "2"))]

def markedQuotientState : State :=
  ((markedQuotient.analyze (.start .strict .bits32) .full).run (.ofTable .empty)).state

end Sample

/-- Beside a conversion, the quotient of two integers is the float that the slot holds. -/
theorem Program.integers_divided_to_float :
    (Sample.markedQuotient.analyze (.start .strict .bits32) .full).run (.ofTable .empty)
      = .ok () Sample.markedQuotientState ∧
    Sample.markedQuotientState.reports = [] ∧
    .infixOp (Sample.node 7)
      (.conversion (Sample.node 8) (.ident (Sample.name 9 "count"))
        (.named (Sample.node 10) "i64"))
      "\\" (.int (Sample.node 11) "2") ∈ Sample.markedQuotient.parts ∧
    Sample.markedQuotientState.type? 8 = some (some (.scalar .i64)) ∧
    Sample.markedQuotientState.type? 11 = some (some .comptimeInt) ∧
    Sample.markedQuotientState.type? 7 = some (some (.scalar .f32)) ∧
    Tag.f32.isInteger = false :=
  ⟨rfl, rfl, .tail _ (.head _), rfl, rfl, rfl, rfl⟩

/-! ## Programs -/

section Programs

open NumberKinds

variable {policy : BranchPolicy} {width : PointerWidth} {program : Program} {state : State}

/-- What an expression gave in an analysis that reports nothing. -/
structure Expr.Gave (expr : Expr) (final : State) (operand : Operand) : Prop where
  settled : operand.type.Settled
  noted : final.type? expr.node.id = some (some operand.type)
  marked : operand.explicit = true → expr.IsConversion

theorem Program.gave_of_resolve
    (run : (program.analyze (.start policy width) .full).run (.ofTable .empty)
      = .ok () state)
    (quiet : state.reports = []) (tree : (program.nodes.map Occurrence.id).Nodup) {expr : Expr}
    {ctx : Context} {target : Option Ty} {before after : State} {operand : Operand}
    (resolved : (expr.resolve ctx target).run before = .ok operand after)
    (grows : after.GrowsTo state) : expr.Gave state operand := by
  have holds := holds_of_analyze Discipline.lawful_clean run quiet
  have noted := (Expr.noted_of_resolve resolved).mono grows
  exact ⟨Expr.settled_of_resolve holds resolved grows,
    State.type?_eq_some_of_mem (nodup_types run tree) noted,
    expr.isConversion_of_explicit holds quiet grows resolved⟩

theorem NumberKinds.Sides.exists_gave {left right first second : Expr}
    {leftOperand rightOperand : Operand} (sides : Sides left right first second)
    (leftGave : left.Gave state leftOperand) (rightGave : right.Gave state rightOperand) :
    ∃ firstOperand secondOperand, first.Gave state firstOperand ∧
      second.Gave state secondOperand ∧
      Sides (⟨left.node, leftOperand⟩ : Resolved) ⟨right.node, rightOperand⟩
        ⟨first.node, firstOperand⟩ ⟨second.node, secondOperand⟩ := by
  cases sides with
  | leftFirst => exact ⟨_, _, leftGave, rightGave, .leftFirst⟩
  | rightFirst => exact ⟨_, _, rightGave, leftGave, .rightFirst⟩

/-- Where nothing is reported and no node occurs twice, a float literal that is not converted
makes arithmetic a float, and it is compared with a float, with an integer literal or else with
a conversion. -/
theorem Program.fractions_kept
    (run : (program.analyze (.start policy width) .full).run (.ofTable .empty)
      = .ok () state)
    (quiet : state.reports = []) (tree : (program.nodes.map Occurrence.id).Nodup)
    {node : Node} {left right literal other : Expr} {operator : String} {op : InfixOp}
    (member : .infixOp node left operator right ∈ program.parts)
    (operation : InfixOp.ofSymbol? operator = some op)
    (sides : Sides left right literal other)
    (float : state.type? literal.node.id = some (some .comptimeFloat))
    (notConverted : ¬literal.IsConversion) :
    (∀ arithmetic, op = .arithmetic arithmetic →
      ∃ tag, state.type? node.id = some (some (.scalar tag)) ∧ tag.isFloat = true) ∧
    (∀ ordered, op = .comparison ordered →
      ∃ tag, state.type? other.node.id = some (some (.scalar tag)) ∧
        (tag.isFloat = true ∨ tag = .comptimeInt ∨
          tag.isInteger = true ∧ other.IsConversion)) := by
  rcases meets_of_mem_parts run quiet member with ⟨ctx, target, start, meets⟩
  rcases (endsBy_of_meets run meets).exists_operand with ⟨operand, after, resolved, grows⟩
  have gave := gave_of_resolve run quiet tree resolved grows
  rcases Expr.exists_of_infix operation resolved with ⟨pair, middle, combined, noting⟩
  have middleGrows := noting.trans grows
  have rightGrows := (grows_of_ok _ combined).trans middleGrows
  have leftGrows := (grows_of_ok _ pair.rightRun).trans rightGrows
  have leftGave := gave_of_resolve run quiet tree pair.leftRun leftGrows
  have rightGave := gave_of_resolve run quiet tree pair.rightRun rightGrows
  rcases sides.exists_gave leftGave rightGave with
    ⟨literalOperand, otherOperand, literalGave, otherGave, operands⟩
  have type : literalOperand.type = .comptimeFloat :=
    Option.some.inj (Option.some.inj (literalGave.noted.symm.trans float))
  have plain : literalOperand.explicit = false :=
    eq_false_of_ne_true fun marked => notConverted (literalGave.marked marked)
  have leftSettled : pair.resolvedLeft.type.Settled := leftGave.settled
  have rightSettled : pair.resolvedRight.type.Settled := rightGave.settled
  have quietly := middleGrows.quiet quiet
  refine ⟨?_, ?_⟩
  · rintro op rfl
    have yields := float_beside_literal ctx node op target leftSettled rightSettled operands
      type plain
    rcases yields.result combined quietly with ⟨tag, typed, isFloat⟩
    refine ⟨tag, ?_, isFloat⟩
    rw [← typed]
    exact gave.noted
  · rintro ordered rfl
    have yields := kind_beside_literal ctx node operator ordered leftSettled rightSettled
      operands type plain
    rcases yields.result combined quietly with ⟨tag, typed, kind⟩
    refine ⟨tag, ?_, kind.imp_right (.imp_right (.imp_right otherGave.marked))⟩
    rw [← typed]
    exact otherGave.noted

end Programs

namespace Sample

/-- A converted count is added to a fraction, and another one is compared with it. -/
def fractions : Program where
  file := ""
  statements := .ofList [
    .declaration (node 0) false (some (name 1 "count")) (.named (node 2) "i32")
      (.int (node 3) "1"),
    .declaration (node 4) false (some (name 5 "sum")) .missing
      (.infixOp (node 6) (.conversion (node 7) (.ident (name 8 "count")) (.named (node 9) "f32"))
        "+" (.float (node 10) "2.5")),
    .declaration (node 11) false (some (name 12 "below")) .missing
      (.infixOp (node 13)
        (.conversion (node 14) (.ident (name 15 "count")) (.named (node 16) "i64"))
        "<" (.float (node 17) "2.5"))]

def fractionsState : State :=
  ((fractions.analyze (.start .strict .bits32) .full).run (.ofTable .empty)).state

end Sample

theorem Program.fractions_kept_sample :
    (Sample.fractions.analyze (.start .strict .bits32) .full).run (.ofTable .empty)
      = .ok () Sample.fractionsState ∧
    Sample.fractionsState.reports = [] ∧ (Sample.fractions.nodes.map Occurrence.id).Nodup ∧
    Sample.fractionsState.type? 10 = some (some .comptimeFloat) ∧
    ∃ tag, Sample.fractionsState.type? 6 = some (some (.scalar tag)) ∧ tag.isFloat = true := by
  have run : (Sample.fractions.analyze (.start .strict .bits32) .full).run (.ofTable .empty)
      = .ok () Sample.fractionsState := rfl
  have tree : (Sample.fractions.nodes.map Occurrence.id).Nodup := by decide
  have float : Sample.fractionsState.type? 10 = some (some .comptimeFloat) := rfl
  have member : .infixOp (Sample.node 6)
      (.conversion (Sample.node 7) (.ident (Sample.name 8 "count")) (.named (Sample.node 9) "f32"))
      "+" (.float (Sample.node 10) "2.5") ∈ Sample.fractions.parts := .tail _ (.head _)
  have notConverted : ¬(Expr.float (Sample.node 10) "2.5").IsConversion := nofun
  have operation : InfixOp.ofSymbol? "+" = some (.arithmetic .add) := rfl
  have kept := fractions_kept run rfl tree member operation .rightFirst float notConverted
  exact ⟨run, rfl, tree, float, kept.1 .add rfl⟩

/-- Nothing is reported where a fraction is compared with an integer that was converted. -/
theorem Program.fraction_compared_with_integer :
    (Sample.fractions.analyze (.start .strict .bits32) .full).run (.ofTable .empty)
      = .ok () Sample.fractionsState ∧
    Sample.fractionsState.reports = [] ∧ (Sample.fractions.nodes.map Occurrence.id).Nodup ∧
    .infixOp (Sample.node 13)
      (.conversion (Sample.node 14) (.ident (Sample.name 15 "count"))
        (.named (Sample.node 16) "i64"))
      "<" (.float (Sample.node 17) "2.5") ∈ Sample.fractions.parts ∧
    ¬(Expr.float (Sample.node 17) "2.5").IsConversion ∧
    Sample.fractionsState.type? 17 = some (some .comptimeFloat) ∧
    Sample.fractionsState.type? 14 = some (some (.scalar .i64)) :=
  ⟨rfl, rfl, by decide, List.mem_of_getElem? (rfl : Sample.fractions.parts[5]? = _), nofun, rfl,
    rfl⟩

end ComptimeTyping
