import Mathlib.Data.List.Forall2
import ComptimeTyping.Proofs.Once
import ComptimeTyping.Proofs.Results

/-! Numbers of different types meet only where a conversion is written. The marker that an
operand is a conversion is left behind by everything that is done with it: apart from the
conversion itself, only a block hands on the marker of its one value. -/

namespace ComptimeTyping

open Analysis

/-! ## Conversions -/

/-- A conversion `value:Type`, or a block that has such a value and no other one. -/
inductive Expr.IsConversion : Expr → Prop
  | conversion (node : Node) (value : Expr) (type : TypeExpr) :
      (Expr.conversion node value type).IsConversion
  | block (node : Node) {statements : Stmts} {value : Expr}
      (single : statements.yields = [value]) (converts : value.IsConversion) :
      (Expr.block node statements).IsConversion

namespace Conversions

open Discipline Clean

/-! ## Results without a marker -/

/-- No result of a computation is marked, if nothing is reported. -/
abbrev Unmarked (computation : Analysis Operand) : Prop :=
  Clean.Yields computation (·.explicit = false)

theorem unmarked_rangeLiteral (ctx : Context) (node : Node) (step : Position)
    (form : RangeForm) (hint : Tag) (parts : RangeParts) (bounds : Bounds) :
    Unmarked (rangeLiteral ctx node step form hint parts bounds) := by
  unfold rangeLiteral
  split
  · exact .pure rfl
  · split
    · exact .pure rfl
    · apply Yields.after
      intro element
      split
      · exact .pure rfl
      · split
        · exact refused _ _
        · apply Yields.after
          intro stepped
          split
          · exact .pure rfl
          · exact .pure rfl

/-! ## Branches -/

theorem unmarked_joinBranch {policy : BranchPolicy} {joined result : Operand}
    {branch : Resolved} (ended : joinBranch policy joined branch = .ok result) :
    result.explicit = false := by
  rcases joinBranch_cases ended with ⟨type, rfl, _⟩
  rfl

/-- Two branches of known types make a result without a marker. -/
theorem unmarked_joinBranches (ctx : Context) {first second : Resolved} {others : List Resolved}
    (firstSettled : first.type.Settled) (secondSettled : second.type.Settled) :
    Unmarked (joinBranches ctx (first :: second :: others)) := by
  have keeps : ∀ branch ∈ others, ∀ joined result : Operand, joined.explicit = false →
      joinBranch ctx.policy joined branch = .ok result → result.explicit = false :=
    fun _ _ _ _ _ => unmarked_joinBranch
  refine .joinBranches rfl (by rintro _ ⟨⟩) fun {joined} ended => ?_
  have firstKnown : ¬first.isUnknown = true := firstSettled.not_unknown
  have secondKnown : ¬second.isUnknown = true := secondSettled.not_unknown
  simp only [joinFrom, if_neg firstKnown, if_neg secondKnown] at ended
  split at ended
  · next joinedNext =>
      exact forall_joinFrom_some keeps (unmarked_joinBranch joinedNext) ended joined rfl
  · cases ended

theorem unmarked_unifyBranches (ctx : Context) {first second : Resolved}
    {others : List Resolved} (target : Option Ty) (firstSettled : first.type.Settled)
    (secondSettled : second.type.Settled) :
    Unmarked (unifyBranches ctx (first :: second :: others) target) := by
  unfold unifyBranches
  split
  · exact .after fun _ => .pure rfl
  · exact unmarked_joinBranches ctx firstSettled secondSettled

/-- One branch keeps its marker, unless a type is asked for. -/
theorem explicit_unifyBranches (ctx : Context) (branch : Resolved) (target : Option Ty) :
    Clean.Yields (unifyBranches ctx [branch] target) fun operand =>
      operand.explicit = true → branch.operand.explicit = true := by
  unfold unifyBranches
  split
  · exact .after fun _ => .pure nofun
  · unfold joinBranches
    split
    · exact reported _ _ _
    · exact .pure nofun
    · extract_lets finish
      have finished : Clean.Yields (finish ()) fun operand =>
          operand.explicit = true → branch.operand.explicit = true := .pure id
      split
      · exact .guarded finished
      · exact finished

/-! ## Operands of different types -/

/-- Two different numbers with a representation do not agree by themselves. -/
theorem resolve_of_distinct {left right : Tag} (leftNumeric : left.isNumeric = true)
    (leftConcrete : left.isConcrete = true) (rightNumeric : right.isNumeric = true)
    (rightConcrete : right.isConcrete = true) (distinct : left ≠ right) :
    left.resolve right false = .error (.unmarked left right) := by
  unfold Tag.isConcrete at leftConcrete rightConcrete
  rw [Bool.and_eq_true, bne_iff_ne, Bool.not_eq_true'] at leftConcrete rightConcrete
  have leftNotVoid : left ≠ .void := by
    rintro rfl
    cases leftNumeric
  have rightNotVoid : right ≠ .void := by
    rintro rfl
    cases rightNumeric
  simp [Tag.resolve, *]

section Infix

variable {left right : Resolved} {leftTag rightTag : Tag}

/-- Two operands whose types are different numbers with a representation. -/
structure Apart (left right : Resolved) (leftTag rightTag : Tag) : Prop where
  leftType : left.type = .scalar leftTag
  rightType : right.type = .scalar rightTag
  leftNumeric : leftTag.isNumeric = true
  leftConcrete : leftTag.isConcrete = true
  rightNumeric : rightTag.isNumeric = true
  rightConcrete : rightTag.isConcrete = true
  distinct : leftTag ≠ rightTag

theorem Apart.resolve (apart : Apart left right leftTag rightTag) :
    leftTag.resolve rightTag false = .error (.unmarked leftTag rightTag) :=
  resolve_of_distinct apart.leftNumeric apart.leftConcrete apart.rightNumeric
    apart.rightConcrete apart.distinct

theorem Apart.not_unknown (apart : Apart left right leftTag rightTag) :
    (left.isUnknown || right.isUnknown) = false := by
  have leftKnown : left.isUnknown = false := by
    change left.type.isUnknown = false
    rw [apart.leftType]
    exact (Ty.settled_scalar (Tag.ne_unknown_of_isNumeric apart.leftNumeric)).isUnknown
  have rightKnown : right.isUnknown = false := by
    change right.type.isUnknown = false
    rw [apart.rightType]
    exact (Ty.settled_scalar (Tag.ne_unknown_of_isNumeric apart.rightNumeric)).isUnknown
  rw [leftKnown, rightKnown]
  rfl

theorem refused_arithmetic (apart : Apart left right leftTag rightTag)
    (leftPlain : left.operand.explicit = false) (rightPlain : right.operand.explicit = false)
    (ctx : Context) (node : Node) (op : ArithOp) (target : Option Ty) :
    Clean.Yields (arithmetic ctx node op left right target) fun _ => False := by
  have leftTagged : numericTag? left.type = some leftTag := by
    rw [apart.leftType]
    exact Option.filter_eq_some_iff.mpr ⟨rfl, apart.leftNumeric⟩
  have rightTagged : numericTag? right.type = some rightTag := by
    rw [apart.rightType]
    exact Option.filter_eq_some_iff.mpr ⟨rfl, apart.rightNumeric⟩
  have notComptime : ¬(leftTag.isComptime = true ∧ rightTag.isComptime = true) := by
    rintro ⟨comptime, _⟩
    have concrete := apart.leftConcrete
    unfold Tag.isConcrete at concrete
    rw [comptime, Bool.not_true, Bool.and_false] at concrete
    cases concrete
  have disagree : Clean.Yields (arithmeticResult node left right leftTag rightTag target)
      fun _ => False := by
    unfold arithmeticResult
    rw [leftPlain, rightPlain, Bool.or_false, if_neg Bool.false_ne_true, apart.resolve]
    exact reported _ _ _
  unfold arithmetic
  rw [apart.not_unknown, if_neg Bool.false_ne_true, leftTagged, rightTagged]
  unfold combineNumbers
  dsimp only
  rw [if_neg notComptime]
  split
  · exact refused _ _
  · exact disagree.bind fun _ => False.elim

theorem refused_comparison (apart : Apart left right leftTag rightTag)
    (leftPlain : left.operand.explicit = false) (rightPlain : right.operand.explicit = false)
    (ctx : Context) (node : Node) (operator : String) (ordered : Bool) :
    Clean.Yields (comparison ctx node operator ordered left right) fun _ => False := by
  have disagree : Clean.Yields
      (compareScalars ctx node operator ordered left right leftTag rightTag)
      fun _ => False := by
    unfold compareScalars
    split
    · exact .report _ _ not_faulted
    · rw [leftPlain, rightPlain, Bool.or_false, apart.resolve]
      exact .report _ _ not_faulted
  unfold comparison
  rw [apart.not_unknown, apart.leftType, apart.rightType]
  exact disagree.bind fun _ => False.elim

/-- Numbers of different types are combined or compared only if one of them is marked. -/
theorem marked_of_infixed (apart : Apart left right leftTag rightTag) (ctx : Context)
    (node : Node) (operator : String) {op : InfixOp} (notLogical : op ≠ .logical)
    (target : Option Ty) :
    Clean.Yields (infixed ctx node operator op left right target) fun _ =>
      left.operand.explicit = true ∨ right.operand.explicit = true := by
  cases leftPlain : left.operand.explicit with
  | true => exact ⟨fun _ _ => .inl rfl⟩
  | false =>
      cases rightPlain : right.operand.explicit with
      | true => exact ⟨fun _ _ => .inr rfl⟩
      | false =>
          cases op with
          | logical => exact absurd rfl notLogical
          | arithmetic op =>
              exact (refused_arithmetic apart leftPlain rightPlain ctx node op target).mono
                fun _ => False.elim
          | comparison ordered =>
              exact (refused_comparison apart leftPlain rightPlain ctx node operator
                ordered).mono fun _ => False.elim

end Infix

/-! ## Expressions -/

/-- An expression that is neither a conversion nor made of branches. -/
def isPlain : Expr → Bool
  | .conversion _ _ _ => false
  | .block _ _ => false
  | .conditional _ _ _ _ => false
  | _ => true

theorem unmarked_of_isPlain {expr : Expr} (ctx : Context) (target : Option Ty)
    (plain : isPlain expr = true) : Unmarked (expr.resolve ctx target) := by
  cases bare : Results.isBare expr with
  | true => exact (Results.bare_of_isBare ctx target bare).mono fun _ bare => bare.unmarked
  | false =>
      unfold Expr.resolve
      cases expr with
      | ident name => exact Results.yields_recorded _ (Results.unmarked_identifier name)
      | range =>
          apply Results.yields_recorded
          exact .after fun _ => .after fun _ => .after fun _ => .after fun _ =>
            unmarked_rangeLiteral _ _ _ _ _ _ _
      | conversion | block | conditional => cases plain
      | _ => cases bare

end Conversions

/-! ## Markers -/

section Markers

open Conversions

variable {final : State} {ctx : Context} {target : Option Ty} {before after : State}
  {operand : Operand}

theorem Expr.settled_of_resolve (holds : Discipline.clean.Holds final) {expr : Expr}
    (run : (expr.resolve ctx target).run before = .ok operand after)
    (grows : after.GrowsTo final) : operand.type.Settled := by
  rcases holds.types _ ((Expr.noted_of_resolve run).mono grows) with ⟨_, ⟨⟩, settled⟩
  exact settled

theorem Expr.isConversion_of_isPlain {expr : Expr} (plain : isPlain expr = true)
    (quiet : after.reports = [])
    (run : (expr.resolve ctx target).run before = .ok operand after)
    (marked : operand.explicit = true) : expr.IsConversion := by
  have unmarked := (unmarked_of_isPlain ctx target plain).result run quiet
  rw [unmarked] at marked
  cases marked

/-- A value that a block is given: its type is known, and it is marked only if it is a
conversion. -/
structure Resolved.Gives (value : Expr) (branch : Resolved) : Prop where
  settled : branch.type.Settled
  marked : branch.operand.explicit = true → value.IsConversion

theorem Expr.isConversion_of_branches {node : Node} {statements : Stmts}
    {branches : List Resolved} (quiet : after.reports = [])
    (gives : List.Forall₂ Resolved.Gives statements.yields branches)
    (run : (unifyBranches ctx branches target).run before = .ok operand after)
    (marked : operand.explicit = true) (nonempty : branches ≠ []) :
    (Expr.block node statements).IsConversion := by
  match branches, gives with
  | [], _ => exact absurd rfl nonempty
  | [branch], gives =>
      rcases List.forall₂_cons_right_iff.mp gives with ⟨value, none, given, rest, yields⟩
      cases rest
      have kept := (explicit_unifyBranches ctx branch target).result run quiet
      exact .block node yields (given.marked (kept marked))
  | first :: second :: others, gives =>
      rcases List.forall₂_cons_right_iff.mp gives with ⟨_, _, firstGiven, rest, _⟩
      rcases List.forall₂_cons_right_iff.mp rest with ⟨_, _, secondGiven, _, _⟩
      have unmarked := (unmarked_unifyBranches ctx target firstGiven.settled
        secondGiven.settled).result run quiet
      rw [unmarked] at marked
      cases marked

/-- The value of a conditional is not marked. -/
theorem Expr.unmarked_conditional (holds : Discipline.clean.Holds final)
    (quiet : final.reports = []) {node : Node} {condition : Expr} {consequence : Body}
    {alternative : Expr} (grows : after.GrowsTo final)
    (run : ((Expr.conditional node condition consequence alternative).resolve ctx target).run
      before = .ok operand after) : operand.explicit = false := by
  unfold Expr.resolve at run
  rcases exists_of_run_recorded run with ⟨joined, resolved, noting, _⟩
  rcases run_bind_eq_ok.mp resolved with ⟨_, _, _, tested⟩
  rcases run_bind_eq_ok.mp tested with ⟨_, begun, _, branched⟩
  have joinedGrows := noting.trans grows
  dsimp only at branched
  split at branched
  · cases branched
  · rcases run_bind_eq_ok.mp branched with ⟨first, middle, ranFirst, rest⟩
    split at rest
    · cases rest
      rfl
    · rcases run_bind_eq_ok.mp rest with ⟨second, late, ranSecond, unified⟩
      have lateGrows := ((unifyBranches _ _ _).grows_of_ok unified).trans joinedGrows
      have middleGrows := ((alternative.resolve _ _).grows_of_ok ranSecond).trans lateGrows
      rw [← Body.resolve_toExpr] at ranFirst
      have firstSettled := Expr.settled_of_resolve holds ranFirst middleGrows
      have secondSettled := Expr.settled_of_resolve holds ranSecond lateGrows
      have unmarked : Unmarked (unifyBranches ctx
          [⟨consequence.node, first⟩, ⟨alternative.node, second⟩] target) :=
        unmarked_unifyBranches ctx target firstSettled secondSettled
      exact unmarked.result unified (joinedGrows.quiet quiet)

theorem Stmt.gives_nothing {statement : Stmt} {branch : Option Resolved}
    (silent : statement.yields = [])
    (run : (statement.analyze ctx).run before = .ok branch after) :
    List.Forall₂ Resolved.Gives statement.yields branch.toList := by
  rw [silent, (Stmt.silent ctx silent).none_of_run run]
  exact .nil

mutual

/-- In an analysis that reports nothing, only conversions are marked. -/
theorem Expr.isConversion_of_explicit (holds : Discipline.clean.Holds final)
    (quiet : final.reports = []) {ctx : Context} {target : Option Ty} {before after : State}
    {operand : Operand} (grows : after.GrowsTo final) :
    (expr : Expr) → (expr.resolve ctx target).run before = .ok operand after →
      operand.explicit = true → expr.IsConversion
  | .conversion node value type => fun _ _ => .conversion node value type
  | .block node statements => fun run marked => by
      unfold Expr.resolve at run
      rcases exists_of_run_recorded run with ⟨_, resolved, noting, _⟩
      rcases exists_of_run_withScope resolved with ⟨inner, ended, rfl⟩
      rcases run_bind_eq_ok.mp ended with ⟨branches, given, analyzed, unified⟩
      have innerGrows : inner.GrowsTo final :=
        .trans ⟨noting.reports, noting.types, noting.slots⟩ grows
      split at unified
      · cases unified
        cases marked
      · next nonempty =>
          have givenGrows := ((unifyBranches _ _ _).grows_of_ok unified).trans innerGrows
          have gives := statements.gives holds quiet givenGrows analyzed
          exact Expr.isConversion_of_branches (innerGrows.quiet quiet) gives unified marked
            nonempty
  | .conditional node condition consequence alternative => fun run marked => by
      rw [Expr.unmarked_conditional holds quiet grows run] at marked
      cases marked
  | .missing => fun run => nomatch run
  | .int _ _ => Expr.isConversion_of_isPlain rfl (grows.quiet quiet)
  | .float _ _ => Expr.isConversion_of_isPlain rfl (grows.quiet quiet)
  | .bool _ _ => Expr.isConversion_of_isPlain rfl (grows.quiet quiet)
  | .string _ _ => Expr.isConversion_of_isPlain rfl (grows.quiet quiet)
  | .undef _ => Expr.isConversion_of_isPlain rfl (grows.quiet quiet)
  | .ident _ => Expr.isConversion_of_isPlain rfl (grows.quiet quiet)
  | .prefixOp _ _ _ => Expr.isConversion_of_isPlain rfl (grows.quiet quiet)
  | .infixOp _ _ _ _ => Expr.isConversion_of_isPlain rfl (grows.quiet quiet)
  | .array _ _ => Expr.isConversion_of_isPlain rfl (grows.quiet quiet)
  | .range _ _ _ _ _ => Expr.isConversion_of_isPlain rfl (grows.quiet quiet)
  | .index _ _ _ => Expr.isConversion_of_isPlain rfl (grows.quiet quiet)
  | .member _ _ _ => Expr.isConversion_of_isPlain rfl (grows.quiet quiet)
  | .call _ _ _ => Expr.isConversion_of_isPlain rfl (grows.quiet quiet)

theorem Stmts.gives (holds : Discipline.clean.Holds final) (quiet : final.reports = [])
    {ctx : Context} {before after : State} {branches : List Resolved}
    (grows : after.GrowsTo final) :
    (statements : Stmts) → (statements.analyze ctx).run before = .ok branches after →
      List.Forall₂ Resolved.Gives statements.yields branches
  | .nil => fun run => by
      cases run
      exact .nil
  | .cons head tail => fun run => by
      unfold Stmts.analyze at run
      rcases run_bind_eq_ok.mp run with ⟨branch, middle, first, rest⟩
      rcases run_bind_eq_ok.mp rest with ⟨others, _, later, ⟨⟩⟩
      have middleGrows := ((tail.analyze ctx).grows_of_ok later).trans grows
      exact List.rel_append (head.gives holds quiet middleGrows first)
        (tail.gives holds quiet grows later)

theorem Stmt.gives (holds : Discipline.clean.Holds final) (quiet : final.reports = [])
    {ctx : Context} {before after : State} {branch : Option Resolved}
    (grows : after.GrowsTo final) :
    (statement : Stmt) → (statement.analyze ctx).run before = .ok branch after →
      List.Forall₂ Resolved.Gives statement.yields branch.toList
  | .yielding node value => fun run => by
      unfold Stmt.analyze at run
      dsimp only at run
      split at run
      · cases run
      · split at run
        · exact absurd (grows.quiet quiet) (reports_ne_nil run)
        · rcases run_bind_eq_ok.mp run with ⟨operand, _, resolved, ⟨⟩⟩
          have settled := Expr.settled_of_resolve holds resolved grows
          have marked := value.isConversion_of_explicit holds quiet grows resolved
          exact .cons ⟨settled, marked⟩ .nil
  | .missing => fun run => nomatch run
  | .declaration _ _ _ _ _ => Stmt.gives_nothing rfl
  | .assignment _ _ _ => Stmt.gives_nothing rfl
  | .returning _ _ => Stmt.gives_nothing rfl
  | .expression _ _ => Stmt.gives_nothing rfl
  | .function _ _ _ _ _ => Stmt.gives_nothing rfl

end

end Markers

/-! ## Programs -/

section Programs

variable {policy : BranchPolicy} {width : PointerWidth} {program : Program} {state : State}

/-- Where nothing is reported and no node occurs twice, numbers of different types are
combined or compared only if one of them is a conversion; and nothing but a conversion is
ever marked as one. -/
theorem Program.conversions_visible
    (run : (program.analyze (.start policy width) .full).run (.ofTable .empty)
      = .ok () state)
    (quiet : state.reports = []) (tree : (program.nodes.map Occurrence.id).Nodup) :
    (∀ node left operator right op leftTag rightTag,
      .infixOp node left operator right ∈ program.parts →
      InfixOp.ofSymbol? operator = some op → op ≠ .logical →
      state.type? left.node.id = some (some (.scalar leftTag)) →
      state.type? right.node.id = some (some (.scalar rightTag)) →
      leftTag.isNumeric = true → leftTag.isConcrete = true →
      rightTag.isNumeric = true → rightTag.isConcrete = true → leftTag ≠ rightTag →
      left.IsConversion ∨ right.IsConversion) ∧
    (∀ ctx target expr start operand after,
      program.Meets (.start policy width) .full ⟨.expr ctx target expr, start⟩ →
      (expr.resolve ctx target).run start = .ok operand after →
      operand.explicit = true → expr.IsConversion) := by
  have holds := holds_of_analyze Discipline.lawful_clean run quiet
  refine ⟨?_, ?_⟩
  · intro node left operator right op leftTag rightTag member operation notLogical leftNoted
      rightNoted leftNumeric leftConcrete rightNumeric rightConcrete different
    rcases meets_of_mem_parts run quiet member with ⟨ctx, target, start, meets⟩
    rcases endsBy_of_meets run meets with ⟨after, ended, grows⟩
    rcases run_discard_eq_ok.mp ended with ⟨operand, resolved⟩
    unfold Expr.resolve at resolved
    rcases exists_of_run_recorded resolved with ⟨middle, combined, noting, _⟩
    rw [operation] at combined
    rcases run_bind_eq_ok.mp combined with ⟨leftOperand, leftEnd, leftRun, rest⟩
    rcases run_bind_eq_ok.mp rest with ⟨rightOperand, rightEnd, rightRun, last⟩
    have middleGrows := noting.trans grows
    have rightGrows := (grows_of_ok _ last).trans middleGrows
    have leftGrows := (grows_of_ok _ rightRun).trans rightGrows
    have apart : Conversions.Apart ⟨left.node, leftOperand⟩ ⟨right.node, rightOperand⟩
        leftTag rightTag :=
      ⟨type_of_resolve run tree leftRun leftGrows leftNoted,
        type_of_resolve run tree rightRun rightGrows rightNoted,
        leftNumeric, leftConcrete, rightNumeric, rightConcrete, different⟩
    have marked := (Conversions.marked_of_infixed apart ctx node operator notLogical
      target).result last (middleGrows.quiet quiet)
    rcases marked with leftMarked | rightMarked
    · exact .inl (left.isConversion_of_explicit holds quiet leftGrows leftRun leftMarked)
    · exact .inr (right.isConversion_of_explicit holds quiet rightGrows rightRun rightMarked)
  · intro ctx target expr start operand after meets resolved marked
    rcases endsBy_of_meets run meets with ⟨ended, outcome, grows⟩
    rcases run_discard_eq_ok.mp outcome with ⟨_, again⟩
    rw [resolved] at again
    cases again
    exact expr.isConversion_of_explicit holds quiet grows resolved marked

namespace Sample

/-- A block around the conversion of a literal. -/
def converted : Expr :=
  .block (node 6) (.ofList [.yielding (node 7)
    (.conversion (node 8) (.int (node 9) "2") (.named (node 10) "i64"))])

def narrow : Expr := .ident (name 5 "narrow")

/-- A sum of numbers of two types. -/
def mixed : Program where
  file := ""
  statements := .ofList [
    .declaration (node 0) true (some (name 1 "narrow")) (.named (node 2) "i32")
      (.int (node 3) "1"),
    .expression (node 11) (.infixOp (node 4) narrow "+" converted)]

def mixedState : State :=
  ((mixed.analyze (.start .strict .bits32) .full).run (.ofTable .empty)).state

end Sample

theorem Program.conversions_visible_sample :
    (Sample.mixed.analyze (.start .strict .bits32) .full).run (.ofTable .empty)
      = .ok () Sample.mixedState ∧
    Sample.mixedState.reports = [] ∧ (Sample.mixed.nodes.map Occurrence.id).Nodup ∧
    Sample.mixedState.type? 5 = some (some (.scalar .i32)) ∧
    Sample.mixedState.type? 6 = some (some (.scalar .i64)) ∧
    (Sample.narrow.IsConversion ∨ Sample.converted.IsConversion) := by
  have run : (Sample.mixed.analyze (.start .strict .bits32) .full).run (.ofTable .empty)
      = .ok () Sample.mixedState := rfl
  have tree : (Sample.mixed.nodes.map Occurrence.id).Nodup := by decide
  have narrow : Sample.mixedState.type? 5 = some (some (.scalar .i32)) := rfl
  have wide : Sample.mixedState.type? 6 = some (some (.scalar .i64)) := rfl
  have member : .infixOp (Sample.node 4) Sample.narrow "+" Sample.converted ∈
      Sample.mixed.parts := .tail _ (.head _)
  have visible := (conversions_visible run rfl tree).1 _ _ _ _ (.arithmetic .add) _ _ member
    (by decide) nofun narrow wide rfl rfl rfl rfl nofun
  exact ⟨run, rfl, tree, narrow, wide, visible⟩

end Programs

end ComptimeTyping
