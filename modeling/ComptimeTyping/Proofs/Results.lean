import ComptimeTyping.Proofs.Discipline

/-! What the rules give beyond a type. Only a conversion marks its result, and only a range has
bounds: a literal one, or a binding that stays comptime. This holds of every computation, whatever
it reports. -/

namespace ComptimeTyping

open Analysis

/-- Neither a conversion nor a range with bounds. -/
structure Operand.IsBare (operand : Operand) : Prop where
  unmarked : operand.explicit = false
  unbounded : operand.bounds = none

namespace Results

open Discipline

variable {discipline : Discipline}

theorem bare_typed (type : Ty) : (Operand.typed type).IsBare :=
  ⟨rfl, rfl⟩

theorem bare_refuse (position : Position) (finding : Finding) :
    discipline.Yields (refuse position finding) Operand.IsBare :=
  .after fun _ => .pure (bare_typed _)

/-! ## Operators -/

theorem bare_negation (position : Position) (right : Operand) :
    discipline.Yields (negation position right) Operand.IsBare := by
  unfold negation
  split
  · exact bare_refuse _ _
  · split
    · exact bare_refuse _ _
    · split
      · exact bare_refuse _ _
      · split
        · exact .pure ⟨rfl, rfl⟩
        · exact .pure (bare_typed _)

theorem bare_prefixed (node : Node) (operator : String) (right : Operand) :
    discipline.Yields (prefixed node operator right) Operand.IsBare := by
  unfold prefixed
  split
  · exact .pure (bare_typed _)
  · split
    · exact bare_negation _ _
    · split
      · exact .pure (bare_typed _)
      · exact bare_refuse _ _
    · exact .stop _

theorem bare_foldComptime (op : ArithOp) (left right : Resolved) (leftTag rightTag : Tag) :
    discipline.Yields (foldComptime op left right leftTag rightTag) Operand.IsBare := by
  unfold foldComptime
  dsimp only
  split
  · split
    · exact .stop _
    · exact .pure ⟨rfl, rfl⟩
    · split
      · exact bare_refuse _ _
      · exact .pure (bare_typed _)
  · exact .pure (bare_typed _)

theorem bare_arithmetic (ctx : Context) (node : Node) (op : ArithOp) (left right : Resolved)
    (target : Option Ty) :
    discipline.Yields (arithmetic ctx node op left right target) Operand.IsBare := by
  unfold arithmetic
  split
  · exact .pure (bare_typed _)
  · split
    · unfold combineNumbers
      split
      · exact bare_refuse _ _
      · split
        · exact bare_foldComptime _ _ _ _ _
        · apply Yields.after
          intro result
          split
          · exact .pure (bare_typed _)
          · apply Yields.guarded
            apply Yields.guarded
            split
            · exact bare_refuse _ _
            · exact .pure (bare_typed _)
    · exact bare_refuse _ _
    · exact bare_refuse _ _

theorem bare_infixed (ctx : Context) (node : Node) (operator : String) (op : InfixOp)
    (left right : Resolved) (target : Option Ty) :
    discipline.Yields (infixed ctx node operator op left right target) Operand.IsBare := by
  have bool : discipline.Yields (pure (.typed .bool)) Operand.IsBare := .pure (bare_typed _)
  cases op with
  | arithmetic op => exact bare_arithmetic _ _ _ _ _ _
  | comparison ordered =>
      unfold infixed comparison
      dsimp only
      split
      · split
        · exact .after fun _ => bool
        · exact .after fun _ => bool
      · exact bool
  | logical => exact .after fun _ => .after fun _ => bool

/-! ## Arrays -/

theorem bare_vector (ctx : Context) (node : Node) (first : Tag) (elements : List Resolved)
    (target : Option Ty) :
    discipline.Yields (vector ctx node first elements target) Operand.IsBare := by
  unfold vector
  split
  · exact bare_refuse _ _
  · dsimp only
    split
    · exact bare_refuse _ _
    · split
      · split
        · exact .after fun _ => .pure (bare_typed _)
        · exact .pure ⟨rfl, rfl⟩
      · exact .after fun _ => .pure (bare_typed _)

theorem bare_arrayLiteral (ctx : Context) (node : Node) (elements : List Resolved)
    (target : Option Ty) :
    discipline.Yields (arrayLiteral ctx node elements target) Operand.IsBare := by
  unfold arrayLiteral
  split
  · unfold emptyArray
    dsimp only
    split
    · split
      · exact .pure (bare_typed _)
      · exact .after fun _ => .pure (bare_typed _)
    · exact bare_refuse _ _
  · split
    · exact .pure (bare_typed _)
    · split
      · exact bare_vector _ _ _ _ _
      · split
        · unfold rows
          split
          · exact bare_refuse _ _
          · dsimp only
            split
            · exact .pure ⟨rfl, rfl⟩
            · exact .pure (bare_typed _)
        · exact bare_refuse _ _

/-! ## Indices -/

theorem bare_selectRows (array : Operand) (type : Ty) (start step : Int) (count : Nat) :
    (selectRows array type start step count).IsBare := by
  unfold selectRows
  split
  · exact bare_typed _
  · split
    · exact ⟨rfl, rfl⟩
    · exact ⟨rfl, rfl⟩

theorem bare_element (ctx : Context) (array index : Resolved) (outer : Dim) :
    discipline.Yields (element ctx array index outer) Operand.IsBare := by
  have row : discipline.Yields (pure (.typed array.type.row)) Operand.IsBare :=
    .pure (bare_typed _)
  unfold element
  dsimp only
  split
  · exact row
  · split
    · exact .after fun _ => row
    · split
      · unfold literalElement
        apply Yields.after
        intro fits
        split
        · split
          · exact row
          · split
            · exact .pure (bare_selectRows _ _ _ _ _)
            · split
              · exact .after fun _ => row
              · exact .pure (bare_selectRows _ _ _ _ _)
        · exact row
      · repeat' split
        all_goals first | exact row | exact .after fun _ => row

theorem bare_sliced (node : Node) (array : Operand) (span : SliceSpan) :
    discipline.Yields (sliced node array span) Operand.IsBare := by
  unfold sliced
  split
  · exact .pure (bare_typed _)
  · split
    · exact bare_refuse _ _
    · exact .pure (bare_selectRows _ _ _ _ _)
  · exact .pure (bare_typed _)

theorem bare_indexing (ctx : Context) (node : Node) (array index : Resolved) :
    discipline.Yields (indexing ctx node array index) Operand.IsBare := by
  unfold indexing
  split
  · exact .pure (bare_typed _)
  · split
    · exact bare_refuse _ _
    · split
      · exact .slice (bare_typed _) fun _ => bare_sliced _ _ _
      · exact bare_element _ _ _ _

theorem bare_property (left : Operand) (name : Ident) :
    discipline.Yields (property left name) Operand.IsBare := by
  unfold property
  split
  · exact .pure (bare_typed _)
  · split
    · exact .pure ⟨rfl, rfl⟩
    · exact .pure (bare_typed _)
    · exact bare_refuse _ _

/-! ## Expressions -/

theorem yields_recorded {good : Operand → Prop} (node : Node) {resolve : Analysis Operand}
    (yields : discipline.Yields resolve good) : discipline.Yields (recorded node resolve) good :=
  yields.bind fun _ holds => .after fun _ => .pure holds

/-- An expression that names nothing, converts nothing, is no range and has no branches. -/
def isBare : Expr → Bool
  | .ident _ | .conversion _ _ _ | .range _ _ _ _ _ | .block _ _ | .conditional _ _ _ _ => false
  | _ => true

theorem bare_of_isBare {expr : Expr} (ctx : Context) (target : Option Ty)
    (bare : isBare expr = true) : discipline.Yields (expr.resolve ctx target) Operand.IsBare := by
  unfold Expr.resolve
  cases expr with
  | missing => exact .stop _
  | int node text =>
      apply yields_recorded
      unfold integerLiteral
      split
      · exact .pure ⟨rfl, rfl⟩
      · exact .stop _
  | float node text =>
      apply yields_recorded
      unfold floatLiteral
      split
      · exact .pure ⟨rfl, rfl⟩
      · exact .stop _
  | bool | string => exact yields_recorded _ (.pure (bare_typed _))
  | undef => exact yields_recorded _ (bare_refuse _ _)
  | prefixOp => exact yields_recorded _ (.after fun _ => bare_prefixed _ _ _)
  | infixOp =>
      apply yields_recorded
      split
      · exact .stop _
      · exact .after fun _ => .after fun _ => bare_infixed _ _ _ _ _ _ _
  | array => exact yields_recorded _ (.after fun _ => bare_arrayLiteral _ _ _ _)
  | index => exact yields_recorded _ (.after fun _ => .after fun _ => bare_indexing _ _ _ _)
  | member node left name =>
      apply yields_recorded
      cases name with
      | none => exact .stop _
      | some name => exact .after fun _ => bare_property _ _
  | call node callee arguments =>
      apply yields_recorded
      cases callee with
      | none => exact .stop _
      | some callee =>
          apply Yields.after
          intro table
          split
          · exact .after fun _ => .after fun _ => .pure (bare_typed _)
          · exact .after fun _ => .after fun _ => .after fun _ => .pure (bare_typed _)
  | ident | conversion | range | block | conditional => cases bare

/-- A name is not marked, whatever it is bound to. -/
theorem unmarked_identifier (name : Ident) :
    discipline.Yields (identifier name) (·.explicit = false) := by
  have ofSymbol : ∀ symbol, (Operand.ofSymbol name.position symbol).explicit = false := by
    intro symbol
    unfold Operand.ofSymbol
    dsimp only
    split <;> rfl
  apply Yields.after
  intro table
  split
  · exact .after fun _ => .after fun _ => .pure rfl
  · exact .guarded (.pure (ofSymbol _))

/-- Only a comptime binding brings bounds along. -/
theorem bounds_ofSymbol (position : Position) (symbol : Symbol) :
    (Operand.ofSymbol position symbol).bounds = none ∨
      (Operand.ofSymbol position symbol).type.isComptime = true := by
  unfold Operand.ofSymbol
  dsimp only
  split
  · next carries =>
      simp only [Symbol.isComptime, Bool.and_eq_true] at carries
      cases typed : symbol.type with
      | none =>
          rw [typed] at carries
          exact nomatch carries.2
      | some type =>
          rw [typed] at carries
          exact .inr carries.2
  · exact .inl rfl

theorem yields_withScope {α : Type} {good : α → Prop} (kind : ScopeKind) {inside : Analysis α}
    (yields : discipline.Yields inside good) : discipline.Yields (withScope kind inside) good := by
  constructor
  intro before after result run tolerated
  rcases exists_of_run_withScope run with ⟨inner, ended, rfl⟩
  exact yields.result ended (tolerates_of_withTable tolerated)

theorem unbounded_unifyBranches (ctx : Context) (branches : List Resolved) {target : Ty}
    (value : target.isVoid = false) :
    discipline.Yields (unifyBranches ctx branches (some target)) (·.bounds = none) := by
  have asked : (some target).filter (!·.isVoid) = some target := by simp [value]
  unfold unifyBranches
  rw [asked]
  exact .after fun _ => .pure rfl

end Results

open Results Discipline in
/-- An expression that is asked for a value and is not itself a range has no bounds, unless it is
comptime. -/
theorem Expr.bounds_of_resolve {discipline : Discipline} {expr : Expr} (ctx : Context)
    {target : Ty} (value : target.isVoid = false) (notRange : expr.isRange = false) :
    discipline.Yields (expr.resolve ctx (some target)) fun operand =>
      operand.bounds = none ∨ operand.type.isComptime = true := by
  cases bare : isBare expr with
  | true => exact (bare_of_isBare ctx (some target) bare).mono fun _ bare => .inl bare.unbounded
  | false =>
      unfold Expr.resolve
      cases expr with
      | ident name =>
          apply yields_recorded
          apply Yields.after
          intro table
          split
          · exact .after fun _ => .after fun _ => .pure (.inl rfl)
          · exact .guarded (.pure (bounds_ofSymbol _ _))
      | conversion node operand type =>
          apply yields_recorded
          apply Yields.guarded
          apply Yields.after
          intro written
          apply Yields.after
          intro source
          exact .converted (.inl rfl) fun _ => .inl (.inl rfl)
      | block node statements =>
          apply yields_recorded
          apply yields_withScope
          apply Yields.after
          intro branches
          split
          · exact .pure (.inl rfl)
          · exact (unbounded_unifyBranches ctx _ value).mono fun _ => .inl
      | conditional node condition consequence alternative =>
          apply yields_recorded
          apply Yields.after
          intro tested
          apply Yields.after
          intro required
          apply Yields.guarded
          apply Yields.after
          intro first
          split
          · exact .pure (.inl rfl)
          · apply Yields.after
            intro second
            exact (unbounded_unifyBranches ctx _ value).mono fun _ => .inl
      | range => cases notRange
      | _ => cases bare

end ComptimeTyping
