import Mathlib.Data.List.Nodup
import ComptimeTyping.Proofs.Folding
import ComptimeTyping.Proofs.Parts
import ComptimeTyping.Proofs.Typing

/-! A mistake is reported once. Definitions of integers by sums, differences and products can go
wrong in one way: they mention a name that nothing defines. Each such mention is reported where it
stands, and nothing is reported of what comes of it: a definition that mentions a mistake is of
unknown type, and so is what mentions that. The other definitions have their values. -/

namespace ComptimeTyping

open Analysis

/-! ## Polynomials -/

/-- The operators that take all integers to integers. -/
def IntegerOp.IsTotal (op : IntegerOp) : Prop :=
  op = .add ∨ op = .sub ∨ op = .mul

/-- Integer literals, names, and what negation and the total operators make of them. -/
inductive Expr.IsPolynomial : Expr → Prop
  | literal {node : Node} {text : String} {value : Int}
      (valid : Literal.integer? text = some value) : (Expr.int node text).IsPolynomial
  | name (ident : Ident) : (Expr.ident ident).IsPolynomial
  | negation {node : Node} {right : Expr} (operand : right.IsPolynomial) :
      (Expr.prefixOp node "-" right).IsPolynomial
  | operation {node : Node} {left right : Expr} {op : IntegerOp} (total : op.IsTotal)
      (leftOperand : left.IsPolynomial) (rightOperand : right.IsPolynomial) :
      (Expr.infixOp node left op.symbol right).IsPolynomial

/-- The mentions of names in a polynomial, from left to right. -/
def Expr.mentions : Expr → List Ident
  | .ident name => [name]
  | .prefixOp _ _ right => right.mentions
  | .infixOp _ left _ right => left.mentions ++ right.mentions
  | _ => []

/-- The scope errors of the names that are not declared, where they are mentioned. -/
def undeclaredMentions (declared : List String) (names : List Ident) : List Diagnostic :=
  (names.filter (·.name ∉ declared)).map fun name =>
    (Finding.undeclared name.name false).placed name.position

/-- The scope errors of definitions, each of which may mention those before it. -/
def undeclaredReports (declared : List String) : List Definition → List Diagnostic
  | [] => []
  | definition :: definitions =>
      undeclaredMentions declared definition.value.mentions ++
        undeclaredReports (declared ++ [definition.name.name]) definitions

/-- A name is mentioned that is not declared, or that has an unknown type. -/
def Expr.MentionsMistake (declared : List String) (table : SymbolTable) (expr : Expr) : Prop :=
  ∃ name ∈ expr.mentions, name.name ∉ declared ∨
    ∃ symbol, table.lookup? name.name = some symbol ∧ symbol.type = some .unknown

section Mentions

variable {declared : List String} {table : SymbolTable} {node : Node} {left right : Expr}
  {operator : String}

theorem undeclaredMentions_append (left right : List Ident) :
    undeclaredMentions declared (left ++ right) =
      undeclaredMentions declared left ++ undeclaredMentions declared right := by
  simp [undeclaredMentions]

theorem Expr.mentionsMistake_infixOp :
    (Expr.infixOp node left operator right).MentionsMistake declared table ↔
      left.MentionsMistake declared table ∨ right.MentionsMistake declared table := by
  simp [MentionsMistake, mentions, or_and_right, exists_or]

theorem Expr.mentionsMistake_congr {other : SymbolTable} (expr : Expr)
    (same : ∀ name ∈ declared, table.lookup? name = other.lookup? name) :
    expr.MentionsMistake declared table ↔ expr.MentionsMistake declared other := by
  have each : ∀ name : Ident, (name.name ∉ declared ∨
      ∃ symbol, table.lookup? name.name = some symbol ∧ symbol.type = some .unknown) ↔
      (name.name ∉ declared ∨
        ∃ symbol, other.lookup? name.name = some symbol ∧ symbol.type = some .unknown) := by
    intro name
    by_cases isDeclared : name.name ∈ declared
    · rw [same _ isDeclared]
    · simp [isDeclared]
  simp [MentionsMistake, each]

end Mentions

/-! ## Tables of integers -/

/-- The variable that a definition binds; one of unknown type if it has no value. -/
def Symbol.ofFolded (name : String) : Option Int → Symbol
  | some value => .ofInteger name value
  | none => { name, type := some .unknown, isMutable := false }

theorem Symbol.type_ofFolded {name : String} {value : Option Int} :
    (Symbol.ofFolded name value).type = some .unknown ↔ value = none := by
  cases value with
  | none => exact ⟨fun _ => rfl, fun _ => rfl⟩
  | some value => exact ⟨nofun, nofun⟩

/-- What the table binds are definitions of the declared names. -/
structure SymbolTable.Folds (table : SymbolTable) (declared : List String) : Prop where
  functions : table.functions = []
  bound : ∀ name ∈ declared, ∃ value, table.lookup? name = some (.ofFolded name value)
  unbound : ∀ name, name ∉ declared → table.lookup? name = none

namespace SymbolTable

variable {table : SymbolTable} {declared : List String} {name : String} {value : Option Int}

theorem lookup?_bind_ofFolded :
    (table.bind (.ofFolded name value)).lookup? name = some (.ofFolded name value) := by
  cases value with
  | none => exact lookup?_bind_self (Symbol.ofFolded name none)
  | some value => exact lookup?_bind_self (Symbol.ofFolded name (some value))

theorem lookup?_bind_ofFolded_of_ne {other : String} (different : other ≠ name) :
    (table.bind (.ofFolded name value)).lookup? other = table.lookup? other := by
  apply lookup?_bind_of_ne
  cases value <;> exact different.symm

theorem Folds.fresh (folds : table.Folds declared) (new : name ∉ declared) :
    table.inner.find? name = none := by
  have nowhere := folds.unbound name new
  unfold lookup? scopes at nowhere
  rw [List.findSome?_eq_none_iff] at nowhere
  exact nowhere _ List.mem_cons_self

theorem Folds.bind (folds : table.Folds declared) (name : String) (value : Option Int) :
    (table.bind (.ofFolded name value)).Folds (declared ++ [name]) := by
  refine ⟨folds.functions, ?_, ?_⟩
  · intro other member
    by_cases same : other = name
    · exact ⟨value, same ▸ lookup?_bind_ofFolded⟩
    · rw [lookup?_bind_ofFolded_of_ne same]
      apply folds.bound
      rcases List.mem_append.mp member with member | member
      · exact member
      · exact absurd (List.mem_singleton.mp member) same
  · intro other new
    rw [List.mem_append, List.mem_singleton, not_or] at new
    rw [lookup?_bind_ofFolded_of_ne new.2]
    exact folds.unbound other new.1

end SymbolTable

/-! ## Rules -/

namespace Analysis

variable {table : SymbolTable} {declared : List String}

/-- A name of a definition stands for its value, and another one is reported. -/
theorem tells_name (folds : table.Folds declared) (name : Ident) :
    ∃ value, Tells table (identifier name) (.ofInteger value)
        (undeclaredMentions declared [name]) ∧
      (value = none ↔ (Expr.ident name).MentionsMistake declared table) := by
  by_cases isDeclared : name.name ∈ declared
  · rcases folds.bound _ isDeclared with ⟨value, bound⟩
    have quiet : undeclaredMentions declared [name] = [] := by
      simp [undeclaredMentions, isDeclared]
    refine ⟨value, ?_, ?_⟩
    · rw [quiet]
      apply Tells.table_bind
      rw [bound]
      cases value <;> exact .pure _
    · simp [Expr.MentionsMistake, Expr.mentions, isDeclared, bound, Symbol.type_ofFolded]
  · have told : undeclaredMentions declared [name] =
        [(Finding.undeclared name.name false).placed name.position] := by
      simp [undeclaredMentions, isDeclared]
    have noFunction : table.function? name.name = none := by
      unfold SymbolTable.function?
      rw [folds.functions]
      rfl
    refine ⟨none, ?_, ?_⟩
    · rw [told]
      apply Tells.table_bind
      rw [folds.unbound _ isDeclared]
      apply Tells.table_bind
      rw [noFunction]
      exact (Tells.report _ _).before (.pure _)
    · simp [Expr.MentionsMistake, Expr.mentions, isDeclared]

/-- A total operator has a value if both operands have one, and reports nothing. -/
theorem exists_arithmetic {op : IntegerOp} (total : op.IsTotal) (ctx : Context) (node : Node)
    (leftNode rightNode : Node) (left right : Option Int) (target : Option Ty) :
    ∃ value, arithmetic ctx node op.arith ⟨leftNode, .ofInteger left⟩
        ⟨rightNode, .ofInteger right⟩ target = pure (.ofInteger value) ∧
      (value = none ↔ left = none ∨ right = none) := by
  cases left with
  | none => exact ⟨none, rfl, by simp⟩
  | some left =>
      cases right with
      | none => exact ⟨none, rfl, by simp⟩
      | some right =>
          have applies : ∃ value, op.apply left right = some value := by
            rcases total with rfl | rfl | rfl <;> exact ⟨_, rfl⟩
          rcases applies with ⟨value, applied⟩
          refine ⟨some value, ?_, by simp⟩
          rw [arithmetic_integers, applied]

end Analysis

/-! ## Expressions -/

/-- A polynomial reports the undeclared names that it mentions, and has a value unless it mentions
a mistake. -/
theorem Expr.IsPolynomial.tells {expr : Expr} (polynomial : expr.IsPolynomial)
    {table : SymbolTable} {declared : List String} (folds : table.Folds declared) (ctx : Context)
    (target : Option Ty) :
    ∃ value, Tells table (expr.resolve ctx target) (.ofInteger value)
        (undeclaredMentions declared expr.mentions) ∧
      (value = none ↔ expr.MentionsMistake declared table) := by
  induction polynomial generalizing target with
  | @literal node text value valid =>
      refine ⟨some value, ?_, ?_⟩
      · apply Tells.recorded
        rw [integerLiteral_eq node valid]
        exact .pure _
      · simp [MentionsMistake, mentions]
  | name ident =>
      rcases tells_name folds ident with ⟨value, tells, mistaken⟩
      exact ⟨value, .recorded _ tells, mistaken⟩
  | @negation node right operand induction =>
      rcases induction target with ⟨value, tells, mistaken⟩
      refine ⟨value.map (-·), ?_, ?_⟩
      · apply Tells.recorded
        apply tells.before
        rw [prefixed_integer]
        exact .pure _
      · rw [Option.map_eq_none_iff]
        exact mistaken
  | @operation node left right op total leftOperand rightOperand leftInduction rightInduction =>
      rcases leftInduction (scalarHint target) with ⟨leftValue, leftTells, leftMistaken⟩
      rcases rightInduction (scalarHint target) with ⟨rightValue, rightTells, rightMistaken⟩
      rcases exists_arithmetic total ctx node left.node right.node leftValue rightValue target with
        ⟨value, combined, missing⟩
      refine ⟨value, ?_, ?_⟩
      · unfold Expr.resolve Expr.mentions
        rw [undeclaredMentions_append]
        apply Tells.recorded
        rw [op.ofSymbol?_symbol]
        apply leftTells.bind
        apply rightTells.before
        change Tells table (arithmetic ctx node op.arith _ _ target) _ _
        rw [combined]
        exact .pure _
      · rw [missing, leftMistaken, rightMistaken, mentionsMistake_infixOp]

theorem Expr.IsPolynomial.isMissing {expr : Expr} (polynomial : expr.IsPolynomial) :
    expr.isMissing = false := by
  cases polynomial <;> rfl

theorem Expr.IsPolynomial.isUndef {expr : Expr} (polynomial : expr.IsPolynomial) :
    expr.isUndef = false := by
  cases polynomial <;> rfl

/-! ## Definitions -/

section Definitions

variable {state : State} {declared : List String}

theorem Expr.IsPolynomial.run_definition {definition : Definition}
    (polynomial : definition.value.IsPolynomial) (folds : state.table.Folds declared)
    (new : definition.name.name ∉ declared) (ctx : Context) :
    ∃ value after, (definition.toStmt.analyze ctx).run state = .ok none after ∧
      after.table = state.table.bind (.ofFolded definition.name.name value) ∧
      after.reports = state.reports ++ undeclaredMentions declared definition.value.mentions ∧
      (value = none ↔ definition.value.MentionsMistake declared state.table) := by
  rcases polynomial.tells folds ctx none with ⟨value, resolves, mistaken⟩
  have binds : Tells state.table (bindingType ctx false definition.name none
      ⟨definition.value.node, .ofInteger value⟩) (Operand.ofInteger value).type [] := by
    cases value <;> exact .pure _
  have symbol : boundSymbol false definition.name.name (Operand.ofInteger value).type
      (.ofInteger value) = .ofFolded definition.name.name value := by
    cases value <;> rfl
  have declares : declaredType definition.name.name .missing = pure none := rfl
  rcases run_declaration definition.node polynomial.isMissing polynomial.isUndef declares
    resolves binds (folds.fresh new) with ⟨after, ran, table, told⟩
  rw [symbol] at table
  rw [List.append_nil] at told
  exact ⟨value, after, ran, table, told, mistaken⟩

/-- How definitions end that stand behind declared names. -/
structure Definition.EndsIn (declared : List String) (definitions : List Definition)
    (before after : State) : Prop where
  reports : after.reports = before.reports ++ undeclaredReports declared definitions
  kept : ∀ name ∈ declared, after.table.lookup? name = before.table.lookup? name
  bound : ∀ earlier definition later, definitions = earlier ++ definition :: later →
    ∃ value, after.table.lookup? definition.name.name
        = some (.ofFolded definition.name.name value) ∧
      (value = none ↔ definition.value.MentionsMistake
        (declared ++ earlier.map (·.name.name)) after.table)

theorem Definition.exists_end {definitions : List Definition}
    (polynomials : ∀ definition ∈ definitions, definition.value.IsPolynomial)
    (folds : state.table.Folds declared)
    (distinct : (definitions.map (·.name.name)).Nodup)
    (new : ∀ definition ∈ definitions, definition.name.name ∉ declared) (ctx : Context) :
    ∃ after, ((Stmts.ofList (definitions.map Definition.toStmt)).analyze ctx).run state
        = .ok [] after ∧ Definition.EndsIn declared definitions state after := by
  induction definitions generalizing state declared with
  | nil =>
      refine ⟨state, rfl, (List.append_nil _).symm, fun _ _ => rfl, ?_⟩
      intro earlier definition later split
      simp at split
  | cons first definitions induction =>
      rw [List.forall_mem_cons] at polynomials new
      rw [List.map_cons, List.nodup_cons] at distinct
      rcases polynomials.1.run_definition folds new.1 ctx with
        ⟨value, middle, started, table, told, mistaken⟩
      have foldsMiddle : middle.table.Folds (declared ++ [first.name.name]) := by
        rw [table]
        exact folds.bind _ _
      have newMiddle : ∀ definition ∈ definitions,
          definition.name.name ∉ declared ++ [first.name.name] := by
        intro definition member old
        rcases List.mem_append.mp old with old | old
        · exact new.2 definition member old
        · apply distinct.1
          rw [← List.mem_singleton.mp old]
          exact List.mem_map_of_mem member
      have keptMiddle : ∀ name ∈ declared,
          middle.table.lookup? name = state.table.lookup? name := by
        intro name member
        rw [table]
        apply SymbolTable.lookup?_bind_ofFolded_of_ne
        rintro rfl
        exact new.1 member
      rcases induction polynomials.2 foldsMiddle distinct.2 newMiddle with ⟨after, ended, ends⟩
      have kept : ∀ name ∈ declared, after.table.lookup? name = state.table.lookup? name :=
        fun name member =>
          (ends.kept name (List.mem_append_left _ member)).trans (keptMiddle name member)
      refine ⟨after, ?_, ?_, kept, ?_⟩
      · change (Stmts.analyze ctx (.cons first.toStmt _)).run state = _
        unfold Stmts.analyze
        rw [run_bind_of_ok started, run_bind_of_ok ended]
        rfl
      · rw [ends.reports, told, List.append_assoc]
        rfl
      · intro earlier definition later split
        cases earlier with
        | nil =>
            cases split
            refine ⟨value, ?_, ?_⟩
            · rw [ends.kept _ (List.mem_append_right _ List.mem_cons_self), table]
              exact SymbolTable.lookup?_bind_ofFolded
            · rw [mistaken, List.map_nil, List.append_nil]
              exact (Expr.mentionsMistake_congr _ kept).symm
        | cons head earlier =>
            cases split
            have bound := ends.bound earlier definition later rfl
            rwa [List.append_assoc] at bound

end Definitions

/-! ## Programs -/

/-- A program of definitions and nothing else. -/
def Program.ofDefinitions (file : String) (definitions : List Definition) : Program where
  file
  statements := .ofList (definitions.map Definition.toStmt)

theorem Definition.declareFunctions_eq (definitions : List Definition) :
    (Stmts.ofList (definitions.map Definition.toStmt)).declareFunctions = pure () := by
  induction definitions with
  | nil => rfl
  | cons definition definitions induction => exact induction

/-- Definitions by polynomials are analyzed to the end, under every policy and pointer width. The
reports are those of the mentions of undeclared names, in order, and no others. A definition is of
unknown type exactly if it mentions an undeclared name or one of unknown type; otherwise it is an
integer with a known value. -/
theorem Program.mistakes_reported_once (file : String) {definitions : List Definition}
    (polynomials : ∀ definition ∈ definitions, definition.value.IsPolynomial)
    (distinct : (definitions.map (·.name.name)).Nodup) (policy : BranchPolicy)
    (width : PointerWidth) :
    ∃ state, ((ofDefinitions file definitions).analyze (.start policy width) .full).run
        (.ofTable .empty) = .ok () state ∧
      state.reports = undeclaredReports [] definitions ∧
      ∀ earlier definition later, definitions = earlier ++ definition :: later →
        ∃ symbol, state.table.lookup? definition.name.name = some symbol ∧
          (symbol.type = some .unknown ↔ definition.value.MentionsMistake
            (earlier.map (·.name.name)) state.table) ∧
          (¬definition.value.MentionsMistake (earlier.map (·.name.name)) state.table →
            ∃ value, symbol = .ofInteger definition.name.name value) := by
  have folds : (State.ofTable .empty).table.Folds [] := ⟨rfl, nofun, fun _ _ => rfl⟩
  rcases Definition.exists_end polynomials folds distinct (fun _ _ => nofun)
    (.start policy width) with ⟨after, run, ends⟩
  refine ⟨after, ?_, ends.reports, ?_⟩
  · unfold analyze ofDefinitions
    dsimp only
    rw [Definition.declareFunctions_eq]
    exact run_discard_eq_ok.mpr ⟨[], run⟩
  · intro earlier definition later split
    rcases ends.bound earlier definition later split with ⟨value, bound, mistaken⟩
    rw [List.nil_append] at mistaken
    refine ⟨_, bound, Symbol.type_ofFolded.trans mistaken, ?_⟩
    intro sound
    cases value with
    | none => exact absurd (mistaken.mp rfl) sound
    | some value => exact ⟨value, rfl⟩

namespace Sample

/-- A mistake in the second definition, carried over to the third one, which has another one. -/
def mistaken : List Definition :=
  [⟨node 0, name 1 "two", .int (node 2) "2"⟩,
    ⟨node 3, name 4 "area", .infixOp (node 5) (.ident (name 6 "two")) "*"
      (.ident (name 7 "width"))⟩,
    ⟨node 8, name 9 "rest", .infixOp (node 10) (.ident (name 11 "area")) "-"
      (.prefixOp (node 12) "-" (.ident (name 13 "rest")))⟩,
    ⟨node 14, name 15 "four", .infixOp (node 16) (.ident (name 17 "two")) "+"
      (.ident (name 18 "two"))⟩]

theorem isPolynomial_mistaken : ∀ definition ∈ mistaken, definition.value.IsPolynomial := by
  have add : IntegerOp.add.IsTotal := .inl rfl
  have sub : IntegerOp.sub.IsTotal := .inr (.inl rfl)
  have mul : IntegerOp.mul.IsTotal := .inr (.inr rfl)
  have literal : Literal.integer? "2" = some 2 := rfl
  simp only [mistaken, List.forall_mem_cons]
  exact ⟨.literal literal, .operation mul (.name _) (.name _),
    .operation sub (.name _) (.negation (.name _)), .operation add (.name _) (.name _),
    List.forall_mem_nil _⟩

end Sample

theorem Program.mistakes_reported_once_sample :
    (∀ definition ∈ Sample.mistaken, definition.value.IsPolynomial) ∧
    (Sample.mistaken.map (·.name.name)).Nodup ∧
    ∃ state, ((ofDefinitions "" Sample.mistaken).analyze (.start .strict .bits64) .full).run
        (.ofTable .empty) = .ok () state ∧
      state.reports =
        [(Finding.undeclared "width" false).placed (Sample.node 7).position,
          (Finding.undeclared "rest" false).placed (Sample.node 13).position] ∧
      state.table.lookup? "rest"
        = some { name := "rest", type := some .unknown, isMutable := false } ∧
      state.table.lookup? "four" = some (.ofInteger "four" 4) := by
  have distinct : (Sample.mistaken.map (·.name.name)).Nodup := by decide
  rcases mistakes_reported_once "" Sample.isPolynomial_mistaken distinct .strict .bits64 with
    ⟨state, run, told, _⟩
  have ended : ((ofDefinitions "" Sample.mistaken).analyze (.start .strict .bits64) .full).run
      (.ofTable .empty) = .ok () _ := rfl
  rw [ended] at run
  cases run
  exact ⟨Sample.isPolynomial_mistaken, distinct, _, ended, told, rfl, rfl⟩

end ComptimeTyping
