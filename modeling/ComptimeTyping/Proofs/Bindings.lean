import ComptimeTyping.Proofs.Coherence
import ComptimeTyping.Proofs.Frame

/-! Comptime types live in plain values only. A binding of comptime type is an immutable
variable that has a value, and it goes back to a declaration without an annotation; whatever
else is bound has a type of its own that is not `void`. -/

namespace ComptimeTyping

open Analysis

/-! ## Plain bindings and signatures -/

structure Symbol.Plain (symbol : Symbol) : Prop where
  typed : ∃ type, symbol.type = some type ∧ type.isVoid = false
  comptime : symbol.isComptime = true →
    symbol.isMutable = false ∧ symbol.isInitialized = true ∧ symbol.isParameter = false
  uninitialized : symbol.isInitialized = false → symbol.isMutable = true

structure Signature.Plain (signature : Signature) : Prop where
  distinct : (signature.parameters.map Parameter.name).Nodup
  parameters : ∀ parameter ∈ signature.parameters,
    ∃ type, parameter.type = some type ∧ type.isComptime = false ∧ type.isVoid = false
  result : ∃ type, signature.result = some type ∧ type.isComptime = false

/-- Whatever is reported. -/
def Discipline.plain : Discipline where
  tolerates _ := True
  earlier _ _ := trivial
  operand _ := True
  noted _ := True
  asked _ := True
  annotation type := type.isComptime = false ∧ type.isVoid = false
  symbol := Symbol.Plain
  signature := Signature.Plain
  slot _ _ := True
  parts _ := True

namespace Bindings

open Discipline

variable {α : Type}

abbrev Yields (computation : Analysis α) (good : α → Prop) : Prop :=
  Discipline.plain.Yields computation good

/-! ## Types that are written -/

theorem notComptime_resolve (type : TypeExpr) :
    Yields type.resolve fun resolved => resolved.isComptime = false :=
  ⟨fun run _ => ((Coherence.annotated_resolveIn type none).result run trivial).1⟩

theorem annotation_declaredType (name : String) (type : TypeExpr) :
    Yields (declaredType name type) Discipline.plain.AnnotatedIfAny := by
  have some : ∀ {known}, Discipline.plain.annotation known →
      Discipline.plain.AnnotatedIfAny (some known) := by
    rintro known annotated _ ⟨⟩
    exact annotated
  simp only [declaredType]
  split
  · exact .pure nofun
  · apply (notComptime_resolve type).bind
    intro resolved notComptime
    split
    · exact .after fun _ => .pure (some ⟨rfl, rfl⟩)
    · next notVoid => exact .pure (some ⟨notComptime, by simpa using notVoid⟩)

theorem annotation_parameterType (name : String) (type : TypeExpr) :
    Yields (parameterType name type) Discipline.plain.annotation := by
  apply (notComptime_resolve type).bind
  intro resolved notComptime
  split
  · exact .after fun _ => .pure ⟨rfl, rfl⟩
  · next notVoid => exact .pure ⟨notComptime, by simpa using notVoid⟩

/-! ## Signatures -/

/-- Parameters that were read so far. -/
def Admissible (read : List Parameter) : Prop :=
  (read.map Parameter.name).Nodup ∧ ∀ parameter ∈ read, ∃ type,
    parameter.type = some type ∧ type.isComptime = false ∧ type.isVoid = false

theorem admissible_readParameters (node : Node) (function : String) {read : List Parameter}
    (parameters : List (Option ParameterExpr)) (admissible : Admissible read) :
    Yields (readParameters node function read parameters) Admissible := by
  induction parameters generalizing read with
  | nil => exact .pure admissible
  | cons parameter parameters induction =>
      rcases parameter with _ | ⟨_ | name, type, isMutable⟩
      · exact .stop _
      · exact .stop _
      · simp only [readParameters]
        split
        · exact .stop _
        · apply (annotation_parameterType _ _).bind
          intro resolved annotated
          split
          · exact .after fun _ => induction admissible
          · next fresh =>
              apply induction
              constructor
              · simp only [List.any_eq_true, beq_iff_eq, not_exists, not_and] at fresh
                rw [List.map_append, List.nodup_append]
                refine ⟨admissible.1, by simp, ?_⟩
                simpa using fresh
              · intro other member
                rcases List.mem_append.mp member with earlier | last
                · exact admissible.2 other earlier
                · rcases List.mem_singleton.mp last with rfl
                  exact ⟨resolved, rfl, annotated⟩

theorem plain_readSignature (node : Node) (name : Option Ident)
    (parameters : List (Option ParameterExpr)) (result : TypeExpr) (body : Body) :
    Yields (readSignature node name parameters result body) Signature.Plain := by
  have nothing : Admissible [] := ⟨List.nodup_nil, List.forall_mem_nil _⟩
  cases name with
  | none => exact .stop _
  | some name =>
      simp only [readSignature]
      split
      · exact .stop _
      · apply (admissible_readParameters _ _ _ nothing).bind
        intro read admissible
        split
        · exact .pure ⟨admissible.1, admissible.2, _, rfl, rfl⟩
        · apply (notComptime_resolve result).bind
          exact fun type notComptime => .pure ⟨admissible.1, admissible.2, _, rfl, notComptime⟩

/-! ## Slots and bindings -/

/-- A slot that is not comptime holds what it is asked for, an array or a range. -/
theorem assign_cases {source target type : Ty} {explicit : Bool}
    (notComptime : target.isComptime = false)
    (filled : source.assign target explicit = .ok type) :
    type = target ∨ (∃ element dims, type = .array element dims) ∨
      ∃ element form, type = .range element form := by
  simp only [Ty.assign] at filled
  split at filled
  · cases filled
    exact .inl rfl
  · split at filled
    · split at filled
      · exact .inl (Ty.eq_of_assignScalar filled)
      · cases filled
    · rcases Ty.exists_of_assignArray filled with ⟨axes, rfl⟩
      exact .inr (.inl ⟨_, _, rfl⟩)
    · cases notComptime
    · rcases Ty.exists_of_assignRange filled with ⟨form, rfl⟩
      exact .inr (.inr ⟨_, _, rfl⟩)
    · cases notComptime

theorem annotation_assign {source target type : Ty} {explicit : Bool}
    (annotated : Discipline.plain.annotation target)
    (filled : source.assign target explicit = .ok type) :
    Discipline.plain.annotation type := by
  rcases assign_cases annotated.1 filled with rfl | ⟨_, _, rfl⟩ | ⟨_, _, rfl⟩
  · exact annotated
  · exact ⟨rfl, rfl⟩
  · exact ⟨rfl, rfl⟩

theorem annotation_fill (ctx : Context) (source : Resolved) {target : Ty} (label : String)
    (annotated : Discipline.plain.annotation target) :
    Yields (fill ctx source target label) Discipline.plain.annotation :=
  .fill annotated fun filled => .inl (annotation_assign annotated filled)

theorem annotation_materialize (ctx : Context) (source : Resolved) {target : Ty}
    (label : String) (annotated : Discipline.plain.annotation target) :
    Yields (materialize ctx source target label) Discipline.plain.annotation := by
  apply (annotation_fill ctx source label annotated).bind
  exact fun type given => .guarded (.pure given)

theorem name_boundSymbol (isMutable : Bool) (name : String) (type : Ty) (value : Operand) :
    (boundSymbol isMutable name type value).name = name := by
  simp only [boundSymbol]
  split <;> rfl

theorem isComptime_boundSymbol (isMutable : Bool) (name : String) (type : Ty)
    (value : Operand) :
    (boundSymbol isMutable name type value).isComptime = type.isComptime := by
  simp only [boundSymbol]
  split <;> rfl

theorem plain_boundSymbol {isMutable : Bool} (name : String) {type : Ty} (value : Operand)
    (notVoid : type.isVoid = false)
    (immutable : type.isComptime = true → isMutable = false) :
    (boundSymbol isMutable name type value).Plain where
  typed := by
    refine ⟨type, ?_, notVoid⟩
    simp only [boundSymbol]
    split <;> rfl
  comptime := by
    intro comptime
    rw [isComptime_boundSymbol] at comptime
    simp only [boundSymbol, comptime, if_true, immutable, and_self]
  uninitialized := by
    simp only [boundSymbol]
    split <;> nofun

/-- What is bound without an annotation keeps its type, unless that is refused. -/
theorem inferred_cases (ctx : Context) (isMutable : Bool) (name : Ident) (value : Resolved) :
    Yields (bindingType ctx isMutable name none value) fun type =>
      type = .unknown ∨ type = value.type ∧ type.isVoid = false ∧
        (type.isComptime = true → isMutable = false) := by
  simp only [bindingType]
  split
  · exact .after fun _ => .pure (.inl rfl)
  · next notVoid =>
      split
      · exact .after fun _ => .pure (.inl rfl)
      · next allowed =>
          refine .pure (.inr ⟨rfl, by simpa using notVoid, ?_⟩)
          intro comptime
          simpa [comptime] using allowed

/-- A binding without more than a type. -/
theorem plain_annotated {symbol : Symbol} {type : Ty} (typed : symbol.type = some type)
    (annotated : Discipline.plain.annotation type)
    (mutable : symbol.isInitialized = false → symbol.isMutable = true) : symbol.Plain := by
  refine ⟨⟨type, typed, annotated.2⟩, ?_, mutable⟩
  intro comptime
  simp [Symbol.isComptime, typed, annotated.1] at comptime

end Bindings

open Bindings in
theorem Discipline.lawful_plain : Discipline.plain.Lawful where
  notedOperand _ := trivial
  notedSymbol _ := trivial
  notedAsked _ := trivial
  unknown _ := trivial
  integer _ _ := ⟨fun _ _ => trivial⟩
  float _ _ := ⟨fun _ _ => trivial⟩
  bool := trivial
  string := trivial
  void := trivial
  name _ _ := trivial
  prefixed _ _ _ := ⟨fun _ _ => trivial⟩
  infixed _ _ _ _ _ _ _ := ⟨fun _ _ => trivial⟩
  converted _ _ _ _ _ _ := ⟨fun _ _ _ => trivial⟩
  array _ _ _ _ _ := ⟨fun _ _ => trivial⟩
  rangeStart _ _ := ⟨fun _ _ => trivial⟩
  rangeBound _ _ _ := ⟨fun _ _ => trivial⟩
  range _ _ _ _ _ _ _ := ⟨fun _ _ => trivial⟩
  indexing _ _ _ _ := ⟨fun _ _ => trivial⟩
  property _ _ := ⟨fun _ _ => trivial⟩
  joined _ _ _ _ _ _ := ⟨fun _ _ _ => trivial⟩
  answered _ := trivial
  askedBool := trivial
  askedIndex _ := trivial
  askedElement _ _ _ := trivial
  askedBound _ _ _ := trivial
  askedConversion _ := ⟨fun _ _ => trivial⟩
  annotatedDeclaration name _ := annotation_declaredType name _
  askedAnnotation _ := trivial
  signature node name body _ _ := plain_readSignature node name _ _ body
  parameter := by
    intro signature parameter plain member
    rcases plain.parameters parameter member with ⟨type, typed, annotated⟩
    exact plain_annotated typed annotated nofun
  askedArgument _ _ _ _ := trivial
  askedResult _ := trivial
  filled _ _ _ _ := ⟨fun _ _ _ => trivial⟩
  annotated ctx isMutable name label _ annotated := by
    apply (annotation_fill ctx _ label annotated).mono
    intro type given
    apply plain_boundSymbol _ _ given.2
    simp [given.1]
  inferred ctx isMutable name _ := by
    apply (inferred_cases ctx isMutable name _).mono
    rintro type (rfl | ⟨_, notVoid, immutable⟩)
    · exact plain_boundSymbol _ _ rfl nofun
    · exact plain_boundSymbol _ _ notVoid immutable
  untyped _ _ _ := plain_annotated rfl ⟨rfl, rfl⟩ nofun
  uninitialized _ annotated := plain_annotated rfl annotated fun _ => rfl
  immutable _ _ annotated := plain_annotated rfl annotated nofun
  askedAssignment _ _ _ _ := trivial
  initialized := by
    rintro symbol ⟨typed, comptime, _⟩
    refine ⟨typed, ?_, nofun⟩
    intro isComptime
    rcases comptime isComptime with ⟨immutable, _, notParameter⟩
    exact ⟨immutable, rfl, notParameter⟩

/-! ## Where comptime bindings come from -/

theorem Symbol.KeptAs.eq_of_isInitialized {before after : Symbol} (kept : before.KeptAs after)
    (initialized : before.isInitialized = true) : after = before := by
  have still := kept.isInitialized initialized
  cases before
  cases after
  cases kept
  simp_all

theorem Scope.KeptAs.exists_of_find? {before after : Scope} (kept : before.KeptAs after)
    {name : String} {later : Symbol} (found : after.find? name = some later) :
    ∃ earlier, before.find? name = some earlier ∧ earlier.KeptAs later := by
  cases present : before.find? name with
  | none =>
      rw [kept.closed name present] at found
      cases found
  | some earlier =>
      rcases kept.bindings name earlier present with ⟨same, foundAgain, keptAs⟩
      rw [found] at foundAgain
      cases foundAgain
      exact ⟨earlier, rfl, keptAs⟩

theorem exists_keptAs_of_mem {before after : List Scope}
    (kept : List.Forall₂ Scope.KeptAs before after) {scope : Scope} (member : scope ∈ after) :
    ∃ earlier ∈ before, earlier.KeptAs scope := by
  induction kept with
  | nil => cases member
  | cons head _ induction =>
      rcases List.mem_cons.mp member with rfl | inside
      · exact ⟨_, List.mem_cons_self, head⟩
      · rcases induction inside with ⟨earlier, outer, same⟩
        exact ⟨earlier, List.mem_cons_of_mem _ outer, same⟩

namespace SymbolTable

variable {source : Symbol → Prop} {before after : SymbolTable}

/-- Every comptime binding that is no parameter has a source. -/
def Sourced (source : Symbol → Prop) (table : SymbolTable) : Prop :=
  ∀ scope ∈ table.scopes, ∀ name symbol, scope.find? name = some symbol →
    symbol.isComptime = true → symbol.isParameter = false → source symbol

/-- No binding without a source is new. -/
def Retains (source : Symbol → Prop) (before after : SymbolTable) : Prop :=
  before.Sourced source → after.Sourced source

instance : IsPreorder SymbolTable (Retains source) where
  refl _ := id
  trans _ _ _ first second := second ∘ first

theorem sourced_empty : empty.Sourced source := by
  intro scope member name symbol found
  rcases List.mem_singleton.mp member with rfl
  cases found

theorem retains_enter (table : SymbolTable) (kind : ScopeKind) :
    table.Retains source (table.enter kind) := by
  intro sourced scope member name symbol found
  rcases List.mem_cons.mp member with rfl | outer
  · cases found
  · exact sourced scope outer name symbol found

theorem KeptAs.retains (complete : ∀ symbol, source symbol → symbol.isInitialized = true)
    (kept : before.KeptAs after) : before.Retains source after := by
  intro sourced scope member name later found comptime notParameter
  rcases exists_keptAs_of_mem kept.scopes member with ⟨earlierScope, inScopes, keptScope⟩
  rcases keptScope.exists_of_find? found with ⟨earlier, foundEarlier, keptAs⟩
  have sameComptime : earlier.isComptime = true := by
    rwa [Symbol.isComptime, ← keptAs.type]
  have origin := sourced earlierScope inScopes name earlier foundEarlier sameComptime
    (keptAs.isParameter.symm.trans notParameter)
  rwa [keptAs.eq_of_isInitialized (complete earlier origin)]

theorem retains_declare {symbol : Symbol}
    (given : before.inner.find? symbol.name = none → symbol.isComptime = true →
      symbol.isParameter = false → source symbol)
    (declared : before.declare symbol = .ok after) : before.Retains source after := by
  intro sourced scope member name other found comptime notParameter
  rw [SymbolTable.declare_eq] at declared
  split at declared
  · cases declared
  · next fresh =>
      cases declared
      rcases List.mem_cons.mp member with rfl | outer
      · simp only [Scope.find?, List.find?_cons] at found
        split at found
        · cases found
          exact given fresh comptime notParameter
        · exact sourced _ List.mem_cons_self name other found comptime notParameter
      · exact sourced scope (List.mem_cons_of_mem _ outer) name other found comptime notParameter

end SymbolTable

open SymbolTable (Retains)

section Origins

variable {α : Type} {source : Symbol → Prop}

/-! ## Computations that bind nothing without a source -/

theorem Analysis.Moves.retaining {computation : Analysis α}
    (complete : ∀ symbol, source symbol → symbol.isInitialized = true)
    (moves : computation.Moves SymbolTable.KeptAs) : computation.Moves (Retains source) :=
  moves.mono (SymbolTable.KeptAs.retains complete)

theorem retains_declareParameters (node : Node) (signature : Signature) (number : Nat)
    (parameters : List Parameter) :
    (declareParameters node signature number parameters).Moves (Retains source) := by
  induction parameters generalizing number with
  | nil => exact .pure _
  | cons parameter parameters induction =>
      constructor
      intro state
      simp only [declareParameters]
      rw [run_table_bind]
      cases declared : state.table.declareParameter parameter with
      | ok table =>
          have retains : state.table.Retains source table := by
            rw [SymbolTable.declareParameter_eq] at declared
            split at declared
            · refine SymbolTable.retains_declare ?_ declared
              intro _ _ notParameter
              cases notParameter
            · cases declared
          exact ((induction (number + 1)).tables { state with table }) ∘ retains
      | error refusal =>
          exact ((Moves.report _ _).bind fun _ => induction (number + 1)).tables state

theorem retains_declare (name : Ident) {symbol : Symbol} {state : State}
    (given : state.table.inner.find? symbol.name = none → symbol.isComptime = true →
      source symbol) :
    state.table.Retains source ((declare name symbol).run state).state.table := by
  simp only [declare]
  rw [run_table_bind]
  cases declared : state.table.declare symbol with
  | ok table =>
      exact SymbolTable.retains_declare (fun fresh comptime _ => given fresh comptime) declared
  | error refusal => exact id

theorem retains_bindUndef (isMutable : Bool) (name : Ident) {declared : Option Ty}
    (value : Node) (annotated : Discipline.plain.AnnotatedIfAny declared) :
    (bindUndef isMutable name declared value).Moves (Retains source) := by
  cases declared with
  | none => exact (Moves.report _ _).bind fun _ => ⟨fun _ => retains_declare _ (fun _ => nofun)⟩
  | some type =>
      have declares : ∀ {symbol : Symbol}, symbol.type = some type →
          (declare name symbol).Moves (Retains source) := by
        intro symbol typed
        refine ⟨fun _ => retains_declare name fun _ comptime => ?_⟩
        simp [Symbol.isComptime, typed, (annotated type rfl).1] at comptime
      simp only [bindUndef]
      split
      · exact (declares rfl).bind fun _ => .record _ _
      · exact (Moves.report _ _).bind fun _ => (declares rfl).bind fun _ => .record _ _

theorem state_bind_pure {β : Type} (first : Analysis α) (result : α → β) (state : State) :
    ((first >>= fun value => pure (result value)).run state).state =
      (first.run state).state := by
  rw [run_bind]
  cases first.run state <;> rfl

theorem state_discard (computation : Analysis α) (state : State) :
    ((discard computation).run state).state = (computation.run state).state :=
  state_bind_pure computation (fun _ => ()) state

/-- A sequence whose rest is looked at only where its first part ends. -/
theorem retains_bind {β : Type} {first : Analysis α} {next : α → Analysis β} {before : State}
    (start : before.table.Retains source (first.run before).state.table)
    (rest : ∀ value middle, first.run before = .ok value middle →
      middle.table.Retains source ((next value).run middle).state.table) :
    before.table.Retains source ((first >>= next).run before).state.table := by
  rw [run_bind]
  cases started : first.run before with
  | ok value middle =>
      rw [started] at start
      exact rest value middle started ∘ start
  | error abort middle =>
      rw [started] at start
      exact start

/-- A comptime type is bound only without an annotation, immutably and to a free name. -/
theorem retains_bindValue {ctx : Context} {isMutable : Bool} {name : Ident}
    {declared : Option Ty} {value : Resolved} {state : State}
    (annotated : Discipline.plain.AnnotatedIfAny declared)
    (given : declared = none → isMutable = false → state.table.inner.find? name.name = none →
      source (boundSymbol false name.name value.type value.operand)) :
    state.table.Retains source
      ((bindValue ctx isMutable name declared value).run state).state.table := by
  cases declared with
  | some type =>
      refine retains_bind ((moves_materialize _ _ _ _).tables _) ?_
      intro filled later filling
      have typed := (Bindings.annotation_materialize ctx value "" (annotated type rfl)).result
        filling trivial
      refine retains_declare name fun _ comptime => ?_
      rw [Bindings.isComptime_boundSymbol, typed.1] at comptime
      cases comptime
  | none =>
      have reporting : (bindingType ctx isMutable name none value).Reporting fun _ => True :=
        reporting_bindingType_none _ _ _ _
      refine retains_bind ((Moves.of_reporting reporting).tables _) ?_
      intro bound later binding
      have sameTable := reporting.table_eq state
      rw [binding] at sameTable
      refine retains_declare name fun fresh comptime => ?_
      rw [Bindings.isComptime_boundSymbol] at comptime
      rcases (Bindings.inferred_cases ctx isMutable name value).result binding trivial with
        rfl | ⟨rfl, _, immutable⟩
      · cases comptime
      · rw [immutable comptime]
        rw [Bindings.name_boundSymbol] at fresh
        exact given rfl (immutable comptime) (sameTable ▸ fresh)

end Origins

/-- A declaration of the form `val name = value` that an analysis comes to binds a free name
to what its value is resolved to. -/
def Program.Introduces (ctx : Context) (mode : AnalysisMode) (program : Program)
    (symbol : Symbol) : Prop :=
  ∃ place node name value before operand after,
    program.Meets ctx mode
      ⟨.statement place (.declaration node false (some name) .missing value), before⟩ ∧
    (value.resolve place none).run before = .ok operand after ∧
    after.table.inner.find? name.name = none ∧
    symbol = boundSymbol false name.name operand.type operand

namespace Program

variable {ctx place : Context} {mode : AnalysisMode} {program : Program} {before : State}

theorem Introduces.isInitialized {symbol : Symbol}
    (introduces : program.Introduces ctx mode symbol) : symbol.isInitialized = true := by
  rcases introduces with ⟨_, _, _, _, _, operand, _, _, _, _, rfl⟩
  simp only [boundSymbol]
  split <;> rfl

theorem resolve_retains (target : Option Ty) (expr : Expr) :
    (expr.resolve place target).Moves (Retains (program.Introduces ctx mode)) :=
  (expr.resolve_keeps place target).retaining fun _ => Introduces.isInitialized

/-- Only an annotation that is left out asks for nothing. -/
theorem missing_of_declaredType {name : String} {type : TypeExpr} {after : State}
    (declared : (declaredType name type).run before = .ok none after) :
    type = .missing ∧ after = before := by
  cases type with
  | missing =>
      cases declared
      exact ⟨rfl, rfl⟩
  | _ =>
      simp only [declaredType, TypeExpr.isMissing] at declared
      rcases run_bind_eq_ok.mp declared with ⟨resolved, middle, _, rest⟩
      split at rest
      · cases rest
      · cases rest

theorem retains_declaration {node : Node} {isMutable : Bool} {name : Option Ident}
    {type : TypeExpr} {value : Expr}
    (meets : program.Meets ctx mode
      ⟨.statement place (.declaration node isMutable name type value), before⟩) :
    before.table.Retains (program.Introduces ctx mode)
      (((Stmt.declaration node isMutable name type value).analyze place).run
        before).state.table := by
  cases name with
  | none => exact id
  | some name =>
      simp only [Stmt.analyze]
      split
      · exact id
      · refine retains_bind ((Moves.of_reporting (reporting_declaredType _ _)).tables _) ?_
        intro declared middle declaring
        have annotated :=
          (Bindings.annotation_declaredType name.name type).result declaring trivial
        split
        · have binds : (bindUndef isMutable name declared value.node).Moves
              (Retains (program.Introduces ctx mode)) := retains_bindUndef _ _ _ annotated
          exact (binds.bind fun _ => .pure _).tables middle
        · refine retains_bind ((resolve_retains declared value).tables _) ?_
          intro operand after resolving
          rw [state_bind_pure]
          refine retains_bindValue annotated ?_
          rintro rfl rfl fresh
          rcases missing_of_declaredType declaring with ⟨rfl, rfl⟩
          exact ⟨place, node, name, value, _, operand, after, meets, resolving, fresh, rfl⟩

theorem retains_statement {statement : Stmt}
    (meets : program.Meets ctx mode ⟨.statement place statement, before⟩) :
    before.table.Retains (program.Introduces ctx mode)
      ((statement.analyze place).run before).state.table := by
  have moved := (statement.analyze_moves place).tables before
  cases statement with
  | declaration => exact retains_declaration meets
  | _ => exact SymbolTable.KeptAs.retains (fun _ => Introduces.isInitialized) moved

theorem retains_statements (statements : Stmts) {before : State}
    (meets : program.Meets ctx mode ⟨.statements place statements, before⟩) :
    before.table.Retains (program.Introduces ctx mode)
      ((statements.analyze place).run before).state.table := by
  cases statements with
  | nil => exact id
  | cons head tail =>
      simp only [Stmts.analyze]
      refine retains_bind (retains_statement (meets.called List.mem_cons_self)) ?_
      intro branch middle ran
      rw [state_bind_pure]
      apply retains_statements tail
      apply meets.called
      simp [Moment.calls, Stmts.calls, leading, ran]

end Program

/-! ## Moments of an analysis -/

/-- The tables at some moments hold no new binding without a source. -/
structure Retained (source : Symbol → Prop) (before : State) (moments : List Moment) :
    Prop where
  tables : ∀ moment ∈ moments, before.table.Retains source moment.state.table

namespace Retained

variable {α : Type} {source : Symbol → Prop} {before : State} {moments more : List Moment}

theorem nil : Retained source before [] :=
  ⟨List.forall_mem_nil _⟩

theorem cons {task : Task} (rest : Retained source before moments) :
    Retained source before (⟨task, before⟩ :: moments) :=
  ⟨List.forall_mem_cons.mpr ⟨id, rest.tables⟩⟩

theorem one {task : Task} : Retained source before [⟨task, before⟩] :=
  cons nil

theorem append (first : Retained source before moments)
    (rest : Retained source before more) : Retained source before (moments ++ more) :=
  ⟨List.forall_mem_append.mpr ⟨first.tables, rest.tables⟩⟩

theorem entered (kind : ScopeKind)
    (retained : Retained source { before with table := before.table.enter kind } moments) :
    Retained source before moments := by
  refine ⟨fun moment member => ?_⟩
  exact retained.tables moment member ∘ before.table.retains_enter kind

theorem required {condition : Prop} [Decidable condition]
    (retained : Retained source before moments) :
    Retained source before (if condition then [] else moments) := by
  split
  · exact nil
  · exact retained

theorem leading {first : Analysis α} {next : α → State → List Moment}
    (moves : first.Moves (Retains source))
    (rest : ∀ value middle, Retained source middle (next value middle)) :
    Retained source before (first.leading before next) := by
  have start := moves.tables before
  simp only [Analysis.leading]
  split
  · next value middle run =>
      rw [run] at start
      refine ⟨fun moment member => ?_⟩
      exact (rest value middle).tables moment member ∘ start
  · exact nil

end Retained

section Calls

variable {source : Symbol → Prop} {ctx : Context} {before : State}

theorem Expr.retained_calls (complete : ∀ symbol, source symbol → symbol.isInitialized = true)
    (target : Option Ty) (expr : Expr) :
    Retained source before (expr.calls ctx target before) := by
  have resolves : ∀ (part : Expr) (hint : Option Ty),
      (part.resolve ctx hint).Moves (Retains source) :=
    fun part hint => (part.resolve_keeps ctx hint).retaining complete
  have bound : ∀ (part : Expr) (hint : Option Ty) (state : State),
      Retained source state (part.boundCalls ctx hint state) := fun _ _ _ => .required .one
  cases expr with
  | prefixOp | array => exact .one
  | infixOp node left operator right =>
      simp only [Expr.calls]
      cases InfixOp.ofSymbol? operator with
      | none => exact .nil
      | some op => exact .cons (.leading (resolves left _) fun _ _ => .one)
  | conversion node value type =>
      exact .required (.leading (.of_reporting type.reporting_resolve) fun _ _ => .one)
  | range node start stop step =>
      apply Retained.leading (.of_reporting (reporting_startParts _ _))
      intro parts begun
      refine .append (bound start _ _) (.leading (moves_withBound _ _ _ (resolves start _)) ?_)
      intro started middle
      refine .append (bound stop _ _) (.leading (moves_withBound _ _ _ (resolves stop _)) ?_)
      exact fun _ _ => bound step _ _
  | index node left index => exact .cons (.leading (resolves left _) fun _ _ => .one)
  | member node left name =>
      cases name with
      | none => exact .nil
      | some _ => exact .one
  | call node callee arguments =>
      cases callee with
      | none => exact .nil
      | some callee =>
          simp only [Expr.calls]
          cases before.table.function? callee.name with
          | some signature =>
              exact .leading (.of_reporting (reporting_requireArity _ _ _)) fun _ _ => .one
          | none => exact .leading (.report _ _) fun _ _ => .one
  | block => exact .entered .block .one
  | conditional node condition consequence alternative =>
      refine .cons (.leading (resolves condition _) fun _ _ => ?_)
      refine .leading (.of_reporting (reporting_requireCondition _)) fun _ _ => .required ?_
      have resolvesBody := (consequence.resolve_keeps ctx target).retaining complete
      exact .cons (.leading resolvesBody fun _ _ => .required .one)
  | _ => exact .nil

theorem Exprs.retained_argumentCalls
    (complete : ∀ symbol, source symbol → symbol.isInitialized = true) (signature : Signature)
    (number : Nat) (parameters : List Parameter) (exprs : Exprs) :
    Retained source before (exprs.argumentCalls ctx signature number parameters before) := by
  cases exprs with
  | nil => exact .nil
  | cons head tail =>
      have resolves := fun hint => (head.resolve_keeps ctx hint).retaining complete
      cases parameters with
      | nil => exact .cons (.leading (resolves _) fun _ _ => .one)
      | cons parameter parameters =>
          refine .cons (.leading (resolves _) fun _ _ => ?_)
          exact .leading (moves_materialize? _ _ _ _) fun _ _ => .one

theorem Stmt.retained_calls (statement : Stmt) :
    Retained source before (statement.calls ctx before) := by
  cases statement with
  | missing => exact .nil
  | declaration node isMutable name =>
      cases name with
      | none => exact .nil
      | some name =>
          refine .required (.leading (.of_reporting (reporting_declaredType _ _)) ?_)
          exact fun _ _ => .required .one
  | assignment node name value =>
      cases name with
      | none => exact .nil
      | some name =>
          apply Retained.required
          cases before.table.lookup? name.name with
          | none => exact .leading (.report _ _) fun _ _ => .one
          | some symbol => exact .leading (moves_requireMutable _ _) fun _ _ => .one
  | returning node value =>
      apply Retained.required
      cases ctx.function with
      | none => exact .leading (.report _ _) fun _ _ => .one
      | some signature => exact .leading (.setReturned _) fun _ _ => .one
  | yielding node value =>
      apply Retained.required
      cases ctx.block with
      | none => exact .leading (.report _ _) fun _ _ => .one
      | some target => exact .one
  | expression => exact .one
  | function node name parameters result body =>
      refine .required (.leading (moves_signatureOf _ _ _ _ _) fun signature read => ?_)
      refine .entered .function (.leading (retains_declareParameters _ _ _ _) fun _ _ => ?_)
      refine .leading (.setReturned _) fun _ _ => ?_
      cases body with
      | missing => exact .nil
      | block => exact .one

end Calls

namespace Program

variable {ctx : Context} {mode : AnalysisMode} {program : Program}

theorem retained_calls {moment : Moment} (meets : program.Meets ctx mode moment) :
    Retained (program.Introduces ctx mode) moment.state moment.calls := by
  have complete : ∀ symbol, program.Introduces ctx mode symbol → symbol.isInitialized = true :=
    fun _ => Introduces.isInitialized
  rcases moment with ⟨task, before⟩
  cases task with
  | expr place target expr => exact expr.retained_calls complete target
  | elements place target exprs =>
      cases exprs with
      | nil => exact .nil
      | cons head tail =>
          have resolves := (head.resolve_keeps place target).retaining complete
          exact .cons (.leading resolves fun _ _ => .one)
  | arguments place signature number parameters exprs =>
      exact exprs.retained_argumentCalls complete signature number parameters
  | statement place statement => exact statement.retained_calls
  | statements place statements =>
      cases statements with
      | nil => exact .nil
      | cons head tail =>
          -- What a statement binds is there when the next one is begun.
          have start := retains_statement (meets.called List.mem_cons_self)
          simp only [Moment.calls, Stmts.calls, leading]
          split
          · next branch middle ran =>
              rw [ran] at start
              exact ⟨List.forall_mem_cons.mpr ⟨id, List.forall_mem_singleton.mpr start⟩⟩
          · exact .one

theorem retains_declareFunctions {source : Symbol → Prop} (statements : Stmts) :
    statements.declareFunctions.Moves (Retains source) := by
  apply statements.declareFunctions_registers.mono
  intro before after registered sourced
  simpa only [SymbolTable.Sourced, SymbolTable.scopes, registered.inner, registered.outer]
    using sourced

theorem retained_first :
    Retained (program.Introduces ctx mode) (.ofTable .empty) (program.calls ctx mode) := by
  simp only [Program.calls]
  refine .leading ?_ fun _ state => ?_
  · split
    · exact retains_declareFunctions _
    · exact .pure _
  · split
    · exact .one
    · exact .nil

theorem sourced_of_meets {moment : Moment} (meets : program.Meets ctx mode moment) :
    moment.state.table.Sourced (program.Introduces ctx mode) := by
  rcases meets with ⟨first, called, reaches⟩
  induction reaches with
  | refl => exact retained_first.tables first called SymbolTable.sourced_empty
  | @tail caller callee reached calledThere induction =>
      exact (retained_calls ⟨first, called, reached⟩).tables callee calledThere induction

theorem sourced_outcome {moment : Moment} (meets : program.Meets ctx mode moment) :
    moment.outcome.state.table.Sourced (program.Introduces ctx mode) := by
  have sourced := sourced_of_meets meets
  have complete : ∀ symbol, program.Introduces ctx mode symbol → symbol.isInitialized = true :=
    fun _ => Introduces.isInitialized
  rcases moment with ⟨task, before⟩
  cases task with
  | expr place target expr =>
      exact ((expr.resolve_keeps place target).discard.retaining complete).tables before sourced
  | elements place target exprs =>
      exact ((exprs.resolveAll_keeps place target).discard.retaining complete).tables before
        sourced
  | arguments place signature number parameters exprs =>
      exact ((exprs.resolveArguments_keeps place signature number parameters).retaining
        complete).tables before sourced
  | statement place statement =>
      have ended := retains_statement meets sourced
      rwa [← state_discard] at ended
  | statements place statements =>
      have ended := retains_statements statements meets sourced
      rwa [← state_discard] at ended

theorem sourced_final :
    ((program.analyze ctx mode).run (.ofTable .empty)).state.table.Sourced
      (program.Introduces ctx mode) := by
  have bodies : ∀ {middle}, ⟨.statements ctx program.statements, middle⟩ ∈
      program.calls ctx mode → middle.table.Retains (program.Introduces ctx mode)
        ((discard (program.statements.analyze ctx)).run middle).state.table := by
    intro middle called
    rw [state_discard]
    exact retains_statements _ ⟨_, called, .refl⟩
  have headers : program.statements.declareFunctions.Moves
      (Retains (program.Introduces ctx mode)) := retains_declareFunctions _
  cases mode with
  | full =>
      refine retains_bind (headers.tables _) (fun _ middle ran => bodies ?_)
        SymbolTable.sourced_empty
      simp [Program.calls, leading, AnalysisMode.readsHeaders, AnalysisMode.readsBodies, ran]
  | headers =>
      exact (headers.bind fun _ => .pure _).tables _ SymbolTable.sourced_empty
  | bodies => exact bodies List.mem_cons_self SymbolTable.sourced_empty

end Program

/-! ## Programs -/

/-- In a state, every binding of every scope and every registered signature is plain, and
the comptime bindings have been introduced. -/
structure State.Plain (state : State) (introduced : Symbol → Prop) : Prop where
  symbols : ∀ scope ∈ state.table.scopes, ∀ symbol ∈ scope.symbols, symbol.Plain
  introduced : ∀ scope ∈ state.table.scopes, ∀ name symbol, scope.find? name = some symbol →
    symbol.isComptime = true → introduced symbol
  signatures : ∀ signature ∈ state.table.functions, signature.Plain

theorem Discipline.Holds.plain {state : State} {introduced : Symbol → Prop}
    (holds : Discipline.plain.Holds state) (sourced : state.table.Sourced introduced) :
    state.Plain introduced where
  symbols := holds.symbols
  introduced := by
    intro scope member name symbol found comptime
    have plain := holds.symbols scope member symbol (List.mem_of_find?_eq_some found)
    exact sourced scope member name symbol found comptime (plain.comptime comptime).2.2
  signatures := holds.functions

/-- At every moment of an analysis from an empty table, whatever it reports and however it
ends, comptime types are found in plain values only. -/
theorem Program.plain_throughout (policy : BranchPolicy) (width : PointerWidth)
    (mode : AnalysisMode) (program : Program) :
    ((program.analyze (.start policy width) mode).run (.ofTable .empty)).state.Plain
      (program.Introduces (.start policy width) mode) ∧
    ∀ moment, program.Meets (.start policy width) mode moment →
      moment.state.Plain (program.Introduces (.start policy width) mode) ∧
      moment.outcome.state.Plain (program.Introduces (.start policy width) mode) := by
  have lawful := Discipline.lawful_plain
  constructor
  · have safe := program.analyze_safe lawful (Discipline.admits_start policy width)
      (.empty _) mode
    exact (safe.state trivial).plain sourced_final
  · intro moment meets
    have ready := ready_of_meets lawful meets trivial
    exact ⟨ready.holds.plain (sourced_of_meets meets),
      ((ready.safe lawful).state trivial).plain (sourced_outcome meets)⟩

theorem Program.plain_throughout_sample :
    Sample.picking.Meets (.start .strict .bits32) .full Sample.pick ∧
    ∃ symbol, Sample.pick.state.table.inner.find? "rows" = some symbol ∧
      symbol.isComptime = true ∧
      Sample.picking.Introduces (.start .strict .bits32) .full symbol := by
  have plain := plain_throughout .strict .bits32 .full Sample.picking
  have state := (plain.2 Sample.pick Sample.meets_pick).1
  have found : ∃ symbol, Sample.pick.state.table.inner.find? "rows" = some symbol ∧
      symbol.isComptime = true := ⟨_, rfl, rfl⟩
  rcases found with ⟨symbol, present, comptime⟩
  exact ⟨Sample.meets_pick, symbol, present, comptime,
    state.introduced _ List.mem_cons_self "rows" symbol present comptime⟩

end ComptimeTyping
