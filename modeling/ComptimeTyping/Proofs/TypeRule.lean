import ComptimeTyping.Proofs.Sizes

/-! Promises about every type that an analysis finds, wherever it finds it: in notes, slots,
bindings and signatures. Such a promise needs laws only where types are made; everything else
hands types on, and that is proved once for all of these promises. -/

namespace ComptimeTyping

open Analysis

/-- A promise about every type, made up to some states. -/
structure TypeRule where
  tolerates : State → Prop
  /-- What came earlier is tolerated as well. -/
  earlier : ∀ {before after : State}, before.GrowsTo after →
    tolerates after → tolerates before
  /-- The types that are found. -/
  keeps : Ty → Prop
  /-- The types that a place asks for. -/
  asks : Ty → Prop

/-- A property of all types of a signature. -/
structure Signature.EveryType (signature : Signature) (property : Ty → Prop) : Prop where
  parameters : ∀ parameter ∈ signature.parameters, ∀ type ∈ parameter.type, property type
  result : ∀ type ∈ signature.result, property type

/-- A property of all types in a state. -/
structure State.EveryType (state : State) (property : Ty → Prop) : Prop where
  noted : ∀ entry ∈ state.types, ∀ type ∈ entry.2, property type
  slots : ∀ entry ∈ state.slots, property entry.2
  symbols : ∀ scope ∈ state.table.scopes, ∀ symbol ∈ scope.symbols,
    ∀ type ∈ symbol.type, property type
  functions : ∀ signature ∈ state.table.functions, signature.EveryType property
  signatures : ∀ entry ∈ state.signatures, entry.2.EveryType property

theorem Signature.EveryType.mono {signature : Signature} {stronger weaker : Ty → Prop}
    (every : signature.EveryType stronger) (implied : ∀ type, stronger type → weaker type) :
    signature.EveryType weaker where
  parameters parameter member type found :=
    implied type (every.parameters parameter member type found)
  result type found := implied type (every.result type found)

theorem State.EveryType.mono {state : State} {stronger weaker : Ty → Prop}
    (every : state.EveryType stronger) (implied : ∀ type, stronger type → weaker type) :
    state.EveryType weaker where
  noted entry member type found := implied type (every.noted entry member type found)
  slots entry member := implied entry.2 (every.slots entry member)
  symbols scope inside symbol member type found :=
    implied type (every.symbols scope inside symbol member type found)
  functions signature member := (every.functions signature member).mono implied
  signatures entry member := (every.signatures entry member).mono implied

namespace TypeRule

variable {α : Type} {rule : TypeRule} {covers : Coverage}

/-- Something that is reported is tolerated. -/
def Faulted (rule : TypeRule) : Prop :=
  ∃ state, rule.tolerates state ∧ state.reports ≠ []

def discipline (rule : TypeRule) : Discipline where
  tolerates := rule.tolerates
  earlier := rule.earlier
  operand operand := rule.keeps operand.type
  noted type := ∀ known ∈ type, rule.keeps known
  asked := rule.asks
  annotation := rule.asks
  symbol symbol := ∀ type ∈ symbol.type,
    rule.keeps type ∧ (symbol.isMutable = true ∨ rule.Faulted → rule.asks type)
  signature signature := signature.EveryType rule.asks
  slot _ type := rule.keeps type
  parts parts := ∀ tag ∈ parts.tag, tag.isNumeric = true

/-- Every result that comes with a tolerated state is as it should be. -/
abbrev Yields (rule : TypeRule) (computation : Analysis α) (good : α → Prop) : Prop :=
  rule.discipline.Yields computation good

/-- The type of every resulting operand is as it should be. -/
abbrev Gives (rule : TypeRule) (computation : Analysis Operand) : Prop :=
  rule.Yields computation fun operand => rule.keeps operand.type

/-! ## Laws -/

/-- The promise is kept where types are made. -/
structure Laws (rule : TypeRule) (covers : Coverage) : Prop where
  keeps_of_asks : ∀ {type}, rule.asks type → rule.keeps type
  /-- A type that lasts until run time can be asked for later on. -/
  lasts : ∀ {type}, rule.keeps type → type.isComptime = false ∨ rule.Faulted → rule.asks type
  scalar : ∀ tag, rule.asks (.scalar tag)
  indexRange : rule.asks (.range .usize .bare)
  row : ∀ {type}, rule.keeps type → rule.asks type.row
  written : ∀ {type : TypeExpr}, covers.type type → rule.Yields type.resolve rule.asks
  array : ∀ {elements target} ctx node, covers.array elements.length →
    (∀ element ∈ elements, rule.keeps element.type) → (∀ type ∈ target, rule.asks type) →
    rule.Gives (arrayLiteral ctx node elements target)
  range : ∀ {parts form bounds target} ctx node step, covers.range form →
    (∀ tag ∈ parts.tag, tag.isNumeric = true) → BoundsRead form parts bounds →
    (∀ type ∈ target, rule.asks type) →
    rule.Gives (rangeLiteral ctx node step form (rangeHint target) parts bounds)
  sliced : ∀ {array index axes element form} ctx node, rule.keeps array.type →
    rule.keeps index.type → array.type.dims? = some axes →
    index.type.rangeParts? = some (element, form) →
    rule.Gives (slice ctx node array index form axes.outer)
  filled : ∀ {source target} ctx label, rule.keeps source.type → rule.asks target →
    rule.Yields (fill ctx source target label) rule.asks
  converted : ∀ {value target} ctx node, covers.conversion node value.node →
    rule.discipline.Sees value.node value.type → rule.keeps value.type → rule.asks target →
    rule.Yields (converted ctx node value target) fun operand =>
      rule.discipline.Sees node operand.type → rule.keeps operand.type
  joined : ∀ {branches} ctx node, covers.join node (branches.map Resolved.node) →
    branches ≠ [] → (∀ branch ∈ branches, rule.discipline.Sees branch.node branch.type) →
    (∀ branch ∈ branches, rule.keeps branch.type) →
    rule.Yields (joinBranches ctx branches) fun operand =>
      rule.discipline.Sees node operand.type → rule.keeps operand.type

namespace Laws

open Discipline

theorem keeps_scalar (laws : rule.Laws covers) (tag : Tag) : rule.keeps (.scalar tag) :=
  laws.keeps_of_asks (laws.scalar tag)

theorem refused (laws : rule.Laws covers) (position : Position) (finding : Finding) :
    rule.Gives (refuse position finding) :=
  .after fun _ => .pure (laws.keeps_scalar _)

/-! ## Operators -/

theorem prefixed (laws : rule.Laws covers) (node : Node) (operator : String) {right : Operand}
    (keeps : rule.keeps right.type) : rule.Gives (prefixed node operator right) := by
  simp only [Analysis.prefixed]
  split
  · exact .pure (laws.keeps_scalar _)
  · split
    · simp only [negation]
      repeat' split
      all_goals first | exact laws.refused _ _ | exact .pure keeps
    · split
      · exact .pure (laws.keeps_scalar _)
      · exact laws.refused _ _
    · exact .stop _

theorem foldComptime (laws : rule.Laws covers) (op : ArithOp) (left right : Resolved)
    (leftTag rightTag : Tag) : rule.Gives (foldComptime op left right leftTag rightTag) := by
  simp only [Analysis.foldComptime]
  repeat' split
  all_goals first | exact .stop _ | exact laws.refused _ _ | exact .pure (laws.keeps_scalar _)

theorem combineNumbers (laws : rule.Laws covers) (ctx : Context) (node : Node) (op : ArithOp)
    (left right : Resolved) (leftTag rightTag : Tag) (target : Option Ty) :
    rule.Gives (combineNumbers ctx node op left right leftTag rightTag target) := by
  unfold Analysis.combineNumbers
  split
  · exact laws.refused _ _
  · split
    · exact laws.foldComptime _ _ _ _ _
    · apply Yields.after
      intro result
      split
      · exact .pure (laws.keeps_scalar _)
      · apply Yields.guarded
        apply Yields.guarded
        split
        · exact laws.refused _ _
        · exact .pure (laws.keeps_scalar _)

theorem infixed (laws : rule.Laws covers) (ctx : Context) (node : Node) (operator : String)
    (op : InfixOp) (left right : Resolved) (target : Option Ty) :
    rule.Gives (infixed ctx node operator op left right target) := by
  cases op with
  | arithmetic op =>
      simp only [Analysis.infixed, arithmetic]
      split
      · exact .pure (laws.keeps_scalar _)
      · split
        · exact laws.combineNumbers _ _ _ _ _ _ _ _
        · exact laws.refused _ _
        · exact laws.refused _ _
  | comparison ordered =>
      simp only [Analysis.infixed, comparison]
      repeat' split
      all_goals first
        | exact .after fun _ => .pure (laws.keeps_scalar _)
        | exact .pure (laws.keeps_scalar _)
  | logical => exact .after fun _ => .after fun _ => .pure (laws.keeps_scalar _)

/-! ## Indexing -/

theorem element (laws : rule.Laws covers) (ctx : Context) {array : Resolved} (index : Resolved)
    (outer : Dim) (keeps : rule.keeps array.type) :
    rule.Gives (element ctx array index outer) := by
  have rowKeeps : rule.keeps array.type.row := laws.keeps_of_asks (laws.row keeps)
  have typed : rule.Gives (pure (.typed array.type.row)) := .pure rowKeeps
  have selected : ∀ start,
      rule.Gives (pure (selectRows array.operand array.type.row start 1 1)) := by
    intro start
    apply Yields.pure
    rw [Clean.type_selectRows]
    exact rowKeeps
  simp only [Analysis.element]
  split
  · exact typed
  · split
    · exact .after fun _ => typed
    · split
      · simp only [literalElement]
        apply Yields.after
        intro fits
        repeat' split
        all_goals first | exact typed | exact selected _ | exact .after fun _ => typed
      · repeat' split
        all_goals first | exact typed | exact .after fun _ => typed

theorem indexing (laws : rule.Laws covers) (ctx : Context) (node : Node)
    {array index : Resolved} (arrayKeeps : rule.keeps array.type)
    (indexKeeps : rule.keeps index.type) : rule.Gives (indexing ctx node array index) := by
  simp only [Analysis.indexing]
  split
  · exact .pure (laws.keeps_scalar _)
  · split
    · exact laws.refused _ _
    · next found =>
        split
        · next ranged => exact laws.sliced _ _ arrayKeeps indexKeeps found ranged
        · exact laws.element _ _ _ arrayKeeps

theorem property (laws : rule.Laws covers) (left : Operand) (name : Ident) :
    rule.Gives (property left name) := by
  simp only [Analysis.property]
  repeat' split
  all_goals first | exact .pure (laws.keeps_scalar _) | exact laws.refused _ _

/-! ## Written types -/

theorem declaredType (laws : rule.Laws covers) (name : String) {type : TypeExpr}
    (covered : covers.type type) :
    rule.Yields (declaredType name type) fun declared =>
      ∀ known, declared = some known → rule.asks known := by
  simp only [Analysis.declaredType]
  split
  · apply Yields.pure
    rintro _ ⟨⟩
  · apply (laws.written covered).bind
    intro resolved keeps
    split
    · refine .after fun _ => .pure ?_
      rintro _ ⟨⟩
      exact laws.scalar _
    · apply Yields.pure
      rintro _ ⟨⟩
      exact keeps

theorem parameterType (laws : rule.Laws covers) (name : String) {type : TypeExpr}
    (covered : covers.type type) : rule.Yields (parameterType name type) rule.asks := by
  apply (laws.written covered).bind
  intro resolved keeps
  split
  · exact .after fun _ => .pure (laws.scalar _)
  · exact .pure keeps

theorem readParameters (laws : rule.Laws covers) (node : Node) (function : String)
    {read : List Parameter} {parameters : List (Option ParameterExpr)}
    (covered : ∀ parameter ∈ parameters, ∀ written ∈ parameter, covers.type written.type)
    (keeps : ∀ parameter ∈ read, ∀ type ∈ parameter.type, rule.asks type) :
    rule.Yields (readParameters node function read parameters) fun result =>
      ∀ parameter ∈ result, ∀ type ∈ parameter.type, rule.asks type := by
  induction parameters generalizing read with
  | nil => exact .pure keeps
  | cons parameter parameters induction =>
      rw [List.forall_mem_cons] at covered
      rcases parameter with _ | ⟨_ | name, type, isMutable⟩
      · exact .stop _
      · exact .stop _
      · simp only [Analysis.readParameters]
        split
        · exact .stop _
        · apply (laws.parameterType _ (covered.1 _ rfl)).bind
          intro resolved resolvedAsked
          split
          · exact .after fun _ => induction covered.2 keeps
          · apply induction covered.2
            intro other member
            rcases List.mem_append.mp member with earlier | last
            · exact keeps other earlier
            · rcases List.mem_singleton.mp last with rfl
              rintro _ ⟨⟩
              exact resolvedAsked

theorem readSignature (laws : rule.Laws covers) (node : Node) (name : Option Ident)
    (body : Body) {parameters : List (Option ParameterExpr)} {result : TypeExpr}
    (covered : ∀ parameter ∈ parameters, ∀ written ∈ parameter, covers.type written.type)
    (answered : covers.type result) :
    rule.Yields (readSignature node name parameters result body)
      (·.EveryType rule.asks) := by
  cases name with
  | none => exact .stop _
  | some name =>
      simp only [Analysis.readSignature]
      split
      · exact .stop _
      · apply (laws.readParameters _ _ covered (List.forall_mem_nil _)).bind
        intro read keeps
        have signed : ∀ type, rule.asks type →
            (Signature.mk name.name read (some type)).EveryType rule.asks := by
          intro type resultAsked
          refine ⟨keeps, ?_⟩
          rintro _ ⟨⟩
          exact resultAsked
        split
        · exact .pure (signed _ (laws.scalar _))
        · apply (laws.written answered).bind
          exact fun type resultAsked => .pure (signed type resultAsked)

/-! ## Bindings -/

theorem ofSymbol (laws : rule.Laws covers) (position : Position) {symbol : Symbol}
    (good : rule.discipline.symbol symbol) :
    rule.keeps (Operand.ofSymbol position symbol).type := by
  have typed : (Operand.ofSymbol position symbol).type = symbol.type.getD .unknown := by
    simp only [Operand.ofSymbol]
    split <;> rfl
  rw [typed]
  cases found : symbol.type with
  | none => exact laws.keeps_scalar _
  | some type => exact (good type found).1

/-- A binding of a type that can be asked for. -/
theorem asked (laws : rule.Laws covers) {symbol : Symbol} {type : Ty}
    (typed : symbol.type = some type) (asks : rule.asks type) :
    rule.discipline.symbol symbol := by
  intro known found
  rw [typed] at found
  cases found
  exact ⟨laws.keeps_of_asks asks, fun _ => asks⟩

/-- A variable gets its type from its value. Only one that cannot be assigned to stays
comptime. -/
theorem inferred (laws : rule.Laws covers) (ctx : Context) (isMutable : Bool) (name : Ident)
    {value : Resolved} (keeps : rule.keeps value.type) :
    rule.Yields (bindingType ctx isMutable name none value) fun type =>
      rule.discipline.symbol (boundSymbol isMutable name.name type value.operand) := by
  have unknown : rule.discipline.symbol
      (boundSymbol isMutable name.name .unknown value.operand) :=
    laws.asked (Sizes.type_boundSymbol _ _ _ _) (laws.scalar _)
  simp only [bindingType]
  split
  · exact .after fun _ => .pure unknown
  · split
    · exact .after fun _ => .pure unknown
    · next lasting =>
        apply Yields.pure
        intro known found
        rw [Sizes.type_boundSymbol] at found
        cases found
        refine ⟨keeps, fun changeable => laws.lasts keeps ?_⟩
        rcases changeable with mutable | faulted
        · have same : (boundSymbol isMutable name.name value.type value.operand).isMutable =
              isMutable := by
            simp only [boundSymbol]
            split <;> rfl
          rw [same] at mutable
          exact .inl (by simpa [mutable] using lasting)
        · exact .inr faulted

theorem elementTarget (laws : rule.Laws covers) {target : Option Ty}
    (asked : rule.discipline.AskedIfAny target) :
    rule.discipline.AskedIfAny (elementTarget target) := by
  unfold Analysis.elementTarget
  split
  · exact askedIfAny_some (laws.row (laws.keeps_of_asks (asked _ rfl)))
  · exact askedIfAny_none

theorem resultType (laws : rule.Laws covers) {signature : Signature}
    (every : signature.EveryType rule.asks) : rule.asks signature.resultType := by
  unfold Signature.resultType
  cases found : signature.result with
  | none => exact laws.scalar _
  | some type => exact every.result type found

end Laws

theorem numeric_startParts (start step : Expr) :
    rule.Yields (startParts start step) fun parts => ∀ tag ∈ parts.tag, tag.isNumeric = true := by
  have none : ∀ tag ∈ (none : Option Tag), tag.isNumeric = true := by
    rintro _ ⟨⟩
  simp only [startParts]
  split
  · exact .after fun _ => .pure none
  · exact .pure none

/-- The bounds of a range are numbers, so their common tag is one. -/
theorem numeric_addBound (part : String) {parts : RangeParts} {bound : Resolved}
    (numeric : ∀ tag ∈ parts.tag, tag.isNumeric = true) :
    rule.Yields (addBound part parts bound) fun result =>
      ∀ tag ∈ result.1.tag, tag.isNumeric = true := by
  simp only [addBound]
  split
  · exact .pure numeric
  · split
    · exact .after fun _ => .pure numeric
    · next tag found =>
        have tagNumeric : tag.isNumeric = true := (Option.filter_eq_some_iff.mp found).2
        split
        · apply Discipline.Yields.pure
          rintro _ ⟨⟩
          exact tagNumeric
        · next joined known =>
            split
            · next resolved =>
                apply Discipline.Yields.pure
                rintro _ ⟨⟩
                exact Tag.isNumeric_resolve (numeric joined known) tagNumeric resolved
            · exact .after fun _ => .pure numeric

/-! ## Disciplines -/

theorem lawfulOn (laws : rule.Laws covers) : rule.discipline.LawfulOn covers where
  notedOperand keeps := by
    rintro _ ⟨⟩
    exact keeps
  notedSymbol good := fun type found => (good type found).1
  notedAsked asks := by
    rintro _ ⟨⟩
    exact laws.keeps_of_asks asks
  unknown _ := laws.keeps_scalar _
  integer node text := by
    simp only [integerLiteral]
    split
    · exact .pure (laws.keeps_scalar _)
    · exact .stop _
  float node text := by
    simp only [floatLiteral]
    split
    · exact .pure (laws.keeps_scalar _)
    · exact .stop _
  bool := laws.keeps_scalar _
  string := laws.keeps_scalar _
  void := laws.keeps_scalar _
  name position good := laws.ofSymbol position good
  prefixed node operator keeps := laws.prefixed node operator keeps
  infixed ctx node operator op _ _ _ := laws.infixed ctx node operator op _ _ _
  converted ctx node := laws.converted ctx node
  array ctx node := laws.array ctx node
  rangeStart start step := numeric_startParts start step
  rangeBound part good _ := numeric_addBound part good
  range ctx node step := laws.range ctx node step
  indexing ctx node array index := laws.indexing ctx node array index
  property name _ := laws.property _ name
  joined ctx node := laws.joined ctx node
  answered asks := laws.keeps_of_asks asks
  askedBool := laws.scalar _
  askedIndex isRange := by
    cases isRange with
    | false => exact laws.scalar _
    | true => exact laws.indexRange
  askedElement asked := laws.elementTarget asked
  askedBound _ := by
    unfold boundHint
    split
    · exact Discipline.askedIfAny_none
    · exact Discipline.askedIfAny_some (laws.scalar _)
  askedConversion covered := laws.written covered
  annotatedDeclaration name covered := laws.declaredType name covered
  askedAnnotation asks := asks
  signature node name body covered answered := laws.readSignature node name body covered answered
  parameter every member := by
    intro type found
    have asks := every.parameters _ member type found
    exact ⟨laws.keeps_of_asks asks, fun _ => asks⟩
  askedArgument every member := every.parameters _ member
  askedResult every := laws.resultType every
  filled ctx label source target :=
    (laws.filled ctx label source target).mono fun _ asks _ => laws.keeps_of_asks asks
  annotated ctx isMutable name label source target :=
    (laws.filled ctx label source target).mono fun _ asks =>
      laws.asked (Sizes.type_boundSymbol _ _ _ _) asks
  inferred ctx isMutable name keeps := laws.inferred ctx isMutable name keeps
  untyped _ _ _ := laws.asked rfl (laws.scalar _)
  uninitialized _ asks := laws.asked rfl asks
  immutable _ _ asks := laws.asked rfl asks
  askedAssignment good changeable := fun type found => (good type found).2 changeable
  initialized good := good

theorem everyType_of_holds (laws : rule.Laws covers) {state : State}
    (holds : rule.discipline.Holds state) : state.EveryType rule.keeps where
  noted := holds.types
  slots entry member := by
    rcases holds.slots entry member with ⟨_, _, keeps⟩
    exact keeps
  symbols scope inside symbol member type found :=
    (holds.symbols scope inside symbol member type found).1
  functions signature member :=
    (holds.functions signature member).mono fun _ => laws.keeps_of_asks
  signatures entry member := (holds.signatures entry member).mono fun _ => laws.keeps_of_asks

/-- Whatever the outcome of a covered program from an empty table, every type that it leaves
is as it should be, if the state is tolerated. -/
theorem everyType (laws : rule.Laws covers) {program : Program}
    (covered : program.Within covers) (policy : BranchPolicy) (width : PointerWidth)
    (mode : AnalysisMode)
    (tolerated : rule.tolerates
      ((program.analyze (.start policy width) mode).run (.ofTable .empty)).state) :
    ((program.analyze (.start policy width) mode).run (.ofTable .empty)).state.EveryType
      rule.keeps :=
  everyType_of_holds laws
    (program.holds_of_within (lawfulOn laws) covered policy width mode tolerated)

end TypeRule

end ComptimeTyping
