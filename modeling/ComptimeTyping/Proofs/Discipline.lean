import ComptimeTyping.Analysis.Unit
import ComptimeTyping.Proofs.Coverage
import ComptimeTyping.Proofs.Reporting

/-! Promises about everything that an analysis finds. A discipline says what holds of
operands, bindings, signatures, notes and slots, up to the states that it tolerates; it is
lawful if every rule keeps the promise, as far as it is applied to what is covered. That a
lawful discipline holds throughout an analysis is proved once, for all of them. -/

namespace ComptimeTyping

open Analysis

/-! ## Reading the bounds of a range -/

namespace Analysis

/-- A bound is read after others. One that is left out changes nothing; any other one gives
the bounds a common tag or makes them invalid. -/
structure BoundRead (bound : Expr) (before : RangeParts) (result : RangeParts × Bound) :
    Prop where
  absent : bound.isMissing = true → result = (before, .absent)
  present : bound.isMissing = false →
    result.1.isInvalid = true ∨ result.1.tag.isSome = true
  stillInvalid : before.isInvalid = true → result.1.isInvalid = true
  stillTagged : before.tag.isSome = true → result.1.tag.isSome = true

theorem BoundRead.stillMarked {bound : Expr} {before : RangeParts}
    {result : RangeParts × Bound} (read : BoundRead bound before result)
    (marked : before.isInvalid = true ∨ before.tag.isSome = true) :
    result.1.isInvalid = true ∨ result.1.tag.isSome = true :=
  marked.imp read.stillInvalid read.stillTagged

/-- The bounds of a range of the given form are read. -/
structure BoundsRead (form : RangeForm) (parts : RangeParts) (bounds : Bounds) : Prop where
  start : form.hasStart = false → bounds.start = .absent
  stop : form.hasEnd = false → bounds.stop = .absent
  step : form.hasStep = false → bounds.step = .absent
  /-- A step counts from a start. -/
  counted : parts.isInvalid = false → form.hasStep = true → form.hasStart = true
  /-- Bounds without a common tag are bounds that are left out. -/
  untagged : parts.isInvalid = false → parts.tag = none →
    form.hasStart = false ∧ form.hasEnd = false ∧ form.hasStep = false

theorem boundRead_addBound {part : String} {parts : RangeParts} {bound : Resolved}
    {before after : State} {result : RangeParts × Bound}
    (run : (addBound part parts bound).run before = .ok result after) :
    (result.1.isInvalid = true ∨ result.1.tag.isSome = true) ∧
      (parts.isInvalid = true → result.1.isInvalid = true) ∧
      (parts.tag.isSome = true → result.1.tag.isSome = true) := by
  unfold addBound at run
  dsimp only at run
  split at run
  · cases run
    exact ⟨.inl rfl, fun _ => rfl, id⟩
  · split at run
    · cases run
      exact ⟨.inl rfl, fun _ => rfl, id⟩
    · split at run
      · cases run
        exact ⟨.inr rfl, id, fun _ => rfl⟩
      · split at run
        · cases run
          exact ⟨.inr rfl, id, fun _ => rfl⟩
        · cases run
          exact ⟨.inl rfl, fun _ => rfl, id⟩

theorem boundRead_withBound {part : String} {parts : RangeParts} {bound : Expr}
    {resolve : Analysis Operand} {before after : State} {result : RangeParts × Bound}
    (run : (withBound part parts bound resolve).run before = .ok result after) :
    BoundRead bound parts result := by
  unfold withBound at run
  split at run
  · next missing =>
      cases run
      exact ⟨fun _ => rfl, fun present => absurd missing (ne_true_of_eq_false present), id, id⟩
  · next present =>
      rcases run_bind_eq_ok.mp run with ⟨operand, middle, _, added⟩
      rcases boundRead_addBound added with ⟨settled, stillInvalid, stillTagged⟩
      exact ⟨fun missing => absurd missing present, fun _ => settled, stillInvalid, stillTagged⟩

theorem startParts_eq {start step : Expr} {before after : State} {parts : RangeParts}
    (run : (startParts start step).run before = .ok parts after) :
    parts = ⟨start.isMissing && !step.isMissing, none⟩ := by
  unfold startParts at run
  split at run
  · next missing =>
      cases run
      rw [missing]
  · next present =>
      cases run
      rw [Bool.eq_false_iff.mpr present]

/-- The three bounds of a range, read one after the other. -/
theorem boundsRead {start stop step : Expr} {inclusive : Bool}
    {started stopped stepped : RangeParts × Bound}
    (first : BoundRead start ⟨start.isMissing && !step.isMissing, none⟩ started)
    (second : BoundRead stop started.1 stopped) (third : BoundRead step stopped.1 stepped) :
    BoundsRead ⟨!start.isMissing, !stop.isMissing, !step.isMissing, inclusive⟩ stepped.1
      ⟨started.2, stopped.2, stepped.2⟩ where
  start missing := by rw [first.absent (by simpa using missing)]
  stop missing := by rw [second.absent (by simpa using missing)]
  step missing := by rw [third.absent (by simpa using missing)]
  counted valid hasStep := by
    cases missing : start.isMissing with
    | false => rfl
    | true =>
        have invalid : stepped.1.isInvalid = true := by
          apply third.stillInvalid
          apply second.stillInvalid
          apply first.stillInvalid
          rw [missing]
          exact hasStep
        rw [valid] at invalid
        cases invalid
  untagged valid untagged := by
    -- A bound that is there leaves a mark, and no later bound takes it away.
    have unmarked : ¬(stepped.1.isInvalid = true ∨ stepped.1.tag.isSome = true) := by
      rw [valid, untagged]
      nofun
    have missing : ∀ {bound : Expr}, (bound.isMissing = false →
        stepped.1.isInvalid = true ∨ stepped.1.tag.isSome = true) →
        (!bound.isMissing) = false := by
      intro bound marks
      cases present : bound.isMissing with
      | true => rfl
      | false => exact absurd (marks present) unmarked
    refine ⟨missing fun present => ?_, missing fun present => ?_, missing third.present⟩
    · exact third.stillMarked (second.stillMarked (first.present present))
    · exact third.stillMarked (second.present present)

end Analysis

/-! ## Disciplines -/

structure Discipline where
  /-- The states up to which the promise is made. -/
  tolerates : State → Prop
  /-- What came earlier is tolerated as well. -/
  earlier : ∀ {before after : State}, before.GrowsTo after →
    tolerates after → tolerates before
  operand : Operand → Prop
  /-- The types that are noted. -/
  noted : Option Ty → Prop
  /-- The types that a place asks for. -/
  asked : Ty → Prop
  /-- The types that the annotation of a variable gives. -/
  annotation : Ty → Prop
  symbol : Symbol → Prop
  signature : Signature → Prop
  /-- A slot of the second type that a value of the first one fills. -/
  slot : Ty → Ty → Prop
  /-- The bounds of a range that were seen so far. -/
  parts : RangeParts → Prop

/-- The state has noted that a node has a type. -/
def State.Noted (state : State) (node : Node) (type : Ty) : Prop :=
  (node.id, some type) ∈ state.types

theorem State.Noted.mono {before after : State} {node : Node} {type : Ty}
    (noted : before.Noted node type) (grows : before.GrowsTo after) :
    after.Noted node type :=
  grows.types.subset noted

namespace Discipline

variable {α β : Type} {discipline : Discipline} {covers : Coverage}

/-- The discipline tolerates that something is reported. -/
def Faulted (discipline : Discipline) : Prop :=
  ∃ state, discipline.tolerates state ∧ state.reports ≠ []

/-- The discipline tolerates that a node is noted with a type. -/
def Sees (discipline : Discipline) (node : Node) (type : Ty) : Prop :=
  ∃ state, discipline.tolerates state ∧ state.Noted node type

theorem tolerates_of_withTable {state : State} {table : SymbolTable}
    (tolerated : discipline.tolerates { state with table }) : discipline.tolerates state := by
  have grows : state.GrowsTo { state with table } :=
    ⟨List.prefix_rfl, List.suffix_rfl, List.suffix_rfl⟩
  exact discipline.earlier grows tolerated

/-- What a place asks for, if it asks for anything. -/
def AskedIfAny (discipline : Discipline) (target : Option Ty) : Prop :=
  ∀ type, target = some type → discipline.asked type

/-- What an annotation gives, if there is one. -/
def AnnotatedIfAny (discipline : Discipline) (declared : Option Ty) : Prop :=
  ∀ type, declared = some type → discipline.annotation type

/-- Every result that comes with a tolerated state is as it should be. -/
structure Yields (discipline : Discipline) (computation : Analysis α) (good : α → Prop) :
    Prop where
  result : ∀ {before after value}, computation.run before = .ok value after →
    discipline.tolerates after → good value

/-! ## Laws -/

/-- Every rule keeps the promise, as far as it is applied to what is covered. -/
structure LawfulOn (discipline : Discipline) (covers : Coverage) : Prop where
  -- Notes
  notedOperand : ∀ {operand}, discipline.operand operand → discipline.noted (some operand.type)
  notedSymbol : ∀ {symbol}, discipline.symbol symbol → discipline.noted symbol.type
  notedAsked : ∀ {type}, discipline.asked type → discipline.noted (some type)
  -- Leaves
  unknown : discipline.Faulted → discipline.operand .unknown
  integer : ∀ node text, discipline.Yields (integerLiteral node text) discipline.operand
  float : ∀ node text, discipline.Yields (floatLiteral node text) discipline.operand
  bool : discipline.operand (.typed .bool)
  string : discipline.operand (.typed (.scalar .string))
  void : discipline.operand (.typed .void)
  name : ∀ {symbol} position, discipline.symbol symbol →
    discipline.operand (.ofSymbol position symbol)
  -- Operators and conversions
  prefixed : ∀ {right} node operator, discipline.operand right →
    discipline.Yields (prefixed node operator right) discipline.operand
  infixed : ∀ {left right target} ctx node operator op, discipline.operand left.operand →
    discipline.operand right.operand → discipline.AskedIfAny target →
    discipline.Yields (infixed ctx node operator op left right target) discipline.operand
  /-- The type of the conversion itself is noted as well. -/
  converted : ∀ {value target} ctx node, covers.conversion node value.node →
    discipline.Sees value.node value.type → discipline.operand value.operand →
    discipline.asked target →
    discipline.Yields (converted ctx node value target) fun operand =>
      discipline.Sees node operand.type → discipline.operand operand
  -- Arrays and ranges
  array : ∀ {elements target} ctx node, covers.array elements.length →
    (∀ element ∈ elements, discipline.operand element.operand) →
    discipline.AskedIfAny target →
    discipline.Yields (arrayLiteral ctx node elements target) discipline.operand
  rangeStart : ∀ start step, discipline.Yields (startParts start step) discipline.parts
  rangeBound : ∀ {parts bound} part, discipline.parts parts →
    discipline.operand bound.operand →
    discipline.Yields (addBound part parts bound) fun result => discipline.parts result.1
  range : ∀ {parts form bounds target} ctx node step, covers.range form →
    discipline.parts parts → BoundsRead form parts bounds → discipline.AskedIfAny target →
    discipline.Yields (rangeLiteral ctx node step form (rangeHint target) parts bounds)
      discipline.operand
  indexing : ∀ {array index} ctx node, discipline.operand array.operand →
    discipline.operand index.operand →
    discipline.Yields (indexing ctx node array index) discipline.operand
  property : ∀ {left} name, discipline.operand left →
    discipline.Yields (property left name) discipline.operand
  -- Branches
  /-- The type that they are joined to is noted as well. -/
  joined : ∀ {branches} ctx node, covers.join node (branches.map Resolved.node) →
    branches ≠ [] → (∀ branch ∈ branches, discipline.Sees branch.node branch.type) →
    (∀ branch ∈ branches, discipline.operand branch.operand) →
    discipline.Yields (joinBranches ctx branches) fun operand =>
      discipline.Sees node operand.type → discipline.operand operand
  answered : ∀ {target}, discipline.asked target → discipline.operand (.typed target)
  -- What places ask for
  askedBool : discipline.asked .bool
  askedIndex : ∀ isRange, discipline.asked (indexTarget isRange)
  askedElement : ∀ {target}, discipline.AskedIfAny target →
    discipline.AskedIfAny (elementTarget target)
  askedBound : ∀ {target}, discipline.AskedIfAny target →
    discipline.AskedIfAny (boundHint (rangeHint target))
  askedConversion : ∀ {type : TypeExpr}, covers.type type →
    discipline.Yields type.resolve discipline.asked
  annotatedDeclaration : ∀ {type} name, covers.type type →
    discipline.Yields (declaredType name type) discipline.AnnotatedIfAny
  askedAnnotation : ∀ {type}, discipline.annotation type → discipline.asked type
  -- Functions
  signature : ∀ {parameters result} node name body,
    (∀ parameter ∈ parameters, ∀ written ∈ parameter, covers.type written.type) →
    covers.type result →
    discipline.Yields (readSignature node name parameters result body) discipline.signature
  parameter : ∀ {signature parameter}, discipline.signature signature →
    parameter ∈ signature.parameters → discipline.symbol parameter.toSymbol
  askedArgument : ∀ {signature parameter}, discipline.signature signature →
    parameter ∈ signature.parameters → discipline.AskedIfAny parameter.type
  askedResult : ∀ {signature}, discipline.signature signature →
    discipline.asked signature.resultType
  -- Slots and bindings
  filled : ∀ {source target} ctx label, discipline.operand source.operand →
    discipline.asked target →
    discipline.Yields (fill ctx source target label) fun type =>
      type.isUnknown = false → discipline.slot source.type type
  annotated : ∀ {value target} ctx isMutable name label, discipline.operand value.operand →
    discipline.annotation target →
    discipline.Yields (fill ctx value target label) fun type =>
      discipline.symbol (boundSymbol isMutable name type value.operand)
  inferred : ∀ {value} ctx isMutable name, discipline.operand value.operand →
    discipline.Yields (bindingType ctx isMutable name none value) fun type =>
      discipline.symbol (boundSymbol isMutable name.name type value.operand)
  untyped : ∀ name isMutable, discipline.Faulted →
    discipline.symbol { name, type := some .unknown, isMutable }
  uninitialized : ∀ {type} name, discipline.annotation type →
    discipline.symbol
      { name, type := some type, isMutable := true, isInitialized := false }
  immutable : ∀ {type} name, discipline.Faulted → discipline.annotation type →
    discipline.symbol { name, type := some type, isMutable := false }
  askedAssignment : ∀ {symbol}, discipline.symbol symbol →
    symbol.isMutable = true ∨ discipline.Faulted → discipline.AskedIfAny symbol.type
  initialized : ∀ {symbol}, discipline.symbol symbol →
    discipline.symbol { symbol with isInitialized := true }

/-- Every rule keeps the promise, whatever it is applied to. -/
abbrev Lawful (discipline : Discipline) : Prop :=
  discipline.LawfulOn .everything

/-! ## Results -/

namespace Yields

variable {good : α → Prop}

theorem pure {value : α} (holds : good value) : discipline.Yields (Pure.pure value) good := by
  constructor
  intro before after result run tolerated
  cases run
  exact holds

theorem stop (abort : Abort) : discipline.Yields (Analysis.stop abort) good := by
  constructor
  intro before after result run tolerated
  cases run

theorem report {good : Unit → Prop} (position : Position) (finding : Finding)
    (holds : discipline.Faulted → good ()) :
    discipline.Yields (Analysis.report position finding) good := by
  constructor
  intro before after result run tolerated
  cases run
  apply holds
  refine ⟨_, tolerated, ?_⟩
  simp

theorem mono {computation : Analysis α} {weaker : α → Prop}
    (yields : discipline.Yields computation good)
    (implied : ∀ value, good value → weaker value) :
    discipline.Yields computation weaker :=
  ⟨fun run tolerated => implied _ (yields.result run tolerated)⟩

theorem bind {first : Analysis α} {next : α → Analysis β} {better : β → Prop}
    (yields : discipline.Yields first good)
    (rest : ∀ value, good value → discipline.Yields (next value) better) :
    discipline.Yields (first >>= next) better := by
  constructor
  intro before after result run tolerated
  rcases run_bind_eq_ok.mp run with ⟨value, middle, started, ended⟩
  have grows := (next value).grows_of_ok ended
  have earlier := discipline.earlier grows tolerated
  exact (rest value (yields.result started earlier)).result ended tolerated

/-- A step whose result does not matter. -/
theorem after {first : Analysis α} {next : α → Analysis β} {good : β → Prop}
    (rest : ∀ value, discipline.Yields (next value) good) :
    discipline.Yields (first >>= next) good := by
  have anything : discipline.Yields first fun _ => True := ⟨fun _ _ => trivial⟩
  exact anything.bind fun value _ => rest value

/-- A step that may be left out and whose result does not matter. -/
theorem guarded {condition : Prop} [Decidable condition] {step : Analysis Unit}
    {rest : Unit → Analysis α} (finished : discipline.Yields (rest ()) good) :
    discipline.Yields (if condition then step >>= rest else rest ()) good := by
  split
  · exact after fun _ => finished
  · exact finished

/-! ## Results of rules

What a rule gives in every case, for properties that an unknown operand has as well. -/

theorem fill {good : Ty → Prop} {ctx : Context} {source : Resolved} {target : Ty}
    {label : String} (asked : good target)
    (filled : ∀ {type}, source.type.assign target false = .ok type →
      good type ∨ source.type.isComptime = true ∧
        discipline.Yields (checkContents ctx source.position source type) fun _ => good type) :
    discipline.Yields (Analysis.fill ctx source target label) good := by
  unfold Analysis.fill
  split
  · exact pure asked
  · extract_lets assigned
    have fitting : ∀ fits, discipline.Yields (assigned fits) good := by
      intro fits
      simp only [assigned]
      split
      · exact pure asked
      · split
        · exact after fun _ => pure asked
        · next fills =>
            rcases filled fills with holds | ⟨comptime, checked⟩
            · exact guarded (pure holds)
            · rw [if_pos comptime]
              exact checked.bind fun _ holds => pure holds
    split
    · exact after fitting
    · exact fitting true

theorem converted {good : Operand → Prop} {ctx : Context} {node : Node} {value : Resolved}
    {target : Ty} (asked : good { type := target, explicit := true })
    (converts : ∀ {type}, value.type.convert target = .ok type →
      good { type, explicit := true } ∨ value.type.isComptime = true ∧
        discipline.Yields (checkContents ctx node.position value type) fun _ =>
          good { type, explicit := true }) :
    discipline.Yields (Analysis.converted ctx node value target) good := by
  simp only [Analysis.converted]
  split
  · exact pure asked
  · split
    · exact after fun _ => pure asked
    · next result =>
        rcases converts result with holds | ⟨comptime, checked⟩
        · exact guarded (pure holds)
        · rw [if_pos comptime]
          exact checked.bind fun _ holds => pure holds

theorem slice {good : Operand → Prop} {ctx : Context} {node : Node} {array index : Resolved}
    {form : RangeForm} {outer : Dim} (unknown : good .unknown)
    (cut : ∀ {span}, sliceSpan index.position form index.operand.bounds outer = .ok span →
      discipline.Yields (sliced node array.operand span) good) :
    discipline.Yields (Analysis.slice ctx node array index form outer) good := by
  unfold Analysis.slice
  apply after
  intro valid
  split
  · exact pure unknown
  · extract_lets spanned
    have fitting : ∀ fits, discipline.Yields (spanned fits) good := by
      intro fits
      simp only [spanned]
      split
      · exact pure unknown
      · split
        · exact after fun _ => pure unknown
        · next spans => exact cut spans
    split
    · exact after fitting
    · exact fitting true

theorem joinBranches {good : Operand → Prop} {ctx : Context} {branches : List Resolved}
    (unknown : good .unknown) (single : ∀ branch, branches = [branch] → good branch.operand)
    (joined : ∀ {operand}, joinFrom ctx.policy none branches = .ok (some operand) →
      good operand) :
    discipline.Yields (Analysis.joinBranches ctx branches) good := by
  unfold Analysis.joinBranches
  split
  · exact after fun _ => pure unknown
  · exact pure unknown
  · next operand ended =>
      extract_lets finish
      have finished : discipline.Yields (finish ()) good := by
        simp only [finish]
        split
        · exact pure (single _ rfl)
        · exact pure (joined ended)
      split
      · exact guarded finished
      · exact finished

section

variable {good : Ty → Prop} (unknown : good .unknown)
  (scalar : ∀ tag, tag.isSpellable = true → good (.scalar tag))
  (array : ∀ element dims, good (.array element dims))
  (range : ∀ element, good (.range element .bare))

include unknown

include scalar in
theorem namedType (node : Node) (name : String) :
    discipline.Yields (Analysis.namedType node name) good := by
  simp only [Analysis.namedType]
  split
  · next tag parsed => exact pure (scalar tag (Option.filter_eq_some_iff.mp parsed).2)
  · exact after fun _ => pure unknown

include range in
theorem rangeType (node : Node) (element : Ty) :
    discipline.Yields (Analysis.rangeType node element) good := by
  simp only [Analysis.rangeType]
  split
  · exact pure unknown
  · split
    · next formed =>
        rcases Ty.range?_eq_ok_iff.mp formed with ⟨_, rfl⟩
        exact pure (range _)
    · exact after fun _ => pure unknown

include array in
theorem enclose (enclosing : Option Enclosing) (position : Position) {element : Ty}
    (holds : good element) :
    discipline.Yields (Analysis.enclose enclosing position element) good := by
  simp only [Analysis.enclose]
  split
  · exact pure holds
  · split
    · exact pure unknown
    · split
      · exact after fun _ => pure unknown
      · split
        · next formed =>
            rcases Ty.array?_eq_ok_iff.mp formed with ⟨axes, _, _, rfl⟩
            exact pure (array _ axes)
        · exact after fun _ => pure unknown

include scalar array range in
/-- A type that is written is a scalar that has a name, an array, or a bare range. -/
theorem resolveIn (type : TypeExpr) (enclosing : Option Enclosing) :
    discipline.Yields (type.resolveIn enclosing) good := by
  induction type generalizing enclosing with
  | missing => exact stop _
  | named node name =>
      apply (namedType unknown scalar node name).bind
      exact fun element holds => enclose unknown array enclosing _ holds
  | array node dims element induction =>
      simp only [TypeExpr.resolveIn]
      split
      · exact stop _
      · apply after
        intro read
        split
        · exact pure unknown
        · split
          · exact induction _
          · exact induction _
  | range node element induction =>
      simp only [TypeExpr.resolveIn]
      split
      · exact stop _
      · apply after
        intro resolved
        apply (rangeType unknown range node resolved).bind
        exact fun type holds => enclose unknown array enclosing _ holds

end

end Yields

/-! ## States -/

/-- Everything in a state is as it should be. -/
structure Holds (discipline : Discipline) (state : State) : Prop where
  symbols : ∀ scope ∈ state.table.scopes, ∀ symbol ∈ scope.symbols, discipline.symbol symbol
  functions : ∀ signature ∈ state.table.functions, discipline.signature signature
  signatures : ∀ entry ∈ state.signatures, discipline.signature entry.2
  types : ∀ entry ∈ state.types, discipline.noted entry.2
  slots : ∀ entry ∈ state.slots, ∃ source, (entry.1, some source) ∈ state.types ∧
    discipline.slot source entry.2

namespace Holds

variable {state : State}

theorem empty (discipline : Discipline) : discipline.Holds (.ofTable .empty) := by
  refine ⟨?_, List.forall_mem_nil _, List.forall_mem_nil _, List.forall_mem_nil _,
    List.forall_mem_nil _⟩
  intro scope member
  rcases List.mem_singleton.mp member with rfl
  exact List.forall_mem_nil _

theorem of_lookup (holds : discipline.Holds state) {name : String} {symbol : Symbol}
    (found : state.table.lookup? name = some symbol) : discipline.symbol symbol := by
  rcases List.exists_of_findSome?_eq_some found with ⟨scope, member, inside⟩
  exact holds.symbols scope member symbol (List.mem_of_find?_eq_some inside)

theorem of_function (holds : discipline.Holds state) {name : String} {signature : Signature}
    (found : state.table.function? name = some signature) : discipline.signature signature :=
  holds.functions signature (List.mem_of_find?_eq_some found)

theorem of_signature (holds : discipline.Holds state) {id : Nat} {signature : Signature}
    (found : state.signature? id = some signature) : discipline.signature signature :=
  holds.signatures _ (State.mem_of_signature? found)

theorem record (holds : discipline.Holds state) (id : Nat) {type : Option Ty}
    (noted : discipline.noted type) :
    discipline.Holds { state with types := (id, type) :: state.types } where
  symbols := holds.symbols
  functions := holds.functions
  signatures := holds.signatures
  types := by
    intro entry member
    rcases List.mem_cons.mp member with rfl | older
    · exact noted
    · exact holds.types entry older
  slots := by
    intro entry member
    rcases holds.slots entry member with ⟨source, present, fits⟩
    exact ⟨source, List.mem_cons_of_mem _ present, fits⟩

theorem recordSlot (holds : discipline.Holds state) {node : Node} {source type : Ty}
    (noted : state.Noted node source) (fits : discipline.slot source type) :
    discipline.Holds { state with slots := (node.id, type) :: state.slots } where
  symbols := holds.symbols
  functions := holds.functions
  signatures := holds.signatures
  types := holds.types
  slots := by
    intro entry member
    rcases List.mem_cons.mp member with rfl | older
    · exact ⟨source, noted, fits⟩
    · exact holds.slots entry older

/-- A table with other bindings, if they are as they should be. -/
theorem withTable (holds : discipline.Holds state) {table : SymbolTable}
    (symbols : ∀ scope ∈ table.scopes, ∀ symbol ∈ scope.symbols, discipline.symbol symbol)
    (functions : ∀ signature ∈ table.functions, discipline.signature signature) :
    discipline.Holds { state with table } :=
  ⟨symbols, functions, holds.signatures, holds.types, holds.slots⟩

theorem declare (holds : discipline.Holds state) {table : SymbolTable} {symbol : Symbol}
    (declared : state.table.declare symbol = .ok table) (good : discipline.symbol symbol) :
    discipline.Holds { state with table } := by
  rw [SymbolTable.declare_eq] at declared
  split at declared
  · cases declared
  · cases declared
    refine holds.withTable ?_ holds.functions
    intro scope member other inside
    rcases List.mem_cons.mp member with rfl | outer
    · rcases List.mem_cons.mp inside with rfl | older
      · exact good
      · exact holds.symbols _ List.mem_cons_self other older
    · exact holds.symbols scope (List.mem_cons_of_mem _ outer) other inside

theorem declareParameter (holds : discipline.Holds state) {table : SymbolTable}
    {parameter : Parameter} (declared : state.table.declareParameter parameter = .ok table)
    (good : discipline.symbol parameter.toSymbol) : discipline.Holds { state with table } := by
  rw [SymbolTable.declareParameter_eq] at declared
  split at declared
  · exact holds.declare declared good
  · cases declared

theorem declareFunction (holds : discipline.Holds state) {table : SymbolTable}
    {signature : Signature} (good : discipline.signature signature)
    (declared : state.table.declareFunction (some signature) = .ok table) :
    discipline.Holds { state with table } := by
  rw [SymbolTable.declareFunction_eq] at declared
  split at declared
  · cases declared
  · cases declared
    refine holds.withTable holds.symbols ?_
    intro other member
    rcases List.mem_cons.mp member with rfl | older
    · exact good
    · exact holds.functions other older

theorem enter (holds : discipline.Holds state) (kind : ScopeKind) :
    discipline.Holds { state with table := state.table.enter kind } := by
  refine holds.withTable ?_ holds.functions
  intro scope member
  rcases List.mem_cons.mp member with rfl | outer
  · exact List.forall_mem_nil _
  · exact holds.symbols scope outer

theorem exit (holds : discipline.Holds state) :
    discipline.Holds { state with table := state.table.exit } := by
  rcases state with ⟨⟨inner, _ | ⟨next, outer⟩, functions, depth⟩, _⟩
  · exact holds
  · refine holds.withTable ?_ holds.functions
    intro scope member
    exact holds.symbols scope (List.mem_cons_of_mem _ member)

private theorem symbols_modify {scope : Scope} {name : String} {change : Symbol → Symbol}
    (changed : ∀ symbol, discipline.symbol symbol → discipline.symbol (change symbol))
    (good : ∀ symbol ∈ scope.symbols, discipline.symbol symbol) :
    ∀ symbol ∈ (scope.modify name change).symbols, discipline.symbol symbol := by
  intro symbol member
  rcases List.mem_map.mp member with ⟨older, present, rfl⟩
  split
  · exact changed older (good older present)
  · exact good older present

private theorem symbols_modifyScopes {name : String} {change : Symbol → Symbol}
    (changed : ∀ symbol, discipline.symbol symbol → discipline.symbol (change symbol))
    {scopes : List Scope}
    (good : ∀ scope ∈ scopes, ∀ symbol ∈ scope.symbols, discipline.symbol symbol) :
    ∀ scope ∈ SymbolTable.modifyScopes name change scopes,
      ∀ symbol ∈ scope.symbols, discipline.symbol symbol := by
  induction scopes with
  | nil => exact List.forall_mem_nil _
  | cons scope outer induction =>
      rw [List.forall_mem_cons] at good
      unfold SymbolTable.modifyScopes
      split
      · rw [List.forall_mem_cons]
        exact ⟨symbols_modify changed good.1, good.2⟩
      · rw [List.forall_mem_cons]
        exact ⟨good.1, induction good.2⟩

theorem markInitialized (lawful : discipline.LawfulOn covers) (holds : discipline.Holds state)
    (name : String) :
    discipline.Holds { state with table := state.table.markInitialized name } := by
  have changed : ∀ symbol, discipline.symbol symbol →
      discipline.symbol { symbol with isInitialized := true } := fun _ => lawful.initialized
  have good := holds.symbols
  unfold SymbolTable.scopes at good
  rw [List.forall_mem_cons] at good
  unfold SymbolTable.markInitialized SymbolTable.modify
  split
  · refine holds.withTable ?_ holds.functions
    exact List.forall_mem_cons.mpr ⟨symbols_modify changed good.1, good.2⟩
  · refine holds.withTable ?_ holds.functions
    exact List.forall_mem_cons.mpr ⟨good.1, symbols_modifyScopes changed good.2⟩

end Holds

end Discipline

end ComptimeTyping
