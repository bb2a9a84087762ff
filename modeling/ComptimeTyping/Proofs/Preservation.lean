import ComptimeTyping.Proofs.Discipline

/-! A lawful discipline holds throughout an analysis: of every operand that an
expression resolves to, and of every state that a statement or a program leaves. -/

namespace ComptimeTyping

namespace Discipline

open Analysis

variable {α β : Type} {discipline : Discipline} {covers : Coverage} {before : State}

/-- What a computation leaves is as it should be, and its result is good there. -/
structure Safe (discipline : Discipline) (computation : Analysis α) (before : State)
    (good : α → State → Prop) : Prop where
  state : discipline.tolerates (computation.run before).state →
    discipline.Holds (computation.run before).state
  result : ∀ {after value}, computation.run before = .ok value after →
    discipline.tolerates after → good value after

/-- A resolved expression whose operand is as it should be and whose type is noted. -/
structure Placed (discipline : Discipline) (resolved : Resolved) (state : State) : Prop where
  operand : discipline.operand resolved.operand
  seen : discipline.Sees resolved.node resolved.type
  noted : state.Noted resolved.node resolved.type

/-- What a context hands down is as it should be. -/
structure Admits (discipline : Discipline) (ctx : Context) : Prop where
  function : ∀ signature, ctx.function = some signature → discipline.signature signature
  block : ∀ target, ctx.block = some target → discipline.AskedIfAny target

theorem Placed.mono {resolved : Resolved} {after : State}
    (placed : discipline.Placed resolved before) (grows : before.GrowsTo after) :
    discipline.Placed resolved after :=
  ⟨placed.operand, placed.seen, placed.noted.mono grows⟩

theorem placed_none (state : State) :
    ∀ value ∈ (none : Option Resolved), discipline.Placed value state := by
  intro value member
  cases member

theorem Admits.inBlock {ctx : Context} {target : Option Ty} (admits : discipline.Admits ctx)
    (asked : discipline.AskedIfAny target) : discipline.Admits (ctx.inBlock target) := by
  refine ⟨admits.function, ?_⟩
  intro inner equal
  cases equal
  exact asked

theorem Admits.inFunction {signature : Signature} (ctx : Context)
    (good : discipline.signature signature) : discipline.Admits (ctx.inFunction signature) := by
  refine ⟨?_, nofun⟩
  intro inner equal
  cases equal
  exact good

theorem askedIfAny_none : discipline.AskedIfAny none :=
  nofun

theorem askedIfAny_some {type : Ty} (asked : discipline.asked type) :
    discipline.AskedIfAny (some type) := by
  intro other equal
  cases equal
  exact asked

theorem askedIfAny_of_annotatedIfAny (lawful : discipline.LawfulOn covers) {declared : Option Ty}
    (annotated : discipline.AnnotatedIfAny declared) : discipline.AskedIfAny declared :=
  fun type equal => lawful.askedAnnotation (annotated type equal)

/-! ## Sequences -/

namespace Safe

variable {good : α → State → Prop}

theorem pure {value : α} (holds : discipline.Holds before) (proven : good value before) :
    discipline.Safe (Pure.pure value) before good := by
  refine ⟨fun _ => holds, ?_⟩
  intro after result run tolerated
  cases run
  exact proven

theorem mono {computation : Analysis α} {weaker : α → State → Prop}
    (safe : discipline.Safe computation before good)
    (implied : ∀ value after, good value after → weaker value after) :
    discipline.Safe computation before weaker :=
  ⟨safe.state, fun run tolerated => implied _ _ (safe.result run tolerated)⟩

/-- What holds of the result of every run holds here. -/
theorem knowing {computation : Analysis α} {fact : α → Prop}
    (safe : discipline.Safe computation before good)
    (runs : ∀ {after value}, computation.run before = .ok value after → fact value) :
    discipline.Safe computation before fun value after => good value after ∧ fact value :=
  ⟨safe.state, fun run tolerated => ⟨safe.result run tolerated, runs run⟩⟩

/-- Whatever the result is. -/
theorem forget {computation : Analysis α} (safe : discipline.Safe computation before good) :
    discipline.Safe computation before fun _ _ => True :=
  safe.mono fun _ _ _ => trivial

theorem bind {first : Analysis α} {next : α → Analysis β} {better : β → State → Prop}
    (safe : discipline.Safe first before good)
    (rest : ∀ value middle, before.GrowsTo middle → discipline.Holds middle →
      good value middle → discipline.Safe (next value) middle better) :
    discipline.Safe (first >>= next) before better := by
  cases started : first.run before with
  | error abort middle =>
      have whole : (first >>= next).run before = .error abort middle := by
        rw [run_bind, started]
      constructor
      · have stopped := safe.state
        rw [started] at stopped
        rw [whole]
        exact stopped
      · intro after result run tolerated
        rw [whole] at run
        cases run
  | ok value middle =>
      have whole : (first >>= next).run before = (next value).run middle :=
        run_bind_of_ok started
      have continued : discipline.tolerates ((next value).run middle).state →
          discipline.Safe (next value) middle better := by
        intro tolerated
        have earlier := discipline.earlier ((next value).grows middle) tolerated
        have settled := safe.state
        rw [started] at settled
        exact rest value middle (first.grows_of_ok started) (settled earlier)
          (safe.result started earlier)
      constructor
      · rw [whole]
        intro tolerated
        exact (continued tolerated).state tolerated
      · intro after result run tolerated
        rw [whole] at run
        refine (continued ?_).result run tolerated
        rw [run]
        exact tolerated

/-- A computation whose result is not needed. -/
theorem discard {computation : Analysis α} (safe : discipline.Safe computation before good) :
    discipline.Safe (Functor.discard computation) before fun _ _ => True :=
  safe.bind fun _ _ _ holds _ => .pure holds trivial

/-- A last step without a result. -/
theorem ending {first : Analysis α} {value : β} {better : β → State → Prop}
    (safe : discipline.Safe first before good)
    (proven : ∀ after, discipline.Holds after → better value after) :
    discipline.Safe (first >>= fun _ => Pure.pure value) before better :=
  safe.bind fun _ after _ holds _ => .pure holds (proven after holds)

/-- A statement that gives nothing to its block. -/
theorem noBranch {first : Analysis α} (safe : discipline.Safe first before good) :
    discipline.Safe (first >>= fun _ => Pure.pure (none : Option Resolved)) before
      fun branch after => ∀ value ∈ branch, discipline.Placed value after := by
  apply safe.ending
  exact fun after _ => placed_none after

theorem of_reporting {computation : Analysis α} {right : α → Prop}
    (holds : discipline.Holds before) (reporting : computation.Reporting fun _ => True)
    (yields : discipline.Yields computation right) :
    discipline.Safe computation before fun value _ => right value := by
  constructor
  · intro tolerated
    rw [reporting.run_state]
    exact ⟨holds.symbols, holds.functions, holds.signatures, holds.types, holds.slots⟩
  · intro after value run tolerated
    exact yields.result run tolerated

theorem report (holds : discipline.Holds before) (position : Position) (finding : Finding) :
    discipline.Safe (Analysis.report position finding) before
      fun _ _ => discipline.Faulted :=
  of_reporting holds (.report _ _) (.report _ _ id)

theorem malformed (holds : discipline.Holds before) (position : Position) (defect : Defect) :
    discipline.Safe (Analysis.malformed position defect) before good := by
  refine ⟨fun _ => holds, ?_⟩
  intro after value run
  cases run

theorem checked (holds : discipline.Holds before) {computation : Analysis α}
    (reporting : computation.Reporting fun _ => True) :
    discipline.Safe computation before fun _ _ => True :=
  of_reporting holds reporting ⟨fun _ _ => trivial⟩

/-- What looks at the state goes on with what it finds there. -/
theorem reading {view : State → α} {next : α → Analysis β} {better : β → State → Prop}
    (safe : discipline.Safe (next (view before)) before better) :
    discipline.Safe (Analysis.read view >>= next) before better :=
  ⟨safe.state, safe.result⟩

theorem update {change : State → State}
    {grows : ∀ state : State, state.GrowsTo (change state)}
    (holds : discipline.Holds (change before)) :
    discipline.Safe (Analysis.update change grows) before fun _ after =>
      after = change before := by
  refine ⟨fun _ => holds, ?_⟩
  intro after value run tolerated
  cases run
  rfl

theorem record (holds : discipline.Holds before) (node : Node) {type : Option Ty}
    (noted : discipline.noted type) :
    discipline.Safe (Analysis.record node type) before fun _ after =>
      (node.id, type) ∈ after.types := by
  apply (update (holds.record node.id noted)).mono
  rintro value after rfl
  exact List.mem_cons_self

/-- What makes a type fit to be noted may use that it is noted. -/
theorem record_seen (holds : discipline.Holds before) (node : Node) {type : Ty}
    (noted : discipline.Sees node type → discipline.noted (some type)) :
    discipline.Safe (Analysis.record node (some type)) before fun _ after =>
      after.Noted node type ∧ discipline.Sees node type := by
  have seen : discipline.tolerates
      { before with types := (node.id, some type) :: before.types } →
      discipline.Sees node type := fun tolerated => ⟨_, tolerated, List.mem_cons_self⟩
  constructor
  · exact fun tolerated => holds.record node.id (noted (seen tolerated))
  · intro after value run tolerated
    cases run
    exact ⟨List.mem_cons_self, seen tolerated⟩

theorem recorded_seen (lawful : discipline.LawfulOn covers) {resolve : Analysis Operand}
    {node : Node}
    (safe : discipline.Safe resolve before fun operand _ =>
      discipline.Sees node operand.type → discipline.operand operand) :
    discipline.Safe (Analysis.recorded node resolve) before fun operand after =>
      discipline.Placed ⟨node, operand⟩ after := by
  apply safe.bind
  intro operand middle _ holds good
  apply (record_seen holds node fun seen => lawful.notedOperand (good seen)).bind
  intro _ after _ holdsAfter ⟨noted, seen⟩
  exact .pure holdsAfter ⟨good seen, seen, noted⟩

theorem recorded (lawful : discipline.LawfulOn covers) {resolve : Analysis Operand} {node : Node}
    (safe : discipline.Safe resolve before fun operand _ => discipline.operand operand) :
    discipline.Safe (Analysis.recorded node resolve) before fun operand after =>
      discipline.Placed ⟨node, operand⟩ after :=
  recorded_seen lawful (safe.mono fun _ _ good _ => good)

theorem guarded {condition : Prop} [Decidable condition] {step : Analysis Unit}
    {rest : Unit → Analysis α} {passed : Unit → State → Prop}
    (holds : discipline.Holds before) (safe : discipline.Safe step before passed)
    (after : ∀ middle, before.GrowsTo middle → discipline.Holds middle →
      discipline.Safe (rest ()) middle good) :
    discipline.Safe (if condition then step >>= rest else rest ()) before good := by
  split
  · exact safe.bind fun _ middle grows holds _ => after middle grows holds
  · exact after before (.refl before) holds

theorem required {condition : Prop} [Decidable condition] {rest : Unit → Analysis α}
    {position : Position} {defect : Defect} (holds : discipline.Holds before)
    (safe : discipline.Safe (rest ()) before good) :
    discipline.Safe
      (if condition then Analysis.malformed position defect >>= rest else rest ())
      before good := by
  split
  · exact malformed holds position defect
  · exact safe

theorem withScope {inside : Analysis α} {right : α → Prop} (kind : ScopeKind)
    (safe : discipline.Safe inside { before with table := before.table.enter kind }
      fun value _ => right value) :
    discipline.Safe (Analysis.withScope kind inside) before fun value _ => right value := by
  constructor
  · rw [state_withScope rfl]
    exact fun tolerated => (safe.state (tolerates_of_withTable tolerated)).exit
  · intro after value run tolerated
    rcases exists_of_run_withScope run with ⟨inner, ended, rfl⟩
    exact safe.result ended (tolerates_of_withTable tolerated)

end Safe

/-! ## Slots, names and signatures -/

variable {ctx : Context}

theorem safe_materialize (lawful : discipline.LawfulOn covers) (holds : discipline.Holds before)
    {source : Resolved} {target : Ty} (label : String)
    (placed : discipline.Placed source before) (asked : discipline.asked target)
    {right : Ty → Prop} (yields : discipline.Yields (fill ctx source target label) right) :
    discipline.Safe (materialize ctx source target label) before
      fun type _ => right type := by
  have filled := lawful.filled ctx label placed.operand asked
  have both : discipline.Yields (fill ctx source target label) fun type =>
      right type ∧ (type.isUnknown = false → discipline.slot source.type type) :=
    ⟨fun run tolerated => ⟨yields.result run tolerated, filled.result run tolerated⟩⟩
  apply (Safe.of_reporting holds (reporting_fill _ _ _ _) both).bind
  intro type middle grows holdsMiddle ⟨proven, fits⟩
  dsimp only
  split
  · next known =>
      have slot := fits (by simpa using known)
      apply (Safe.update (holdsMiddle.recordSlot (placed.noted.mono grows) slot)).ending
      exact fun _ _ => proven
  · exact .pure holdsMiddle proven

theorem safe_materialize? (lawful : discipline.LawfulOn covers) (holds : discipline.Holds before)
    {source : Resolved} {target : Option Ty} (label : String)
    (placed : discipline.Placed source before) (asked : discipline.AskedIfAny target) :
    discipline.Safe (materialize? ctx source target label) before fun _ _ => True := by
  cases target with
  | none => exact .pure holds trivial
  | some target =>
      have filled := lawful.filled ctx label placed.operand (asked target rfl)
      exact (safe_materialize lawful holds label placed (asked target rfl) filled).discard

theorem safe_fillBranches (lawful : discipline.LawfulOn covers) (holds : discipline.Holds before)
    {branches : List Resolved} {target : Ty}
    (placed : ∀ branch ∈ branches, discipline.Placed branch before)
    (asked : discipline.asked target) :
    discipline.Safe (fillBranches ctx target branches) before fun _ _ => True := by
  induction branches generalizing before with
  | nil => exact .pure holds trivial
  | cons branch branches induction =>
      rw [List.forall_mem_cons] at placed
      have filled := lawful.filled ctx "branch value" placed.1.operand asked
      apply (safe_materialize lawful holds _ placed.1 asked filled).discard.bind
      intro _ middle grows holdsMiddle _
      apply induction holdsMiddle
      intro other member
      exact (placed.2 other member).mono grows

theorem safe_unifyBranches (lawful : discipline.LawfulOn covers) (holds : discipline.Holds before)
    {node : Node} {branches : List Resolved} {target : Option Ty} (some : branches ≠ [])
    (covered : covers.join node (branches.map Resolved.node))
    (placed : ∀ branch ∈ branches, discipline.Placed branch before)
    (asked : discipline.AskedIfAny target) :
    discipline.Safe (unifyBranches ctx branches target) before fun operand _ =>
      discipline.Sees node operand.type → discipline.operand operand := by
  unfold unifyBranches
  split
  · next type equal =>
      have wanted : discipline.asked type := asked type (Option.filter_eq_some_iff.mp equal).1
      apply (safe_fillBranches lawful holds placed wanted).ending
      exact fun _ _ _ => lawful.answered wanted
  · exact .of_reporting holds (reporting_joinBranches _ _)
      (lawful.joined ctx node covered some (fun branch member => (placed branch member).seen)
        fun branch member => (placed branch member).operand)

theorem safe_identifier (lawful : discipline.LawfulOn covers) (holds : discipline.Holds before)
    (name : Ident) :
    discipline.Safe (identifier name) before fun operand _ => discipline.operand operand := by
  apply Safe.reading
  split
  · apply Safe.reading
    exact (Safe.report holds _ _).bind fun _ _ _ holdsAfter faulted =>
      .pure holdsAfter (lawful.unknown faulted)
  · next symbol found =>
      apply Safe.guarded holds (.report holds _ _)
      exact fun _ _ holdsAfter => .pure holdsAfter (lawful.name _ (holds.of_lookup found))

theorem safe_requireMutable (holds : discipline.Holds before) (name : Ident)
    (symbol : Symbol) :
    discipline.Safe (requireMutable name symbol) before fun _ _ =>
      symbol.isMutable = true ∨ discipline.Faulted := by
  unfold requireMutable
  split
  · apply Safe.reading
    split
    · exact (Safe.report holds _ _).mono fun _ _ => .inr
    · exact (Safe.report holds _ _).mono fun _ _ => .inr
  · next isMutable => exact .pure holds (.inl (by simpa using isMutable))

theorem safe_signatureOf (lawful : discipline.LawfulOn covers) (holds : discipline.Holds before)
    (node : Node) (name : Option Ident) {parameters : List (Option ParameterExpr)}
    {result : TypeExpr} (body : Body)
    (written : ∀ parameter ∈ parameters, ∀ written ∈ parameter, covers.type written.type)
    (answered : covers.type result) :
    discipline.Safe (signatureOf node name parameters result body) before
      fun signature _ => discipline.signature signature := by
  apply Safe.reading
  split
  · next signature found => exact .pure holds (holds.of_signature found)
  · apply (Safe.of_reporting holds (reporting_readSignature _ _ _ _ _)
      (lawful.signature _ _ _ written answered)).bind
    intro signature middle _ holdsMiddle good
    apply (Safe.update _).ending
    · exact fun _ _ => good
    · exact ⟨holdsMiddle.symbols, holdsMiddle.functions,
        List.forall_mem_cons.mpr ⟨good, holdsMiddle.signatures⟩, holdsMiddle.types,
        holdsMiddle.slots⟩

theorem safe_declareFunction (lawful : discipline.LawfulOn covers)
    (holds : discipline.Holds before) (node : Node) (name : Option Ident)
    {parameters : List (Option ParameterExpr)} {result : TypeExpr} (body : Body)
    (written : ∀ parameter ∈ parameters, ∀ written ∈ parameter, covers.type written.type)
    (answered : covers.type result) :
    discipline.Safe (declareFunction node name parameters result body) before
      fun _ _ => True := by
  apply (safe_signatureOf lawful holds _ _ _ written answered).bind
  intro signature middle _ holdsMiddle good
  apply Safe.reading
  split
  · next declared =>
      exact (Safe.update (holdsMiddle.declareFunction good declared)).forget
  · exact (Safe.report holdsMiddle _ _).forget

theorem safe_declareParameters (lawful : discipline.LawfulOn covers) {signature : Signature}
    (good : discipline.signature signature) (node : Node) (number : Nat)
    {parameters : List Parameter} (within : ∀ parameter ∈ parameters,
      parameter ∈ signature.parameters) (holds : discipline.Holds before) :
    discipline.Safe (declareParameters node signature number parameters) before
      fun _ _ => True := by
  induction parameters generalizing number before with
  | nil => exact .pure holds trivial
  | cons parameter parameters induction =>
      rw [List.forall_mem_cons] at within
      unfold declareParameters
      apply Safe.reading
      dsimp only
      split
      · next declared =>
          have bound := lawful.parameter good within.1
          apply (Safe.update (holds.declareParameter declared bound)).bind
          exact fun _ _ _ holdsAfter _ => induction _ within.2 holdsAfter
      · apply (Safe.report holds _ _).bind
        exact fun _ _ _ holdsAfter _ => induction _ within.2 holdsAfter

theorem safe_requireReturn (holds : discipline.Holds before) (name : Option Ident)
    (signature : Signature) :
    discipline.Safe (requireReturn name signature) before fun _ _ => True := by
  unfold requireReturn
  split
  · exact .pure holds trivial
  · apply Safe.reading
    split
    · exact (Safe.report holds _ _).forget
    · exact .pure holds trivial

theorem safe_setReturned (holds : discipline.Holds before) (returned : Bool) :
    discipline.Safe (setReturned returned) before fun _ _ => True := by
  apply (Safe.update _).mono
  · exact fun _ _ _ => trivial
  · exact ⟨holds.symbols, holds.functions, holds.signatures, holds.types, holds.slots⟩

/-! ## Bindings, bounds and blocks -/

theorem safe_declare (lawful : discipline.LawfulOn covers) (holds : discipline.Holds before)
    (name : Ident) {symbol : Symbol} (good : discipline.symbol symbol) :
    discipline.Safe (declare name symbol) before fun _ _ => True := by
  apply Safe.reading
  split
  · next declared =>
      apply (Safe.update (holds.declare declared good)).bind
      intro _ middle _ holdsMiddle _
      exact (Safe.record holdsMiddle _ (lawful.notedSymbol good)).forget
  · exact (Safe.report holds _ _).forget

theorem safe_bindValue (lawful : discipline.LawfulOn covers) (holds : discipline.Holds before)
    (isMutable : Bool) (name : Ident) {declared : Option Ty} {value : Resolved}
    (placed : discipline.Placed value before)
    (annotated : discipline.AnnotatedIfAny declared) :
    discipline.Safe (bindValue ctx isMutable name declared value) before
      fun _ _ => True := by
  have bound : discipline.Safe (bindingType ctx isMutable name declared value) before
      fun type _ => discipline.symbol (boundSymbol isMutable name.name type value.operand) := by
    cases declared with
    | some target =>
        have given := annotated target rfl
        exact safe_materialize lawful holds "" placed (lawful.askedAnnotation given)
          (lawful.annotated ctx isMutable name.name "" placed.operand given)
    | none =>
        exact .of_reporting holds (reporting_bindingType_none _ _ _ _)
          (lawful.inferred ctx isMutable name placed.operand)
  apply bound.bind
  exact fun type _ _ holdsAfter good => safe_declare lawful holdsAfter name good

theorem safe_bindUndef (lawful : discipline.LawfulOn covers) (holds : discipline.Holds before)
    (isMutable : Bool) (name : Ident) {declared : Option Ty} (value : Node)
    (annotated : discipline.AnnotatedIfAny declared) :
    discipline.Safe (bindUndef isMutable name declared value) before fun _ _ => True := by
  unfold bindUndef
  split
  · apply (Safe.report holds _ _).bind
    intro _ middle _ holdsMiddle faulted
    exact safe_declare lawful holdsMiddle _ (lawful.untyped _ _ faulted)
  · next type =>
      have given := annotated type rfl
      have noting : ∀ middle, discipline.Holds middle →
          discipline.Safe (record value (some type)) middle fun _ _ => True := by
        intro middle holdsMiddle
        have wanted := lawful.askedAnnotation given
        exact (Safe.record holdsMiddle value (lawful.notedAsked wanted)).forget
      dsimp only
      split
      · next isTrue =>
          rw [isTrue]
          apply (safe_declare lawful holds _ (lawful.uninitialized _ given)).bind
          exact fun _ middle _ holdsMiddle _ => noting middle holdsMiddle
      · next isFalse =>
          rw [Bool.not_eq_true] at isFalse
          rw [isFalse]
          apply (Safe.report holds _ _).bind
          intro _ middle _ holdsMiddle faulted
          apply (safe_declare lawful holdsMiddle _ (lawful.immutable _ faulted given)).bind
          exact fun _ after _ holdsAfter _ => noting after holdsAfter

theorem safe_assign (lawful : discipline.LawfulOn covers) (holds : discipline.Holds before)
    (name : Ident) {symbol : Symbol} {value : Resolved} (good : discipline.symbol symbol)
    (placed : discipline.Placed value before) (asked : discipline.AskedIfAny symbol.type) :
    discipline.Safe (assign ctx name symbol value) before fun _ _ => True := by
  apply (safe_materialize? lawful holds _ placed asked).bind
  intro _ middle _ holdsMiddle _
  apply (Safe.record holdsMiddle name.node (lawful.notedSymbol good)).bind
  intro _ after _ holdsAfter _
  apply Safe.reading
  exact (Safe.update (holdsAfter.markInitialized lawful name.name)).forget

theorem safe_withBound (lawful : discipline.LawfulOn covers) (holds : discipline.Holds before)
    {resolve : Analysis Operand} (part : String) {parts : RangeParts} (bound : Expr)
    (good : discipline.parts parts)
    (safe : discipline.Safe resolve before fun operand after =>
      discipline.Placed ⟨bound.node, operand⟩ after) :
    discipline.Safe (withBound part parts bound resolve) before fun result _ =>
      discipline.parts result.1 ∧ BoundRead bound parts result := by
  refine Safe.knowing ?_ boundRead_withBound
  unfold withBound
  split
  · exact .pure holds good
  · apply safe.bind
    intro operand middle _ holdsMiddle placed
    exact .of_reporting holdsMiddle (reporting_addBound _ _ _)
      (lawful.rangeBound part good placed.operand)

theorem safe_blockValue (lawful : discipline.LawfulOn covers) {node : Node} {target : Option Ty}
    {statements : Stmts} (asked : discipline.AskedIfAny target)
    (covered : covers.join node (statements.yields.map Expr.node))
    (safe : discipline.Safe (statements.analyze (ctx.inBlock target))
      { before with table := before.table.enter .block }
      fun branches after => ∀ branch ∈ branches, discipline.Placed branch after) :
    discipline.Safe (blockValue ctx target (statements.analyze (ctx.inBlock target))) before
      fun operand _ => discipline.Sees node operand.type → discipline.operand operand := by
  apply Safe.withScope
  apply (safe.knowing (Stmts.nodes_of_analyze rfl)).bind
  intro branches middle _ holdsMiddle ⟨placed, nodes⟩
  rw [← nodes] at covered
  split
  · exact .pure holdsMiddle fun _ => lawful.void
  · next notEmpty =>
      apply safe_unifyBranches lawful holdsMiddle _ covered placed asked
      rintro rfl
      exact notEmpty rfl

theorem askedIfAny_operandHint (lawful : discipline.LawfulOn covers) (op : InfixOp)
    {target : Option Ty} (asked : discipline.AskedIfAny target) :
    discipline.AskedIfAny (operandHint op target) := by
  cases op with
  | arithmetic op =>
      intro type equal
      change scalarHint target = some type at equal
      unfold scalarHint at equal
      split at equal
      · exact asked type equal
      · cases equal
  | comparison ordered => exact askedIfAny_none
  | logical => exact askedIfAny_some lawful.askedBool

end Discipline

open Analysis Discipline

variable {discipline : Discipline} {covers : Coverage}

/-! ## Expressions and statements -/

mutual

theorem Expr.resolve_safeOn (lawful : discipline.LawfulOn covers) {ctx : Context}
    (admits : discipline.Admits ctx)
    {target : Option Ty} (asked : discipline.AskedIfAny target) {before : State}
    (holds : discipline.Holds before) :
    (expr : Expr) → expr.Within covers →
      discipline.Safe (expr.resolve ctx target) before fun operand after =>
        discipline.Placed ⟨expr.node, operand⟩ after
  | .missing, _ => .malformed holds _ _
  | .int node text, _ =>
      .recorded lawful (.of_reporting holds (reporting_integerLiteral _ _)
        (lawful.integer node text))
  | .float node text, _ =>
      .recorded lawful (.of_reporting holds (reporting_floatLiteral _ _)
        (lawful.float node text))
  | .bool _ _, _ => .recorded lawful (.pure holds lawful.bool)
  | .string _ _, _ => .recorded lawful (.pure holds lawful.string)
  | .undef _, _ => by
      apply Safe.recorded lawful
      exact (Safe.report holds _ _).bind fun _ _ _ holdsAfter faulted =>
        .pure holdsAfter (lawful.unknown faulted)
  | .ident name, _ => .recorded lawful (safe_identifier lawful holds name)
  | .prefixOp node operator right, covered => by
      apply Safe.recorded lawful
      apply (right.resolve_safeOn lawful admits asked holds covered).bind
      intro operand middle _ holdsMiddle placed
      exact .of_reporting holdsMiddle (reporting_prefixed _ _ _)
        (lawful.prefixed node operator placed.operand)
  | .infixOp node left operator right, ⟨leftCovered, rightCovered⟩ => by
      unfold Expr.resolve
      apply Safe.recorded lawful
      split
      · exact .malformed holds _ _
      · next op _ =>
          have hinted := askedIfAny_operandHint lawful op asked
          apply (left.resolve_safeOn lawful admits hinted holds leftCovered).bind
          intro leftOperand middle _ holdsMiddle leftPlaced
          apply (right.resolve_safeOn lawful admits hinted holdsMiddle rightCovered).bind
          intro rightOperand after _ holdsAfter rightPlaced
          exact .of_reporting holdsAfter (reporting_infixed _ _ _ _ _ _ _)
            (lawful.infixed ctx node operator op leftPlaced.operand rightPlaced.operand asked)
  | .conversion node value type, ⟨written, conversion, covered⟩ => by
      unfold Expr.resolve
      apply Safe.recorded_seen lawful
      apply Safe.required holds
      apply (Safe.of_reporting holds type.reporting_resolve
        (lawful.askedConversion written)).bind
      intro resolved middle _ holdsMiddle wanted
      apply (value.resolve_safeOn lawful admits askedIfAny_none holdsMiddle covered).bind
      intro operand after _ holdsAfter placed
      exact .of_reporting holdsAfter (reporting_converted _ _ _ _)
        (lawful.converted ctx node conversion placed.seen placed.operand wanted)
  | .array node items, ⟨counted, covered⟩ => by
      unfold Expr.resolve
      apply Safe.recorded lawful
      apply ((items.resolveAll_safeOn lawful admits (lawful.askedElement asked) holds
        covered).knowing Exprs.length_of_resolveAll).bind
      intro elements middle _ holdsMiddle ⟨placed, length⟩
      rw [← length] at counted
      exact .of_reporting holdsMiddle (reporting_arrayLiteral _ _ _ _)
        (lawful.array ctx node counted placed asked)
  | .range node start stop step inclusive,
      ⟨formed, startCovered, stopCovered, stepCovered⟩ => by
      have hinted := lawful.askedBound asked
      unfold Expr.resolve
      apply Safe.recorded lawful
      apply ((Safe.of_reporting holds (reporting_startParts _ _)
        (lawful.rangeStart start step)).knowing startParts_eq).bind
      rintro _ begun _ holdsBegun ⟨good, rfl⟩
      apply (safe_withBound lawful holdsBegun _ start good
        (start.resolve_safeOn lawful admits hinted holdsBegun startCovered)).bind
      intro started middle _ holdsMiddle ⟨goodStart, readStart⟩
      apply (safe_withBound lawful holdsMiddle _ stop goodStart
        (stop.resolve_safeOn lawful admits hinted holdsMiddle stopCovered)).bind
      intro stopped late _ holdsLate ⟨goodStop, readStop⟩
      apply (safe_withBound lawful holdsLate _ step goodStop
        (step.resolve_safeOn lawful admits hinted holdsLate stepCovered)).bind
      intro stepped after _ holdsAfter ⟨goodStep, readStep⟩
      exact .of_reporting holdsAfter (reporting_rangeLiteral _ _ _ _ _ _ _)
        (lawful.range ctx node _ formed goodStep (boundsRead readStart readStop readStep) asked)
  | .index node left index, ⟨leftCovered, indexCovered⟩ => by
      unfold Expr.resolve
      apply Safe.recorded lawful
      apply (left.resolve_safeOn lawful admits askedIfAny_none holds leftCovered).bind
      intro array middle _ holdsMiddle arrayPlaced
      apply (index.resolve_safeOn lawful admits (askedIfAny_some (lawful.askedIndex _))
        holdsMiddle indexCovered).bind
      intro operand after _ holdsAfter placed
      exact .of_reporting holdsAfter (reporting_indexing _ _ _ _)
        (lawful.indexing ctx node arrayPlaced.operand placed.operand)
  | .member node left name, covered => by
      cases name with
      | none => exact .recorded lawful (.malformed holds _ _)
      | some name =>
          unfold Expr.resolve
          apply Safe.recorded lawful
          apply (left.resolve_safeOn lawful admits askedIfAny_none holds covered).bind
          intro operand middle _ holdsMiddle placed
          exact .of_reporting holdsMiddle (reporting_property _ _)
            (lawful.property name placed.operand)
  | .call node callee arguments, covered => by
      cases callee with
      | none => exact .recorded lawful (.malformed holds _ _)
      | some callee =>
          unfold Expr.resolve
          apply Safe.recorded lawful
          apply Safe.reading
          split
          · next signature found =>
              have good := holds.of_function found
              apply (Safe.checked holds (reporting_requireArity _ _ _)).bind
              intro _ middle _ holdsMiddle _
              apply (arguments.resolveArguments_safeOn lawful admits good (fun _ => id) 1
                holdsMiddle covered).ending
              exact fun _ _ => lawful.answered (lawful.askedResult good)
          · apply Safe.reading
            apply (Safe.report holds _ _).bind
            intro _ middle _ holdsMiddle faulted
            apply Safe.ending
              (arguments.resolveAll_safeOn lawful admits askedIfAny_none holdsMiddle
                covered).discard
            exact fun _ _ => lawful.unknown faulted
  | .block node statements, ⟨joined, covered⟩ => by
      unfold Expr.resolve
      apply Safe.recorded_seen lawful
      apply safe_blockValue lawful asked joined
      exact statements.analyze_safeOn lawful (admits.inBlock asked) (holds.enter .block) covered
  | .conditional node condition consequence alternative,
      ⟨joined, conditionCovered, consequenceCovered, alternativeCovered⟩ => by
      unfold Expr.resolve
      apply Safe.recorded_seen lawful
      apply (condition.resolve_safeOn lawful admits (askedIfAny_some lawful.askedBool) holds
        conditionCovered).bind
      intro operand tested _ holdsTested _
      apply (Safe.checked holdsTested (reporting_requireCondition _)).bind
      intro _ start _ holdsStart _
      apply Safe.required holdsStart
      apply (consequence.resolve_safeOn lawful admits asked holdsStart consequenceCovered).bind
      intro first middle _ holdsMiddle firstPlaced
      split
      · exact .pure holdsMiddle fun _ => lawful.void
      · next present =>
          apply (alternative.resolve_safeOn lawful admits asked holdsMiddle
            alternativeCovered).bind
          intro second after grows holdsAfter secondPlaced
          refine safe_unifyBranches lawful holdsAfter (List.cons_ne_nil _ _)
            (joined (Bool.eq_false_iff.mpr present)) ?_ asked
          exact List.forall_mem_cons.mpr ⟨firstPlaced.mono grows,
            List.forall_mem_singleton.mpr secondPlaced⟩

theorem Exprs.resolveAll_safeOn (lawful : discipline.LawfulOn covers) {ctx : Context}
    (admits : discipline.Admits ctx)
    {target : Option Ty} (asked : discipline.AskedIfAny target) {before : State}
    (holds : discipline.Holds before) :
    (exprs : Exprs) → exprs.Within covers →
      discipline.Safe (exprs.resolveAll ctx target) before fun elements _ =>
        ∀ element ∈ elements, discipline.operand element.operand
  | .nil, _ => .pure holds (List.forall_mem_nil _)
  | .cons head tail, ⟨headCovered, tailCovered⟩ => by
      apply (head.resolve_safeOn lawful admits asked holds headCovered).bind
      intro operand middle _ holdsMiddle placed
      apply (tail.resolveAll_safeOn lawful admits asked holdsMiddle tailCovered).bind
      intro elements after _ holdsAfter good
      exact .pure holdsAfter (List.forall_mem_cons.mpr ⟨placed.operand, good⟩)

theorem Exprs.resolveArguments_safeOn (lawful : discipline.LawfulOn covers) {ctx : Context}
    (admits : discipline.Admits ctx)
    {signature : Signature} (good : discipline.signature signature)
    {parameters : List Parameter} (within : ∀ parameter ∈ parameters,
      parameter ∈ signature.parameters) (number : Nat) {before : State}
    (holds : discipline.Holds before) :
    (exprs : Exprs) → exprs.Within covers →
      discipline.Safe (exprs.resolveArguments ctx signature number parameters) before
        fun _ _ => True
  | .nil, _ => .pure holds trivial
  | .cons head tail, ⟨headCovered, tailCovered⟩ => by
      cases parameters with
      | nil =>
          apply (head.resolve_safeOn lawful admits askedIfAny_none holds headCovered).discard.bind
          intro _ middle _ holdsMiddle _
          exact tail.resolveArguments_safeOn lawful admits good within (number + 1) holdsMiddle
            tailCovered
      | cons parameter parameters =>
          rw [List.forall_mem_cons] at within
          have wanted := lawful.askedArgument good within.1
          apply (head.resolve_safeOn lawful admits wanted holds headCovered).bind
          intro operand middle _ holdsMiddle placed
          apply (safe_materialize? lawful holdsMiddle _ placed wanted).bind
          intro _ after _ holdsAfter _
          exact tail.resolveArguments_safeOn lawful admits good within.2 (number + 1) holdsAfter
            tailCovered

theorem Body.resolve_safeOn (lawful : discipline.LawfulOn covers) {ctx : Context}
    (admits : discipline.Admits ctx)
    {target : Option Ty} (asked : discipline.AskedIfAny target) {before : State}
    (holds : discipline.Holds before) :
    (body : Body) → body.Within covers →
      discipline.Safe (body.resolve ctx target) before fun operand after =>
        discipline.Placed ⟨body.node, operand⟩ after
  | .missing, _ => .malformed holds _ _
  | .block node statements, ⟨joined, covered⟩ => by
      unfold Body.resolve
      apply Safe.recorded_seen lawful
      apply safe_blockValue lawful asked joined
      exact statements.analyze_safeOn lawful (admits.inBlock asked) (holds.enter .block) covered

theorem Stmts.analyze_safeOn (lawful : discipline.LawfulOn covers) {ctx : Context}
    (admits : discipline.Admits ctx) {before : State}
    (holds : discipline.Holds before) :
    (statements : Stmts) → statements.Within covers →
      discipline.Safe (statements.analyze ctx) before
        fun branches after => ∀ branch ∈ branches, discipline.Placed branch after
  | .nil, _ => .pure holds (List.forall_mem_nil _)
  | .cons head tail, ⟨headCovered, tailCovered⟩ => by
      apply (head.analyze_safeOn lawful admits holds headCovered).bind
      intro branch middle _ holdsMiddle placed
      apply (tail.analyze_safeOn lawful admits holdsMiddle tailCovered).bind
      intro branches after grows holdsAfter placedAfter
      apply Safe.pure holdsAfter
      intro other member
      rcases List.mem_append.mp member with first | later
      · exact (placed other (Option.mem_toList.mp first)).mono grows
      · exact placedAfter other later

theorem Stmt.analyze_safeOn (lawful : discipline.LawfulOn covers) {ctx : Context}
    (admits : discipline.Admits ctx) {before : State}
    (holds : discipline.Holds before) :
    (statement : Stmt) → statement.Within covers →
      discipline.Safe (statement.analyze ctx) before
        fun branch after => ∀ value ∈ branch, discipline.Placed value after
  | .missing, _ => .malformed holds _ _
  | .declaration node isMutable name type value, ⟨written, covered⟩ => by
      cases name with
      | none => exact .malformed holds _ _
      | some name =>
          unfold Stmt.analyze
          apply Safe.required holds
          apply (Safe.of_reporting holds (reporting_declaredType _ _)
            (lawful.annotatedDeclaration name.name written)).bind
          intro declared middle _ holdsMiddle annotated
          have wanted := askedIfAny_of_annotatedIfAny lawful annotated
          split
          · exact (safe_bindUndef lawful holdsMiddle _ _ _ annotated).noBranch
          · apply (value.resolve_safeOn lawful admits wanted holdsMiddle covered).bind
            intro operand after _ holdsAfter placed
            exact (safe_bindValue lawful holdsAfter _ _ placed annotated).noBranch
  | .assignment node name value, covered => by
      cases name with
      | none => exact .malformed holds _ _
      | some name =>
          unfold Stmt.analyze
          apply Safe.required holds
          apply Safe.reading
          split
          · apply (Safe.report holds _ _).bind
            intro _ middle _ holdsMiddle _
            exact (value.resolve_safeOn lawful admits askedIfAny_none holdsMiddle
              covered).discard.noBranch
          · next symbol found =>
              have good := holds.of_lookup found
              apply (safe_requireMutable holds name symbol).bind
              intro _ middle _ holdsMiddle mutable
              have wanted := lawful.askedAssignment good mutable
              apply (value.resolve_safeOn lawful admits wanted holdsMiddle covered).bind
              intro operand after _ holdsAfter placed
              exact (safe_assign lawful holdsAfter name good placed wanted).noBranch
  | .returning node value, covered => by
      unfold Stmt.analyze
      dsimp only
      split
      · apply (Safe.report holds _ _).bind
        intro _ middle _ holdsMiddle _
        split
        · exact (value.resolve_safeOn lawful admits askedIfAny_none holdsMiddle
            covered).discard.noBranch
        · exact .pure holdsMiddle (placed_none _)
      · next signature found =>
          have wanted := lawful.askedResult (admits.function signature found)
          apply (safe_setReturned holds true).bind
          intro _ middle _ holdsMiddle _
          split
          · split
            · apply (value.resolve_safeOn lawful admits askedIfAny_none holdsMiddle covered).bind
              intro operand after _ holdsAfter _
              exact (Safe.checked holdsAfter (reporting_requireNoValue _ _)).noBranch
            · exact .pure holdsMiddle (placed_none _)
          · split
            · exact (Safe.report holdsMiddle _ _).noBranch
            · apply (value.resolve_safeOn lawful admits (askedIfAny_some wanted) holdsMiddle
                covered).bind
              intro operand after _ holdsAfter placed
              have filled := lawful.filled ctx ("return value of " ++ signature.name)
                placed.operand wanted
              exact (safe_materialize lawful holdsAfter _ placed wanted filled).discard.noBranch
  | .yielding node value, covered => by
      unfold Stmt.analyze
      apply Safe.required holds
      split
      · apply (Safe.report holds _ _).bind
        intro _ middle _ holdsMiddle _
        exact (value.resolve_safeOn lawful admits askedIfAny_none holdsMiddle
          covered).discard.noBranch
      · next target found =>
          apply (value.resolve_safeOn lawful admits (admits.block target found) holds covered).bind
          intro operand after _ holdsAfter placed
          apply Safe.pure holdsAfter
          intro other member
          cases member
          exact placed
  | .expression node value, covered => by
      exact (value.resolve_safeOn lawful admits askedIfAny_none holds covered).discard.noBranch
  | .function node name parameters result body, ⟨written, answered, covered⟩ => by
      unfold Stmt.analyze
      dsimp only
      split
      · exact (Safe.report holds _ _).noBranch
      · apply (safe_signatureOf lawful holds _ _ _ written answered).bind
        intro signature start _ holdsStart good
        have inside : discipline.Safe (withScope .function do
            declareParameters node signature 1 signature.parameters
            clearReturned
            body.analyze (ctx.inFunction signature)
            requireReturn name signature) start fun _ _ => True := by
          apply Safe.withScope
          apply (safe_declareParameters lawful good node 1 (fun _ => id)
            (holdsStart.enter .function)).bind
          intro _ bound _ holdsBound _
          apply (safe_setReturned holdsBound false).bind
          intro _ middle _ holdsMiddle _
          apply (body.analyze_safeOn lawful (Admits.inFunction ctx good) holdsMiddle covered).bind
          intro _ after _ holdsAfter _
          exact safe_requireReturn holdsAfter name signature
        exact inside.noBranch

theorem Body.analyze_safeOn (lawful : discipline.LawfulOn covers) {ctx : Context}
    (admits : discipline.Admits ctx) {before : State}
    (holds : discipline.Holds before) :
    (body : Body) → body.Within covers →
      discipline.Safe (body.analyze ctx) before fun _ _ => True
  | .missing, _ => .pure holds trivial
  | .block _ statements, ⟨_, covered⟩ =>
      (statements.analyze_safeOn lawful admits holds covered).discard

end

/-! ## Programs -/

theorem Stmts.declareFunctions_safeOn (lawful : discipline.LawfulOn covers) {before : State}
    (holds : discipline.Holds before) :
    (statements : Stmts) → statements.Within covers →
      discipline.Safe statements.declareFunctions before fun _ _ => True
  | .nil, _ => .pure holds trivial
  | .cons head tail, ⟨headCovered, tailCovered⟩ => by
      cases head with
      | function node name parameters result body =>
          rcases headCovered with ⟨written, answered, _⟩
          apply (safe_declareFunction lawful holds _ _ _ written answered).bind
          exact fun _ _ _ holdsAfter _ =>
            tail.declareFunctions_safeOn lawful holdsAfter tailCovered
      | _ => exact tail.declareFunctions_safeOn lawful holds tailCovered

theorem Program.analyze_safeOn (lawful : discipline.LawfulOn covers) {ctx : Context}
    (admits : discipline.Admits ctx) {before : State} (holds : discipline.Holds before)
    (mode : AnalysisMode) {program : Program} (covered : program.Within covers) :
    discipline.Safe (program.analyze ctx mode) before fun _ _ => True := by
  have headers := program.statements.declareFunctions_safeOn lawful holds covered
  cases mode with
  | full =>
      apply headers.bind
      exact fun _ _ _ holdsAfter _ =>
        (program.statements.analyze_safeOn lawful admits holdsAfter covered).discard
  | headers => exact headers.ending fun _ _ => trivial
  | bodies => exact (program.statements.analyze_safeOn lawful admits holds covered).discard

/-- The context that a program starts in. -/
def Context.start (policy : BranchPolicy) (width : PointerWidth) : Context :=
  { policy, width }

theorem Discipline.admits_start (policy : BranchPolicy) (width : PointerWidth) :
    discipline.Admits (.start policy width) :=
  ⟨nofun, nofun⟩

/-- Whatever the outcome of a covered program from an empty table, the discipline holds in the
state that it leaves, if that state is tolerated. -/
theorem Program.holds_of_within (lawful : discipline.LawfulOn covers) {program : Program}
    (covered : program.Within covers) (policy : BranchPolicy) (width : PointerWidth)
    (mode : AnalysisMode)
    (tolerated : discipline.tolerates
      ((program.analyze (.start policy width) mode).run (.ofTable .empty)).state) :
    discipline.Holds ((program.analyze (.start policy width) mode).run (.ofTable .empty)).state :=
  (program.analyze_safeOn lawful (Discipline.admits_start policy width) (Holds.empty discipline)
    mode covered).state tolerated

/-! ## Laws without a condition -/

section

variable (lawful : discipline.Lawful) {ctx : Context} (admits : discipline.Admits ctx)
  {before : State}

include lawful

theorem Stmts.declareFunctions_safe (holds : discipline.Holds before) (statements : Stmts) :
    discipline.Safe statements.declareFunctions before fun _ _ => True :=
  statements.declareFunctions_safeOn lawful holds statements.within_everything

include admits

theorem Expr.resolve_safe {target : Option Ty} (asked : discipline.AskedIfAny target)
    (holds : discipline.Holds before) (expr : Expr) :
    discipline.Safe (expr.resolve ctx target) before fun operand after =>
      discipline.Placed ⟨expr.node, operand⟩ after :=
  expr.resolve_safeOn lawful admits asked holds expr.within_everything

theorem Body.resolve_safe {target : Option Ty} (asked : discipline.AskedIfAny target)
    (holds : discipline.Holds before) (body : Body) :
    discipline.Safe (body.resolve ctx target) before fun operand after =>
      discipline.Placed ⟨body.node, operand⟩ after :=
  body.resolve_safeOn lawful admits asked holds body.within_everything

theorem Exprs.resolveAll_safe {target : Option Ty} (asked : discipline.AskedIfAny target)
    (holds : discipline.Holds before) (exprs : Exprs) :
    discipline.Safe (exprs.resolveAll ctx target) before fun elements _ =>
      ∀ element ∈ elements, discipline.operand element.operand :=
  exprs.resolveAll_safeOn lawful admits asked holds exprs.within_everything

theorem Exprs.resolveArguments_safe {signature : Signature}
    (good : discipline.signature signature) {parameters : List Parameter}
    (within : ∀ parameter ∈ parameters, parameter ∈ signature.parameters) (number : Nat)
    (holds : discipline.Holds before) (exprs : Exprs) :
    discipline.Safe (exprs.resolveArguments ctx signature number parameters) before
      fun _ _ => True :=
  exprs.resolveArguments_safeOn lawful admits good within number holds exprs.within_everything

theorem Stmt.analyze_safe (holds : discipline.Holds before) (statement : Stmt) :
    discipline.Safe (statement.analyze ctx) before
      fun branch after => ∀ value ∈ branch, discipline.Placed value after :=
  statement.analyze_safeOn lawful admits holds statement.within_everything

theorem Stmts.analyze_safe (holds : discipline.Holds before) (statements : Stmts) :
    discipline.Safe (statements.analyze ctx) before
      fun branches after => ∀ branch ∈ branches, discipline.Placed branch after :=
  statements.analyze_safeOn lawful admits holds statements.within_everything

theorem Program.analyze_safe (holds : discipline.Holds before) (mode : AnalysisMode)
    (program : Program) :
    discipline.Safe (program.analyze ctx mode) before fun _ _ => True :=
  program.analyze_safeOn lawful admits holds mode program.within_everything

end

/-- A run from an empty table that is tolerated leaves a state in which the discipline
holds. -/
theorem Program.holds_of_analyze (lawful : discipline.Lawful) {policy : BranchPolicy}
    {width : PointerWidth} {program : Program} {state : State}
    (run : (program.analyze (.start policy width) .full).run (.ofTable .empty) = .ok () state)
    (tolerated : discipline.tolerates state) : discipline.Holds state := by
  have settled := program.holds_of_within lawful program.within_everything policy width .full
  rw [run] at settled
  exact settled tolerated

end ComptimeTyping
