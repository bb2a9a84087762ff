import ComptimeTyping.Proofs.ArrayTypes
import ComptimeTyping.Proofs.Frame
import ComptimeTyping.Proofs.Problems

/-! What can be wrong with type expressions, signatures and bindings. -/

namespace ComptimeTyping

open Analysis

variable {before : State} {node : Node} {diagnostic : Diagnostic}

/-! ## Type expressions -/

/-- What is wrong with a type expression inside of array types. An array type has nothing wrong
with it inside unless its own axes are in order. -/
inductive TypeExpr.Problem (before : State) : Option Enclosing → TypeExpr → Diagnostic → Prop
  | unknownType {enclosing : Option Enclosing} {node : Node} {name : String}
      (unknown : Tag.parse? name = none) :
      Problem before enclosing (.named node name)
        ((Finding.unknownType name).placed node.position)
  | named {outer : Enclosing} {node : Node} {name : String} {tag : Tag}
      {cause : Ty.FormationError} (parsed : Tag.parse? name = some tag)
      (refused : Ty.array? tag outer.dims = .error cause) :
      Problem before (some outer) (.named node name)
        ((Finding.notFormed cause).placed outer.node.position)
  | axis {enclosing : Option Enclosing} {node : Node} {earlier : List DimExpr}
      {fault : DimExpr} {later : List (Option DimExpr)} {element : TypeExpr}
      (present : element.isMissing = false) (allowed : ∀ dim ∈ earlier, dim.isFault = false)
      (isFault : fault.isFault = true) :
      Problem before enclosing (.array node (earlier.map some ++ some fault :: later) element)
        ((Finding.dimNotPositive fault.dim.toInt).placed fault.position)
  | array {enclosing : Option Enclosing} {node : Node} {axes : Axes DimExpr}
      {element : TypeExpr} {diagnostic : Diagnostic}
      (allowed : ∀ dim ∈ axes.toList, dim.isFault = false)
      (problem : Problem before (some (ArrayTypes.within enclosing ⟨node, axes⟩)) element
        diagnostic) :
      Problem before enclosing (.array node (axes.toList.map some) element) diagnostic
  | element {enclosing : Option Enclosing} {node : Node} {element : TypeExpr}
      {diagnostic : Diagnostic} (problem : Problem before none element diagnostic) :
      Problem before enclosing (.range node element) diagnostic
  | notFormed {enclosing : Option Enclosing} {node : Node} {element : TypeExpr} {type : Ty}
      {middle : State} {cause : Ty.FormationError}
      (resolved : element.resolve.run before = .ok type middle) (known : type.isUnknown = false)
      (refused : Ty.range? (type.scalarTag?.getD .unknown) .bare = .error cause) :
      Problem before enclosing (.range node element)
        ((Finding.notFormed cause).placed node.position)
  | notScalar {outer : Enclosing} {node : Node} {element : TypeExpr} {type ranged : Ty}
      {middle : State} (resolved : element.resolve.run before = .ok type middle)
      (known : type.isUnknown = false)
      (formed : Ty.range? (type.scalarTag?.getD .unknown) .bare = .ok ranged) :
      Problem before (some outer) (.range node element)
        ((Finding.elementNotScalar ranged).placed node.position)

namespace Analysis

theorem leaves_readDims {earlier : List DimExpr} {fault : DimExpr}
    {later : List (Option DimExpr)} (allowed : ∀ dim ∈ earlier, dim.isFault = false)
    (isFault : fault.isFault = true) :
    (readDims node (earlier.map some ++ some fault :: later)).Leaves before
      ((Finding.dimNotPositive fault.dim.toInt).placed fault.position) := by
  induction earlier with
  | nil => simp [ArrayTypes.readDims_cons, isFault]
  | cons dim earlier induction =>
      rw [List.forall_mem_cons] at allowed
      simpa [ArrayTypes.readDims_cons, allowed.1] using induction allowed.2

end Analysis

theorem TypeExpr.Problem.present {enclosing : Option Enclosing} {type : TypeExpr}
    (problem : type.Problem before enclosing diagnostic) : type.isMissing = false := by
  cases problem <;> rfl

theorem TypeExpr.present_of_run {type : TypeExpr} {resolved : Ty} {middle : State}
    (run : type.resolve.run before = .ok resolved middle) : type.isMissing = false := by
  cases type with
  | missing => simp [resolve, resolveIn, malformed] at run
  | _ => rfl

theorem TypeExpr.Problem.leaves {enclosing : Option Enclosing} {type : TypeExpr}
    (problem : type.Problem before enclosing diagnostic) :
    (type.resolveIn enclosing).Leaves before diagnostic := by
  induction problem with
  | unknownType unknown => simp [resolveIn, namedType, unknown]
  | named parsed refused =>
      simp [resolveIn, namedType, parsed, enclose, ArrayTypes.known_of_parse parsed,
        Ty.scalarTag?, refused]
  | axis present allowed isFault =>
      simpa [resolveIn, present] using (leaves_readDims allowed isFault).bind
  | @array enclosing node axes element diagnostic allowed problem induction =>
      have none : axes.toList.find? DimExpr.isFault = none := by simpa using allowed
      have read := ArrayTypes.run_readDims node axes.toList before
      simp only [none] at read
      have written : ((axes.toList.map some).isEmpty || element.isMissing) = false := by
        simp [problem.present, Axes.toList]
      rw [resolveIn, written]
      refine .after read ?_
      cases enclosing <;> exact induction
  | element problem induction =>
      simpa [resolveIn, problem.present] using induction.bind
  | notFormed resolved known refused =>
      simp only [resolveIn, present_of_run resolved, Bool.false_eq_true, if_false]
      refine .after resolved ?_
      simp [rangeType, known, refused]
  | @notScalar outer node element type ranged middle resolved known formed =>
      have isRange : ranged.isUnknown = false ∧ ranged.scalarTag? = none := by
        rcases Ty.range?_eq_ok_iff.mp formed with ⟨_, rfl⟩
        exact ⟨rfl, rfl⟩
      simp only [resolveIn, present_of_run resolved, Bool.false_eq_true, if_false]
      refine .after resolved ?_
      simp [rangeType, known, formed, enclose, isRange]

theorem TypeExpr.Problem.leaves_resolve {type : TypeExpr}
    (problem : type.Problem before none diagnostic) : type.resolve.Leaves before diagnostic :=
  problem.leaves

/-! ## Signatures -/

/-- What is wrong with a parameter, after the parameters that are read before it. -/
inductive ParameterProblem (before : State) (function : String) (read : List Parameter)
    (parameter : ParameterExpr) (name : Ident) : Diagnostic → Prop
  | type {diagnostic : Diagnostic} (problem : parameter.type.Problem before none diagnostic) :
      ParameterProblem before function read parameter name diagnostic
  | void {middle : State} (resolved : parameter.type.resolve.run before = .ok .void middle) :
      ParameterProblem before function read parameter name
        ((Finding.voidParameter name.name).placed parameter.type.node.position)
  | duplicate {type : Ty} {middle : State}
      (resolved : parameter.type.resolve.run before = .ok type middle)
      (repeated : ∃ earlier ∈ read, earlier.name = name.name) :
      ParameterProblem before function read parameter name
        ((Finding.duplicateParameter name.name function).placed name.position)

/-- What is wrong with the head of a function. -/
inductive SignatureProblem (before : State) (node : Node) (name : Ident)
    (parameters : List (Option ParameterExpr)) (result : TypeExpr) : Diagnostic → Prop
  | parameter {earlier later : List (Option ParameterExpr)} {parameter : ParameterExpr}
      {parameterName : Ident} {read : List Parameter} {middle : State} {diagnostic : Diagnostic}
      (parts : parameters = earlier ++ some parameter :: later)
      (named : parameter.name = some parameterName)
      (run : (readParameters node name.name [] earlier).run before = .ok read middle)
      (problem : ParameterProblem middle name.name read parameter parameterName diagnostic) :
      SignatureProblem before node name parameters result diagnostic
  | result {read : List Parameter} {middle : State} {diagnostic : Diagnostic}
      (run : (readParameters node name.name [] parameters).run before = .ok read middle)
      (problem : result.Problem middle none diagnostic) :
      SignatureProblem before node name parameters result diagnostic

namespace Analysis

theorem readParameters_append {function : String} {read : List Parameter}
    {earlier later : List (Option ParameterExpr)} :
    readParameters node function read (earlier ++ later) =
      readParameters node function read earlier >>= fun read =>
        readParameters node function read later := by
  induction earlier generalizing read with
  | nil => simp [readParameters]
  | cons parameter earlier induction =>
      cases parameter with
      | none => rfl
      | some parameter =>
          cases named : parameter.name with
          | none =>
              simp only [List.cons_append, readParameters, named]
              rfl
          | some name =>
              simp only [List.cons_append, readParameters, named, induction]
              split
              · rfl
              · rw [bind_assoc]
                refine bind_congr fun type => ?_
                split
                · exact (bind_assoc _ _ _).symm
                · rfl

theorem leaves_parameter {function : String} {read : List Parameter} {parameter : ParameterExpr}
    {name : Ident} {later : List (Option ParameterExpr)} (named : parameter.name = some name)
    (problem : ParameterProblem before function read parameter name diagnostic) :
    (readParameters node function read (some parameter :: later)).Leaves before diagnostic := by
  have present : parameter.type.isMissing = false := by
    cases problem with
    | type problem => exact problem.present
    | void resolved => exact TypeExpr.present_of_run resolved
    | duplicate resolved repeated => exact TypeExpr.present_of_run resolved
  simp only [readParameters, named, present, Bool.false_eq_true, if_false]
  cases problem with
  | type problem => exact problem.leaves_resolve.bind.bind
  | void resolved =>
      apply Leaves.bind
      refine .after resolved ?_
      simp [Ty.isVoid]
  | duplicate resolved repeated =>
      have again : read.any (·.name == name.name) = true := by simpa using repeated
      simp only [parameterType, again, if_true, bind_assoc]
      refine .after resolved ?_
      split
      · simpa using Leaves.behind (.report _ _) fun _ _ => leaves_report_bind
      · simp

theorem leaves_readSignature {name : Ident} {parameters : List (Option ParameterExpr)}
    {result : TypeExpr} {body : Body} (present : body.isMissing = false)
    (problem : SignatureProblem before node name parameters result diagnostic) :
    (readSignature node (some name) parameters result body).Leaves before diagnostic := by
  simp only [readSignature, present]
  cases problem with
  | parameter parts named run problem =>
      rw [parts, readParameters_append]
      exact (Leaves.after run (leaves_parameter named problem)).bind
  | result run problem =>
      refine .after run ?_
      simpa [problem.present] using problem.leaves_resolve

end Analysis

/-! ## Bindings -/

/-- What is wrong with the type that a declaration asks for. -/
inductive DeclaredProblem (before : State) (name : String) (type : TypeExpr) :
    Diagnostic → Prop
  | type {diagnostic : Diagnostic} (problem : type.Problem before none diagnostic) :
      DeclaredProblem before name type diagnostic
  | void {middle : State} (resolved : type.resolve.run before = .ok .void middle) :
      DeclaredProblem before name type ((Finding.voidVariable name).placed type.node.position)

/-- What is wrong with a declaration without a value. -/
inductive UndefProblem (table : SymbolTable) (isMutable : Bool) (name : Ident)
    (declared : Option Ty) (value : Node) : Diagnostic → Prop
  | untyped (free : declared = none) :
      UndefProblem table isMutable name declared value
        ((Finding.untypedUndef name.name).placed value.position)
  | immutable {type : Ty} (asked : declared = some type) (immutable : isMutable = false) :
      UndefProblem table isMutable name declared value
        ((Finding.immutableUndef name.name type).placed value.position)
  | redeclared (bound : (table.inner.find? name.name).isSome = true) :
      UndefProblem table isMutable name declared value
        ((Finding.redeclared name.name).placed name.position)

/-- What is wrong with a declaration and its value. -/
inductive BindingProblem (ctx : Context) (table : SymbolTable) (isMutable : Bool) (name : Ident)
    (declared : Option Ty) (value : Resolved) : Diagnostic → Prop
  | slot {type : Ty} {diagnostic : Diagnostic} (asked : declared = some type)
      (problem : SlotProblem ctx value type "" diagnostic) :
      BindingProblem ctx table isMutable name declared value diagnostic
  | void (free : declared = none) (void : value.type = .void) :
      BindingProblem ctx table isMutable name declared value
        ((Finding.voidBinding name.name).placed value.position)
  | mutableComptime (free : declared = none) (changing : isMutable = true)
      (comptime : value.type.isComptime = true) :
      BindingProblem ctx table isMutable name declared value
        ((Finding.mutableComptime name.name value.type).placed name.position)
  | redeclared (bound : (table.inner.find? name.name).isSome = true) :
      BindingProblem ctx table isMutable name declared value
        ((Finding.redeclared name.name).placed name.position)

/-- A variable that cannot be assigned to. -/
inductive MutabilityProblem (table : SymbolTable) (name : Ident) (symbol : Symbol) :
    Diagnostic → Prop
  | parameter {parameter : Parameter} (immutable : symbol.isMutable = false)
      (isParameter : table.parameter? name.name = some parameter) :
      MutabilityProblem table name symbol
        ((Finding.assignToParameter parameter).placed name.position)
  | other (immutable : symbol.isMutable = false)
      (notParameter : table.parameter? name.name = none) :
      MutabilityProblem table name symbol
        ((Finding.assignToImmutable name.name symbol.type).placed name.position)

namespace Analysis

variable {ctx : Context} {name : Ident} {symbol : Symbol} {isMutable : Bool}
  {declared : Option Ty} {value : Resolved}

theorem leaves_declaredType {name : String} {type : TypeExpr}
    (problem : DeclaredProblem before name type diagnostic) :
    (declaredType name type).Leaves before diagnostic := by
  cases problem with
  | type problem =>
      simp only [declaredType, problem.present]
      exact problem.leaves_resolve.bind
  | void resolved =>
      simp only [declaredType, TypeExpr.present_of_run resolved, Bool.false_eq_true, if_false]
      refine .after resolved ?_
      simp [Ty.isVoid]

theorem leaves_declare (named : symbol.name = name.name)
    (bound : (before.table.inner.find? name.name).isSome = true) :
    (declare name symbol).Leaves before ((Finding.redeclared name.name).placed name.position) := by
  rcases Option.isSome_iff_exists.mp bound with ⟨earlier, found⟩
  rw [← named] at found
  simp [declare, SymbolTable.declare_eq, found]

theorem leaves_bindUndef {value : Node}
    (problem : UndefProblem before.table isMutable name declared value diagnostic) :
    (bindUndef isMutable name declared value).Leaves before diagnostic := by
  cases problem with
  | untyped free => simp [bindUndef, free]
  | immutable asked immutable => simp [bindUndef, asked, immutable]
  | redeclared bound =>
      have leaves : ∀ symbol : Symbol, symbol.name = name.name → ∀ middle : State,
          middle.table = before.table → (declare name symbol).Leaves middle
            ((Finding.redeclared name.name).placed name.position) :=
        fun symbol named middle same => leaves_declare named (same ▸ bound)
      cases declared with
      | none => exact .beside (.report _ _) (.report _ _) fun _ => leaves _ rfl
      | some type =>
          simp only [bindUndef]
          split
          · exact (leaves _ rfl before rfl).bind
          · exact .beside (.report _ _) (.report _ _) fun _ middle same =>
              (leaves _ rfl middle same).bind

theorem leaves_bindValue
    (problem : BindingProblem ctx before.table isMutable name declared value diagnostic) :
    (bindValue ctx isMutable name declared value).Leaves before diagnostic := by
  unfold bindValue
  cases problem with
  | slot asked problem =>
      subst asked
      exact (leaves_materialize problem).bind
  | void free void => simp [bindingType, free, void, Ty.isVoid]
  | mutableComptime free changing comptime =>
      have valued : value.type.isVoid = false := by
        by_contra void
        have type : value.type = .void := by simpa [Ty.isVoid] using void
        simp [type, Ty.isComptime, Tag.isComptime] at comptime
      simp [bindingType, free, valued, changing, comptime]
  | redeclared bound =>
      have named : ∀ type,
          (boundSymbol isMutable name.name type value.operand).name = name.name := by
        intro type
        simp only [boundSymbol]
        split <;> rfl
      have leaves : ∀ type (middle : State), middle.table = before.table →
          (declare name (boundSymbol isMutable name.name type value.operand)).Leaves middle
            ((Finding.redeclared name.name).placed name.position) :=
        fun type middle same => leaves_declare (named type) (same ▸ bound)
      cases declared with
      | none =>
          exact .beside (.of_reporting (reporting_bindingType_none _ _ _ _))
            (.of_reporting (reporting_bindingType_none _ _ _ _)) leaves
      | some type =>
          exact .beside (stops_materialize _ _ _ _) (moves_materialize _ _ _ _) leaves

theorem leaves_assign {type : Ty} (asked : symbol.type = some type)
    (problem : SlotProblem ctx value type ("assignment to " ++ name.name) diagnostic) :
    (assign ctx name symbol value).Leaves before diagnostic := by
  simp only [assign, asked, materialize?]
  exact (leaves_materialize problem).discard.bind

theorem leaves_requireMutable (problem : MutabilityProblem before.table name symbol diagnostic) :
    (requireMutable name symbol).Leaves before diagnostic := by
  cases problem with
  | parameter immutable isParameter => simp [requireMutable, immutable, isParameter]
  | other immutable notParameter => simp [requireMutable, immutable, notParameter]

end Analysis

end ComptimeTyping
