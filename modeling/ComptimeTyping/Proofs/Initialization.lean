import ComptimeTyping.Proofs.Frame
import ComptimeTyping.Proofs.Once
import ComptimeTyping.Proofs.Paths

/-! Reads and assignments along the paths of a program. The analysis keeps one flag for each
variable and sets it where an assignment is written, whichever paths execute it. So where
nothing is reported, a path reads a variable only after an assignment that is written before
the read, but it may have passed by that assignment. -/

namespace ComptimeTyping

open Analysis

/-! ## Scopes of a path and scopes of the analysis -/

/-- The same variables are bound, and one that counts as initialized was assigned, be it in
text that was passed by. -/
structure Standing.Tracks (standing : Standing) (scope : Scope) : Prop where
  bound : ∀ name, (standing name).isSome = (scope.find? name).isSome
  initialized : ∀ name symbol, scope.find? name = some symbol →
    symbol.isInitialized = true → standing name ≠ some .unassigned

/-- The scopes that a path knows are the innermost ones of the analysis. -/
inductive Tracking : List Standing → List Scope → Prop where
  | outside {scopes : List Scope} : Tracking [] scopes
  | scope {standing : Standing} {standings : List Standing} {scope : Scope}
      {scopes : List Scope} (tracks : standing.Tracks scope) (rest : Tracking standings scopes) :
      Tracking (standing :: standings) (scope :: scopes)

theorem Status.next_ne_unassigned (status : Status) (taken : Bool) :
    status.next taken ≠ .unassigned := by
  unfold Status.next
  split
  · nofun
  · nofun

namespace Standing

theorem tracks_empty (kind : ScopeKind) : Standing.empty.Tracks (Scope.empty kind) :=
  ⟨fun _ => rfl, fun _ _ => nofun⟩

variable {standing : Standing} {scope : Scope}

theorem Tracks.absent (tracks : standing.Tracks scope) {name : String}
    (unbound : standing name = none) : scope.find? name = none := by
  have bound := tracks.bound name
  rw [unbound] at bound
  exact Option.isSome_eq_false_iff.mp bound.symm |> Option.isNone_iff_eq_none.mp

theorem Tracks.present (tracks : standing.Tracks scope) {name : String} {status : Status}
    (known : standing name = some status) : ∃ symbol, scope.find? name = some symbol := by
  have bound := tracks.bound name
  rw [known] at bound
  exact Option.isSome_iff_exists.mp bound.symm

theorem Tracks.declared (tracks : standing.Tracks scope) (symbol : Symbol) {status : Status}
    (valued : symbol.isInitialized = true → status ≠ .unassigned) :
    Tracks (Function.update standing symbol.name (some status))
      { scope with symbols := symbol :: scope.symbols } := by
  have found : ∀ name, Scope.find? { scope with symbols := symbol :: scope.symbols } name =
      if name = symbol.name then some symbol else scope.find? name := by
    intro name
    unfold Scope.find?
    rw [List.find?_cons]
    by_cases same : name = symbol.name
    · rw [if_pos same, same, beq_self_eq_true]
    · rw [if_neg same, beq_false_of_ne (Ne.symm same)]
  constructor
  · intro name
    rw [found, Function.update_apply]
    split
    · rfl
    · exact tracks.bound name
  · intro name other present initialized
    rw [found] at present
    rw [Function.update_apply]
    split at present
    · next same =>
        cases present
        rw [if_pos same]
        exact fun equal => valued initialized (Option.some.inj equal)
    · next different =>
        rw [if_neg different]
        exact tracks.initialized name other present initialized

/-- Marking a variable is safe, since it is written to be assigned here. -/
theorem Tracks.marked (tracks : standing.Tracks scope) {name : String} {status : Status}
    (found : standing name = some status) (taken : Bool) :
    Tracks (Function.update standing name (some (status.next taken)))
      (scope.modify name fun symbol => { symbol with isInitialized := true }) := by
  have modified : ∀ other,
      (scope.modify name fun symbol => { symbol with isInitialized := true }).find? other =
        (scope.find? other).map fun symbol =>
          if symbol.name = name then { symbol with isInitialized := true } else symbol :=
    fun other => scope.find?_modify name other fun _ => rfl
  constructor
  · intro other
    rw [modified, Option.isSome_map, Function.update_apply]
    split
    · next same =>
        rw [← tracks.bound other, same, found]
        rfl
    · exact tracks.bound other
  · intro other symbol present initialized
    rw [modified] at present
    rw [Function.update_apply]
    split
    · exact fun equal => status.next_ne_unassigned taken (Option.some.inj equal)
    · next different =>
        rcases Option.map_eq_some_iff.mp present with ⟨older, earlier, rfl⟩
        have named : older.name = other := by
          unfold Scope.find? at earlier
          simpa using List.find?_some earlier
        rw [if_neg (named ▸ different)] at initialized
        exact tracks.initialized other older earlier initialized

end Standing

namespace Tracking

variable {standings : List Standing} {scopes : List Scope} {table : SymbolTable}

theorem entered (tracking : Tracking standings table.scopes) (kind : ScopeKind) :
    Tracking (.empty :: standings) (table.enter kind).scopes :=
  .scope (Standing.tracks_empty kind) tracking

theorem left (tracking : Tracking standings table.scopes) :
    Tracking standings.tail table.exit.scopes := by
  rcases table with ⟨inner, _ | ⟨next, outer⟩, functions, depth⟩
  · cases tracking with
    | outside => exact .outside
    | scope _ rest =>
        cases rest
        exact .outside
  · cases tracking with
    | outside => exact .outside
    | scope _ rest => exact rest

theorem declared (tracking : Tracking standings table.scopes) {after : SymbolTable}
    {symbol : Symbol} (declared : table.declare symbol = .ok after) {status : Status}
    (valued : symbol.isInitialized = true → status ≠ .unassigned) :
    Tracking (Standing.declare symbol.name status standings) after.scopes := by
  rw [SymbolTable.declare_eq] at declared
  split at declared
  · cases declared
  · cases declared
    cases tracking with
    | outside => exact .outside
    | scope tracks rest => exact .scope (tracks.declared symbol valued) rest

theorem marked (tracking : Tracking standings scopes) (name : String) (taken : Bool) :
    Tracking (Standing.assign name taken standings)
      (SymbolTable.modifyScopes name (fun symbol => { symbol with isInitialized := true })
        scopes) := by
  induction tracking with
  | outside => exact .outside
  | @scope standing standings scope scopes tracks rest induction =>
      unfold Standing.assign SymbolTable.modifyScopes
      -- The nearest variable of the name is in the same scope on both sides.
      cases known : standing name with
      | none =>
          rw [tracks.absent known]
          exact .scope tracks induction
      | some status =>
          rcases tracks.present known with ⟨symbol, found⟩
          rw [found]
          exact .scope (tracks.marked known taken) rest

theorem observed (tracking : Tracking standings scopes) {name : String} {status : Status}
    (observed : standings.findSome? (· name) = some status) :
    ∃ symbol, scopes.findSome? (·.find? name) = some symbol ∧
      (symbol.isInitialized = true → status ≠ .unassigned) := by
  induction tracking with
  | outside => cases observed
  | @scope standing standings scope scopes tracks rest induction =>
      rw [List.findSome?_cons] at observed ⊢
      cases known : standing name with
      | none =>
          rw [known] at observed
          rw [tracks.absent known]
          exact induction observed
      | some earlier =>
          rw [known] at observed
          cases observed
          rcases tracks.present known with ⟨symbol, found⟩
          rw [found]
          refine ⟨symbol, rfl, ?_⟩
          intro initialized unassigned
          exact tracks.initialized name symbol found initialized (unassigned ▸ known)

end Tracking

theorem SymbolTable.scopes_markInitialized (table : SymbolTable) (name : String) :
    (table.markInitialized name).scopes =
      modifyScopes name (fun symbol => { symbol with isInitialized := true }) table.scopes := by
  unfold markInitialized SymbolTable.modify
  rw [scopes, scopes, modifyScopes]
  cases table.inner.find? name with
  | none => rfl
  | some symbol => rfl

/-! ## Computations that follow a text -/

/-- The analysis has gone through some text. Whatever path goes through the same text, its
scopes are tracked at the end as well, and it has read no variable that was unassigned. -/
structure State.Along (before : State) (steps : List Step) (after : State) : Prop where
  signatures : after.signatures = before.signatures
  tracking : ∀ {standings path}, path.map Passage.step = steps →
    Tracking standings before.table.scopes →
    Tracking (walk standings path) after.table.scopes
  reads : ∀ {standings path}, path.map Passage.step = steps →
    Tracking standings before.table.scopes → .unassigned ∉ observations standings path

namespace State.Along

variable {before middle after : State} {steps more : List Step} {step : Step}

theorem nothing (table : after.table = before.table)
    (signatures : after.signatures = before.signatures) : before.Along [] after := by
  refine ⟨signatures, ?_, ?_⟩
  · intro standings path through tracking
    rcases List.map_eq_nil_iff.mp through with rfl
    rw [table]
    exact tracking
  · intro standings path through _
    rcases List.map_eq_nil_iff.mp through with rfl
    exact List.not_mem_nil

theorem single (signatures : after.signatures = before.signatures)
    (tracking : ∀ standings taken, Tracking standings before.table.scopes →
      Tracking (Passage.after ⟨step, taken⟩ standings) after.table.scopes)
    (observed : ∀ standings taken, Tracking standings before.table.scopes →
      Passage.observed? ⟨step, taken⟩ standings ≠ some .unassigned) :
    before.Along [step] after := by
  have one : ∀ {path : List Passage}, path.map Passage.step = [step] →
      ∃ taken, path = [⟨step, taken⟩] := by
    intro path through
    rcases List.map_eq_singleton_iff.mp through with ⟨passage, rfl, rfl⟩
    exact ⟨passage.taken, rfl⟩
  refine ⟨signatures, ?_, ?_⟩
  · intro standings path through tracked
    rcases one through with ⟨taken, rfl⟩
    exact tracking standings taken tracked
  · intro standings path through tracked member
    rcases one through with ⟨taken, rfl⟩
    rw [observations, observations, List.append_nil, Option.mem_toList] at member
    exact observed standings taken tracked member

theorem trans (first : before.Along steps middle) (second : middle.Along more after) :
    before.Along (steps ++ more) after := by
  have parts : ∀ {path : List Passage}, path.map Passage.step = steps ++ more →
      ∃ start rest, path = start ++ rest ∧ start.map Passage.step = steps ∧
        rest.map Passage.step = more := by
    intro path through
    rcases List.map_eq_append_iff.mp through with ⟨start, rest, rfl, here, there⟩
    exact ⟨start, rest, rfl, here, there⟩
  refine ⟨second.signatures.trans first.signatures, ?_, ?_⟩
  · intro standings path through tracked
    rcases parts through with ⟨start, rest, rfl, here, there⟩
    rw [walk_append]
    exact second.tracking there (first.tracking here tracked)
  · intro standings path through tracked
    rcases parts through with ⟨start, rest, rfl, here, there⟩
    rw [observations_append, List.mem_append, not_or]
    exact ⟨first.reads here tracked,
      second.reads there (first.tracking here tracked)⟩

theorem entered (before : State) (kind : ScopeKind) :
    before.Along [.enter] { before with table := before.table.enter kind } :=
  single rfl (fun _ _ tracking => tracking.entered kind) fun _ _ _ => nofun

theorem left (before : State) :
    before.Along [.leave] { before with table := before.table.exit } :=
  single rfl (fun _ _ tracking => tracking.left) fun _ _ _ => nofun

theorem declared {symbol : Symbol} {table : SymbolTable} (valued : Bool)
    (declared : before.table.declare symbol = .ok table)
    (initialized : symbol.isInitialized = true → valued = true) :
    before.Along [.declare symbol.name valued] { before with table } := by
  refine single rfl (fun _ _ tracking => tracking.declared declared ?_) fun _ _ _ => nofun
  intro holds
  rw [if_pos (initialized holds)]
  nofun

theorem assigned (before : State) (name : String) :
    before.Along [.assign name]
      { before with table := before.table.markInitialized name } := by
  refine single rfl (fun _ taken tracking => ?_) fun _ _ _ => nofun
  rw [SymbolTable.scopes_markInitialized]
  exact tracking.marked name taken

theorem read {name : String} {symbol : Symbol} (found : before.table.lookup? name = some symbol)
    (initialized : symbol.isInitialized = true) : before.Along [.read name] before := by
  refine single rfl (fun _ _ tracking => tracking) ?_
  intro standings taken tracking observed
  unfold Passage.observed? at observed
  dsimp only at observed
  split at observed
  · rcases tracking.observed observed with ⟨bound, same, assigned⟩
    cases found.symm.trans same
    exact assigned initialized rfl
  · cases observed

end State.Along

namespace Analysis

variable {α β : Type} {known : List (Nat × Signature)} {steps more : List Step}

/-- Where the signatures are known and nothing is reported, a computation goes through a
text. -/
structure Follows (known : List (Nat × Signature)) (computation : Analysis α)
    (steps : List Step) : Prop where
  run : ∀ {before after value}, computation.run before = .ok value after →
    after.reports = [] → before.signatures = known → before.Along steps after

namespace Follows

variable {computation : Analysis α} {first : Analysis α} {next : α → Analysis β}

theorem malformed (position : Position) (defect : Defect) :
    Follows known (Analysis.malformed position defect : Analysis α) steps :=
  ⟨nofun⟩

/-- After a report there is nothing to follow. -/
theorem reported (position : Position) (finding : Finding) (next : Unit → Analysis α) :
    Follows known (report position finding >>= next) steps :=
  ⟨fun run quiet => absurd quiet (reports_ne_nil run)⟩

theorem still (table : ∀ state, (computation.run state).state.table = state.table)
    (signatures : ∀ state, (computation.run state).state.signatures = state.signatures) :
    Follows known computation [] := by
  constructor
  intro before after value run _ _
  have sameTable := table before
  have sameSignatures := signatures before
  rw [run] at sameTable sameSignatures
  exact .nothing sameTable sameSignatures

theorem of_reporting (reporting : computation.Reporting fun _ => True) :
    Follows known computation [] := by
  apply still
  · exact reporting.table_eq
  · intro state
    rw [reporting.run_state]

theorem pure (value : α) : Follows known (Pure.pure value : Analysis α) [] :=
  still (fun _ => rfl) fun _ => rfl

theorem table : Follows known Analysis.table [] :=
  still (fun _ => rfl) fun _ => rfl

theorem record (node : Node) (type : Option Ty) : Follows known (Analysis.record node type) [] :=
  still (fun _ => rfl) fun _ => rfl

theorem bind (follows : Follows known first steps)
    (rest : ∀ value, Follows known (next value) more) :
    Follows known (first >>= next) (steps ++ more) := by
  constructor
  intro before after result run quiet start
  rcases run_bind_eq_ok.mp run with ⟨value, middle, started, ended⟩
  have silent := ((next value).grows_of_ok ended).quiet quiet
  have along := follows.run started silent start
  exact along.trans ((rest value).run ended quiet (along.signatures.trans start))

/-- A first part that does nothing to variables. -/
theorem after (follows : Follows known first [])
    (rest : ∀ value, Follows known (next value) more) : Follows known (first >>= next) more :=
  follows.bind rest

/-- A last part that does nothing to variables. -/
theorem before (follows : Follows known first steps)
    (rest : ∀ value, Follows known (next value) []) : Follows known (first >>= next) steps := by
  have both := follows.bind rest
  rwa [List.append_nil] at both

theorem discard (follows : Follows known computation steps) :
    Follows known (Functor.discard computation) steps :=
  follows.before fun _ => .pure _

theorem required {condition : Prop} [Decidable condition] {position : Position}
    {defect : Defect} {rest : Unit → Analysis α} (follows : Follows known (rest ()) steps) :
    Follows known (if condition then Analysis.malformed position defect >>= rest else rest ())
      steps := by
  split
  · exact ⟨nofun⟩
  · exact follows

theorem recorded {resolve : Analysis Operand} (node : Node)
    (follows : Follows known resolve steps) :
    Follows known (Analysis.recorded node resolve) steps := by
  apply follows.before
  intro operand
  exact (Follows.record _ _).before fun _ => .pure _

theorem withScope (kind : ScopeKind) (follows : Follows known computation steps) :
    Follows known (Analysis.withScope kind computation) (.enter :: (steps ++ [.leave])) := by
  constructor
  intro before after value run quiet start
  rcases exists_of_run_withScope run with ⟨inner, ended, rfl⟩
  have along := follows.run ended quiet start
  exact (State.Along.entered before kind).trans (along.trans (.left inner))

end Follows

/-! ## Slots -/

theorem follows_materialize (ctx : Context) (source : Resolved) (target : Ty)
    (label : String) : Follows known (materialize ctx source target label) [] := by
  unfold materialize
  apply (Follows.of_reporting (reporting_fill _ _ _ _)).after
  intro type
  split
  · refine Follows.after (.still (fun _ => rfl) fun _ => rfl) ?_
    exact fun _ => .pure _
  · exact .pure _

theorem follows_materialize? (ctx : Context) (source : Resolved) (target : Option Ty)
    (label : String) : Follows known (materialize? ctx source target label) [] := by
  cases target with
  | none => exact .pure _
  | some target => exact (follows_materialize _ _ _ _).discard

theorem follows_unifyBranches (ctx : Context) (branches : List Resolved) (target : Option Ty) :
    Follows known (unifyBranches ctx branches target) [] := by
  unfold unifyBranches
  split
  · next target _ =>
      apply Follows.before
      · induction branches with
        | nil => exact .pure _
        | cons branch branches induction =>
            exact (follows_materialize _ _ _ _).discard.after fun _ => induction
      · exact fun _ => .pure _
  · exact .of_reporting (reporting_joinBranches _ _)

theorem follows_blockValue (ctx : Context) (target : Option Ty)
    {statements : Analysis (List Resolved)} (follows : Follows known statements steps) :
    Follows known (blockValue ctx target statements) (.enter :: (steps ++ [.leave])) := by
  apply Follows.withScope
  apply follows.before
  intro branches
  split
  · exact .pure _
  · exact follows_unifyBranches _ _ _

theorem follows_withBound {resolve : Analysis Operand} (part : String) (parts : RangeParts)
    (bound : Expr) (follows : Follows known resolve bound.flow.steps) :
    Follows known (withBound part parts bound resolve) bound.flow.steps := by
  unfold withBound
  cases bound with
  | missing => exact .pure _
  | _ => exact follows.before fun _ => .of_reporting (reporting_addBound _ _ _)

/-! ## Variables -/

theorem follows_identifier (name : Ident) :
    Follows known (identifier name) [.read name.name] := by
  constructor
  intro before after value run quiet _
  unfold identifier at run
  rw [run_table_bind] at run
  cases found : before.table.lookup? name.name with
  | none =>
      rw [found] at run
      rcases run_bind_eq_ok.mp run with ⟨_, _, ⟨⟩, refused⟩
      exact absurd quiet (reports_ne_nil refused)
  | some symbol =>
      rw [found] at run
      dsimp only at run
      split at run
      · exact absurd quiet (reports_ne_nil run)
      · next initialized =>
          cases run
          exact .read found (by simpa using initialized)

theorem follows_requireMutable (name : Ident) (symbol : Symbol) :
    Follows known (requireMutable name symbol) [] := by
  unfold requireMutable
  split
  · apply Follows.table.after
    intro table
    split
    · exact .of_reporting (.report _ _)
    · exact .of_reporting (.report _ _)
  · exact .pure _

theorem follows_declare {name : Ident} {symbol : Symbol} {valued : Bool}
    (named : symbol.name = name.name)
    (initialized : symbol.isInitialized = true → valued = true) :
    Follows known (declare name symbol) [.declare name.name valued] := by
  rw [← named]
  constructor
  intro before after value run quiet start
  unfold declare at run
  rw [run_table_bind] at run
  cases declared : before.table.declare symbol with
  | error refusal =>
      rw [declared] at run
      cases run
      simp at quiet
  | ok table =>
      rw [declared] at run
      cases run
      exact (State.Along.declared valued declared initialized).trans (.nothing rfl rfl)

theorem follows_bindValue (ctx : Context) (isMutable : Bool) (name : Ident)
    (declared : Option Ty) (value : Resolved) :
    Follows known (bindValue ctx isMutable name declared value) [.declare name.name true] := by
  unfold bindValue
  apply Follows.after
  · cases declared with
    | none => exact .of_reporting (reporting_bindingType_none _ _ _ _)
    | some type => exact follows_materialize _ _ _ _
  · intro type
    have named : (boundSymbol isMutable name.name type value.operand).name = name.name := by
      unfold boundSymbol
      split
      · rfl
      · rfl
    exact follows_declare named fun _ => rfl

theorem follows_bindUndef (isMutable : Bool) (name : Ident) (declared : Option Ty)
    (value : Node) :
    Follows known (bindUndef isMutable name declared value) [.declare name.name false] := by
  unfold bindUndef
  split
  · exact .reported _ _ _
  · dsimp only
    split
    · exact (follows_declare rfl Bool.noConfusion).before fun _ => .record _ _
    · exact .reported _ _ _

theorem follows_assign (ctx : Context) (name : Ident) (symbol : Symbol) (value : Resolved) :
    Follows known (assign ctx name symbol value) [.assign name.name] := by
  unfold assign
  apply (follows_materialize? _ _ _ _).after
  intro _
  apply (Follows.record _ _).after
  intro _
  constructor
  intro before after value run _ _
  cases run
  exact .assigned before name.name

theorem follows_declareParameters (node : Node) (signature : Signature) (number : Nat)
    (parameters : List Parameter) :
    Follows known (declareParameters node signature number parameters)
      (parameters.map fun parameter => .declare parameter.name true) := by
  induction parameters generalizing number with
  | nil => exact .pure _
  | cons parameter parameters induction =>
      constructor
      intro before after value run quiet start
      unfold declareParameters at run
      rw [run_table_bind] at run
      cases declared : before.table.declareParameter parameter with
      | error refusal =>
          rw [declared] at run
          exact absurd quiet (reports_ne_nil run)
      | ok table =>
          rw [declared] at run
          rcases run_bind_eq_ok.mp run with ⟨_, _, ⟨⟩, rest⟩
          rw [SymbolTable.declareParameter_eq] at declared
          split at declared
          · -- A parameter has a value from the start.
            have bound := State.Along.declared true declared fun _ => rfl
            exact bound.trans ((induction (number + 1)).run rest quiet start)
          · cases declared

end Analysis

/-! ## Signatures -/

theorem Analysis.names_readParameters {node : Node} {function : String}
    {read result : List Parameter} {parameters : List (Option ParameterExpr)} {before after : State}
    (run : (readParameters node function read parameters).run before = .ok result after)
    (quiet : after.reports = []) :
    result.map Parameter.name = read.map Parameter.name ++ parameterNames parameters := by
  induction parameters generalizing read before with
  | nil =>
      cases run
      exact (List.append_nil _).symm
  | cons parameter parameters induction =>
      rcases parameter with _ | ⟨_ | name, type, isMutable⟩
      · cases run
      · cases run
      · unfold readParameters at run
        dsimp only at run
        split at run
        · cases run
        · rcases run_bind_eq_ok.mp run with ⟨resolved, middle, _, rest⟩
          split at rest
          · exact absurd quiet (reports_ne_nil rest)
          · rw [induction rest, List.map_append, List.append_assoc]
            rfl

theorem Analysis.names_readSignature {node : Node} {name : Option Ident}
    {parameters : List (Option ParameterExpr)} {result : TypeExpr} {body : Body}
    {signature : Signature} {before after : State}
    (run : (readSignature node name parameters result body).run before = .ok signature after)
    (quiet : after.reports = []) :
    signature.parameters.map Parameter.name = parameterNames parameters := by
  unfold readSignature at run
  cases name with
  | none => cases run
  | some name =>
      dsimp only at run
      split at run
      · cases run
      · rcases run_bind_eq_ok.mp run with ⟨read, middle, reading, rest⟩
        have names := names_readParameters reading ((grows_of_ok _ rest).quiet quiet)
        split at rest
        · cases rest
          exact names
        · rcases run_bind_eq_ok.mp rest with ⟨type, last, _, ⟨⟩⟩
          exact names

/-- A signature was noted before, or it is read as it is written and noted. -/
theorem Analysis.signatureOf_cases {node : Node} {name : Option Ident}
    {parameters : List (Option ParameterExpr)} {result : TypeExpr} {body : Body}
    {signature : Signature} {before after : State}
    (run : (signatureOf node name parameters result body).run before = .ok signature after)
    (quiet : after.reports = []) :
    (before.signature? node.id = some signature ∧ after = before) ∨
    (before.signature? node.id = none ∧ after.table = before.table ∧
      after.signatures = (node.id, signature) :: before.signatures ∧
      signature.parameters.map Parameter.name = parameterNames parameters) := by
  rcases run_bind_eq_ok.mp run with ⟨noted, _, ⟨⟩, reading⟩
  dsimp only at reading
  cases found : before.signature? node.id with
  | some older =>
      rw [found] at reading
      cases reading
      exact .inl ⟨rfl, rfl⟩
  | none =>
      rw [found] at reading
      rcases run_bind_eq_ok.mp reading with ⟨read, middle, readingOnly, ⟨⟩⟩
      have reporting :
          (readSignature node name parameters result body).Reporting fun _ => True :=
        reporting_readSignature _ _ _ _ _
      have along : before.Along [] middle :=
        (Follows.of_reporting reporting).run readingOnly quiet rfl
      have table := reporting.table_eq before
      rw [readingOnly] at table
      exact .inr ⟨rfl, table, congrArg _ along.signatures, names_readSignature readingOnly quiet⟩

/-! ## Expressions and statements -/

section Syntax

variable {known : List (Nat × Signature)}

/-- The signature of a function is known, with the parameters that are written. -/
def Stmt.Signed (known : List (Nat × Signature)) : Stmt → Prop
  | .function node _ parameters _ _ => ∃ signature, known.lookup node.id = some signature ∧
      signature.parameters.map Parameter.name = parameterNames parameters
  | _ => True

/-- Where functions may stand, all of them are signed. -/
def Context.Knows (ctx : Context) (known : List (Nat × Signature)) (statements : List Stmt) :
    Prop :=
  ctx.isNested = false → ∀ statement ∈ statements, statement.Signed known

theorem Context.Knows.of_nested {ctx : Context} (nested : ctx.isNested = true)
    (statements : List Stmt) : ctx.Knows known statements :=
  fun top => absurd (nested.symm.trans top) nofun

theorem Context.Knows.head {ctx : Context} {statement : Stmt} {statements : List Stmt}
    (knows : ctx.Knows known (statement :: statements)) : ctx.Knows known [statement] := by
  intro top other member
  rcases List.mem_singleton.mp member with rfl
  exact knows top other List.mem_cons_self

theorem Context.Knows.tail {ctx : Context} {statement : Stmt} {statements : List Stmt}
    (knows : ctx.Knows known (statement :: statements)) : ctx.Knows known statements :=
  fun top other member => knows top other (List.mem_cons_of_mem _ member)

/-- What is analyzed in the scope of a function. -/
def Body.called (ctx : Context) (node : Node) (name : Option Ident) (signature : Signature)
    (body : Body) : Analysis Unit := do
  declareParameters node signature 1 signature.parameters
  clearReturned
  body.analyze (ctx.inFunction signature)
  requireReturn name signature

theorem follows_requireReturn (name : Option Ident) (signature : Signature) :
    Follows known (requireReturn name signature) [] := by
  unfold requireReturn
  split
  · exact .pure _
  · refine Follows.after (.still (fun _ => rfl) fun _ => rfl) fun returned => ?_
    split
    · exact .of_reporting (.report _ _)
    · exact .pure _

theorem Body.follows_called (ctx : Context) (node : Node) (name : Option Ident)
    {signature : Signature} {parameters : List (Option ParameterExpr)} {body : Body}
    (named : signature.parameters.map Parameter.name = parameterNames parameters)
    (follows : Follows known (body.analyze (ctx.inFunction signature)) body.flow.steps) :
    Follows known (body.called ctx node name signature)
      (Flow.function parameters body.flow).steps := by
  have bound : signature.parameters.map (fun parameter => Step.declare parameter.name true) =
      (Flow.declareAll (parameterNames parameters)).steps := by
    rw [Flow.steps_declareAll, ← named, List.map_map]
    rfl
  rw [Flow.function, Flow.steps, ← bound]
  apply (follows_declareParameters _ _ _ _).bind
  intro _
  refine Follows.after (.still (fun _ => rfl) fun _ => rfl) fun _ => ?_
  exact follows.before fun _ => follows_requireReturn _ _

/-- A function whose signature is known is analyzed in a scope of its own. -/
theorem Stmt.exists_called {ctx : Context} {node : Node} {name : Option Ident}
    {parameters : List (Option ParameterExpr)} {result : TypeExpr} {body : Body}
    {before after : State} {value : Option Resolved}
    (knows : ctx.Knows before.signatures [.function node name parameters result body])
    (run : ((Stmt.function node name parameters result body).analyze ctx).run before =
      .ok value after)
    (quiet : after.reports = []) :
    ∃ signature inner, signature.parameters.map Parameter.name = parameterNames parameters ∧
      (body.called ctx node name signature).run
        { before with table := before.table.enter .function } = .ok () inner ∧
      after = { inner with table := inner.table.exit } := by
  unfold Stmt.analyze at run
  dsimp only at run
  split at run
  · exact absurd quiet (reports_ne_nil run)
  · next top =>
      have signed := knows (eq_false_of_ne_true top) _ List.mem_cons_self
      rcases signed with ⟨signature, found, named⟩
      rcases run_bind_eq_ok.mp run with ⟨read, middle, reading, rest⟩
      have silent := (grows_of_ok _ rest).quiet quiet
      rcases signatureOf_cases reading silent with ⟨noted, rfl⟩ | ⟨fresh, _⟩
      · cases found.symm.trans noted
        rcases run_bind_eq_ok.mp rest with ⟨_, _, inside, ⟨⟩⟩
        rcases exists_of_run_withScope inside with ⟨inner, ended, left⟩
        exact ⟨signature, inner, named, ended, left⟩
      · cases found.symm.trans fresh

mutual

theorem Expr.follows (ctx : Context) (target : Option Ty) :
    (expr : Expr) → Follows known (expr.resolve ctx target) expr.flow.steps
  | .missing => .malformed _ _
  | .int _ _ => .recorded _ (.of_reporting (reporting_integerLiteral _ _))
  | .float _ _ => .recorded _ (.of_reporting (reporting_floatLiteral _ _))
  | .bool _ _ => .recorded _ (.pure _)
  | .string _ _ => .recorded _ (.pure _)
  | .undef _ => .recorded _ (.of_reporting (reporting_refuse _ _))
  | .ident name => .recorded _ (follows_identifier name)
  | .prefixOp _ _ right => by
      rw [Expr.resolve, Expr.flow]
      apply Follows.recorded
      apply (right.follows ctx target).before
      exact fun _ => .of_reporting (reporting_prefixed _ _ _)
  | .infixOp _ left operator right => by
      rw [Expr.resolve, Expr.flow, Flow.steps]
      apply Follows.recorded
      split
      · exact .malformed _ _
      · apply (left.follows ctx _).bind
        intro leftOperand
        apply (right.follows ctx _).before
        exact fun _ => .of_reporting (reporting_infixed _ _ _ _ _ _ _)
  | .conversion _ value type => by
      rw [Expr.resolve, Expr.flow]
      apply Follows.recorded
      apply Follows.required
      apply (Follows.of_reporting type.reporting_resolve).after
      intro resolved
      apply (value.follows ctx none).before
      exact fun _ => .of_reporting (reporting_converted _ _ _ _)
  | .array _ items => by
      rw [Expr.resolve, Expr.flow]
      apply Follows.recorded
      apply (items.follows ctx _).before
      exact fun _ => .of_reporting (reporting_arrayLiteral _ _ _ _)
  | .range _ start stop step _ => by
      rw [Expr.resolve, Expr.flow, Flow.steps, Flow.steps]
      apply Follows.recorded
      apply (Follows.of_reporting (reporting_startParts _ _)).after
      intro parts
      apply (follows_withBound _ _ _ (start.follows ctx _)).bind
      intro started
      apply (follows_withBound _ _ _ (stop.follows ctx _)).bind
      intro stopped
      apply (follows_withBound _ _ _ (step.follows ctx _)).before
      exact fun _ => .of_reporting (reporting_rangeLiteral _ _ _ _ _ _ _)
  | .index _ left index => by
      rw [Expr.resolve, Expr.flow, Flow.steps]
      apply Follows.recorded
      apply (left.follows ctx none).bind
      intro array
      apply (index.follows ctx _).before
      exact fun _ => .of_reporting (reporting_indexing _ _ _ _)
  | .member _ left name => by
      cases name with
      | none => exact .recorded _ (.malformed _ _)
      | some name =>
          rw [Expr.resolve, Expr.flow]
          apply Follows.recorded
          apply (left.follows ctx none).before
          exact fun _ => .of_reporting (reporting_property _ _)
  | .call _ callee arguments => by
      cases callee with
      | none => exact .recorded _ (.malformed _ _)
      | some callee =>
          rw [Expr.resolve, Expr.flow]
          apply Follows.recorded
          apply Follows.table.after
          intro table
          split
          · next signature _ =>
              apply (Follows.of_reporting (reporting_requireArity _ _ _)).after
              intro _
              apply (arguments.followsArguments ctx signature 1 _).before
              exact fun _ => .pure _
          · exact Follows.table.after fun _ => .reported _ _ _
  | .block _ statements => by
      rw [Expr.resolve, Expr.flow, Flow.steps_enclosed]
      apply Follows.recorded
      exact follows_blockValue _ _ (statements.follows _ (.of_nested (ctx.isNested_inBlock _) _))
  | .conditional _ condition consequence alternative => by
      rw [Expr.resolve, Expr.flow, Flow.steps, Flow.steps]
      apply Follows.recorded
      apply (condition.follows ctx _).bind
      intro operand
      apply (Follows.of_reporting (reporting_requireCondition _)).after
      intro _
      apply Follows.required
      apply (consequence.follows ctx target).bind
      intro first
      cases alternative with
      | missing => exact .pure _
      | _ =>
          apply (Expr.follows ctx target _).before
          exact fun _ => follows_unifyBranches _ _ _

theorem Exprs.follows (ctx : Context) (target : Option Ty) :
    (exprs : Exprs) → Follows known (exprs.resolveAll ctx target) exprs.flow.steps
  | .nil => .pure _
  | .cons head tail => by
      rw [Exprs.resolveAll, Exprs.flow, Flow.steps]
      apply (head.follows ctx target).bind
      intro operand
      exact (tail.follows ctx target).before fun _ => .pure _

theorem Exprs.followsArguments (ctx : Context) (signature : Signature) (number : Nat)
    (parameters : List Parameter) :
    (exprs : Exprs) →
      Follows known (exprs.resolveArguments ctx signature number parameters) exprs.flow.steps
  | .nil => .pure _
  | .cons head tail => by
      rw [Exprs.flow, Flow.steps]
      cases parameters with
      | nil =>
          apply (head.follows ctx none).discard.bind
          exact fun _ => tail.followsArguments ctx signature (number + 1) []
      | cons parameter parameters =>
          apply (head.follows ctx parameter.type).bind
          intro operand
          apply (follows_materialize? _ _ _ _).after
          exact fun _ => tail.followsArguments ctx signature (number + 1) parameters

theorem Body.follows (ctx : Context) (target : Option Ty) :
    (body : Body) → Follows known (body.resolve ctx target) (Flow.enclosed body.flow).steps
  | .missing => .malformed _ _
  | .block _ statements => by
      rw [Body.resolve, Body.flow, Flow.steps_enclosed]
      apply Follows.recorded
      exact follows_blockValue _ _ (statements.follows _ (.of_nested (ctx.isNested_inBlock _) _))

theorem Stmts.follows (ctx : Context) :
    (statements : Stmts) → ctx.Knows known statements.toList →
      Follows known (statements.analyze ctx) statements.flow.steps
  | .nil, _ => .pure _
  | .cons head tail, knows => by
      rw [Stmts.analyze, Stmts.flow, Flow.steps]
      apply (head.follows ctx knows.head).bind
      intro branch
      exact (tail.follows ctx knows.tail).before fun _ => .pure _

theorem Stmt.follows (ctx : Context) :
    (statement : Stmt) → ctx.Knows known [statement] →
      Follows known (statement.analyze ctx) statement.flow.steps
  | .missing, _ => .malformed _ _
  | .declaration _ isMutable name type value, _ => by
      cases name with
      | none => exact .malformed _ _
      | some name =>
          rw [Stmt.analyze, Stmt.flow, Flow.steps]
          apply Follows.required
          apply (Follows.of_reporting (reporting_declaredType _ _)).after
          intro declared
          cases value with
          | undef node =>
              exact (follows_bindUndef _ _ _ _).before fun _ => .pure _
          | _ =>
              apply (Expr.follows ctx declared _).bind
              intro operand
              exact (follows_bindValue _ _ _ _ _).before fun _ => .pure _
  | .assignment _ name value, _ => by
      cases name with
      | none => exact .malformed _ _
      | some name =>
          rw [Stmt.analyze, Stmt.flow, Flow.steps]
          apply Follows.required
          apply Follows.table.after
          intro table
          split
          · exact .reported _ _ _
          · apply (follows_requireMutable _ _).after
            intro _
            apply (value.follows ctx _).bind
            intro operand
            exact (follows_assign _ _ _ _).before fun _ => .pure _
  | .returning _ value, _ => by
      rw [Stmt.analyze, Stmt.flow]
      split
      · exact .reported _ _ _
      · refine Follows.after (.still (fun _ => rfl) fun _ => rfl) fun _ => ?_
        cases value with
        | missing =>
            dsimp only
            split
            · exact .pure _
            · exact .reported _ _ _
        | _ =>
            dsimp only
            split
            · apply (Expr.follows ctx none _).before
              intro operand
              apply (Follows.of_reporting (reporting_requireNoValue _ _)).before
              exact fun _ => .pure _
            · apply (Expr.follows ctx _ _).before
              intro operand
              exact (follows_materialize _ _ _ _).discard.before fun _ => .pure _
  | .yielding _ value, _ => by
      rw [Stmt.analyze, Stmt.flow]
      apply Follows.required
      split
      · exact .reported _ _ _
      · exact (value.follows ctx _).before fun _ => .pure _
  | .expression _ value, _ => by
      rw [Stmt.analyze, Stmt.flow]
      exact (value.follows ctx none).discard.before fun _ => .pure _
  | .function node name parameters result body, knows => by
      rw [Stmt.flow, Flow.steps, Flow.steps_enclosed]
      constructor
      intro before after value run quiet start
      -- A nested function is reported; at the top level the headers have signed it.
      rw [← start] at knows
      rcases Stmt.exists_called knows run quiet with ⟨signature, inner, named, ended, rfl⟩
      have called := Body.follows_called ctx node name named (body.followsStatements ctx signature)
      have along := called.run ended quiet start
      exact (State.Along.entered before .function).trans (along.trans (.left inner))

theorem Body.followsStatements (ctx : Context) (signature : Signature) :
    (body : Body) → Follows known (body.analyze (ctx.inFunction signature)) body.flow.steps
  | .missing => .pure _
  | .block _ statements => by
      rw [Body.analyze, Body.flow]
      exact (statements.follows _ (.of_nested rfl _)).discard

end

end Syntax

/-! ## Headers -/

/-- Every function whose signature was noted is registered. -/
def State.Registered (state : State) : Prop :=
  ∀ entry ∈ state.signatures, (state.table.function? entry.2.name).isSome

theorem SymbolTable.function?_of_declareFunction {before after : SymbolTable}
    {signature : Signature} (declared : before.declareFunction (some signature) = .ok after) :
    before.function? signature.name = none ∧ after.function? signature.name = some signature := by
  rw [declareFunction_eq] at declared
  split at declared
  · cases declared
  · next fresh =>
      cases declared
      refine ⟨fresh, ?_⟩
      unfold function?
      rw [List.find?_cons, beq_self_eq_true]

/-- A signature that is noted already is registered already, so it cannot be registered
without a report. -/
theorem Analysis.signed_declareFunction {node : Node} {name : Option Ident}
    {parameters : List (Option ParameterExpr)} {result : TypeExpr} {body : Body}
    {before after : State}
    (run : (declareFunction node name parameters result body).run before = .ok () after)
    (quiet : after.reports = []) (registered : before.Registered) :
    after.Registered ∧ before.signature? node.id = none ∧
      ∃ signature, after.signatures = (node.id, signature) :: before.signatures ∧
        signature.parameters.map Parameter.name = parameterNames parameters := by
  rcases run_bind_eq_ok.mp run with ⟨signature, middle, reading, rest⟩
  have silent := (grows_of_ok _ rest).quiet quiet
  rw [run_table_bind] at rest
  cases declared : middle.table.declareFunction (some signature) with
  | error refusal =>
      rw [declared] at rest
      cases rest
      simp at quiet
  | ok table =>
      rw [declared] at rest
      cases rest
      have once := SymbolTable.function?_of_declareFunction declared
      rcases signatureOf_cases reading silent with
        ⟨noted, rfl⟩ | ⟨fresh, sameTable, signatures, named⟩
      · have earlier := registered _ (State.mem_of_signature? noted)
        rw [once.1] at earlier
        cases earlier
      · refine ⟨?_, fresh, signature, signatures, named⟩
        intro entry member
        rcases List.mem_cons.mp (signatures ▸ member) with rfl | older
        · exact Option.isSome_of_eq_some once.2
        · rcases Option.isSome_iff_exists.mp (registered entry older) with ⟨other, present⟩
          rw [← sameTable] at present
          have later := SymbolTable.registeredTo_of_declareFunction declared
          exact Option.isSome_of_eq_some (later.functions _ _ present)

/-- What a state has noted of signatures, a later one has noted as well. -/
def State.SignaturesKept (before after : State) : Prop :=
  ∀ id signature, before.signature? id = some signature → after.signature? id = some signature

/-- After the headers were read, all functions are signed. -/
theorem Stmts.signed_declareFunctions {before after : State} :
    (statements : Stmts) → statements.declareFunctions.run before = .ok () after →
      after.reports = [] → before.Registered →
      before.SignaturesKept after ∧
        ∀ statement ∈ statements.toList, statement.Signed after.signatures
  | .nil, run, _, _ => by
      cases run
      exact ⟨fun _ _ => id, List.forall_mem_nil _⟩
  | .cons head tail, run, quiet, registered => by
      cases head with
      | function node name parameters result body =>
          rcases run_bind_eq_ok.mp run with ⟨_, middle, declared, rest⟩
          have silent := (grows_of_ok _ rest).quiet quiet
          rcases signed_declareFunction declared silent registered with
            ⟨registeredLater, fresh, signature, noted, named⟩
          rcases tail.signed_declareFunctions rest quiet registeredLater with ⟨kept, signed⟩
          have start : before.SignaturesKept middle := by
            intro id older found
            have different : (id == node.id) = false := by
              rw [beq_eq_false_iff_ne]
              rintro rfl
              rw [fresh] at found
              cases found
            unfold State.signature?
            rw [noted, List.lookup_cons, different]
            exact found
          have here : middle.signature? node.id = some signature := by
            unfold State.signature?
            rw [noted, List.lookup_cons_self]
          refine ⟨fun id older found => kept id older (start id older found), ?_⟩
          intro statement member
          rcases List.mem_cons.mp member with rfl | later
          · exact ⟨signature, kept _ _ here, named⟩
          · exact signed statement later
      | _ =>
          rcases tail.signed_declareFunctions run quiet registered with ⟨kept, signed⟩
          refine ⟨kept, ?_⟩
          intro statement member
          rcases List.mem_cons.mp member with rfl | later
          · trivial
          · exact signed statement later

/-! ## Programs -/

/-- Every statement of a list is analyzed, with the same signatures. -/
theorem Stmts.exists_of_mem {ctx : Context} {known : List (Nat × Signature)}
    {before after : State} {branches : List Resolved} {statement : Stmt} :
    (statements : Stmts) → ctx.Knows known statements.toList →
      (statements.analyze ctx).run before = .ok branches after → after.reports = [] →
      before.signatures = known → statement ∈ statements.toList →
      ∃ first branch last, (statement.analyze ctx).run first = .ok branch last ∧
        last.reports = [] ∧ first.signatures = known
  | .nil, _, _, _, _, member => absurd member List.not_mem_nil
  | .cons head tail, knows, run, quiet, start, member => by
      rcases run_bind_eq_ok.mp run with ⟨branch, middle, analyzed, rest⟩
      have silent := (grows_of_ok _ rest).quiet quiet
      rcases List.mem_cons.mp member with rfl | later
      · exact ⟨before, branch, middle, analyzed, silent, start⟩
      · have along := (head.follows ctx knows.head).run analyzed silent start
        rcases run_bind_eq_ok.mp rest with ⟨others, _, analyzedRest, ⟨⟩⟩
        exact tail.exists_of_mem knows.tail analyzedRest quiet (along.signatures.trans start) later

section Programs

variable {policy : BranchPolicy} {width : PointerWidth} {program : Program} {state : State}

/-- Where nothing is reported, no path of the program or of the body of a function reads a
variable of its own that was declared with `undef`, unless an assignment to it was executed
on the path or passed by. -/
theorem Program.no_path_reads_unassigned
    (run : (program.analyze (.start policy width) .full).run (.ofTable .empty)
      = .ok () state)
    (quiet : state.reports = []) :
    (∀ path ∈ program.statements.flow.paths, .unassigned ∉ observations [.empty] path) ∧
    (∀ node name parameters result body,
      .function node name parameters result body ∈ program.statements.toList →
      ∀ path ∈ (Flow.function parameters body.flow).paths,
        .unassigned ∉ observations [.empty] path) := by
  rcases run_bind_eq_ok.mp run with ⟨_, middle, headers, rest⟩
  rcases run_discard_eq_ok.mp rest with ⟨branches, bodies⟩
  have silent := (grows_of_ok _ rest).quiet quiet
  have registered : (State.ofTable .empty).Registered := List.forall_mem_nil _
  have signed := (program.statements.signed_declareFunctions headers silent registered).2
  have knows : (Context.start policy width).Knows middle.signatures program.statements.toList :=
    fun _ => signed
  refine ⟨?_, ?_⟩
  · intro path member
    have along := (program.statements.follows _ knows).run bodies quiet rfl
    have table := program.statements.declareFunctions_registers.tables (.ofTable .empty)
    rw [headers] at table
    have fresh : Tracking [.empty] middle.table.scopes := by
      refine .scope ?_ .outside
      rw [show middle.table.inner = Scope.empty .global from table.inner]
      exact Standing.tracks_empty .global
    exact along.reads (Flow.map_step_of_mem_paths member) fresh
  · intro node name parameters result body function path member
    rcases program.statements.exists_of_mem knows bodies quiet rfl function with
      ⟨first, branch, last, analyzed, silentLast, start⟩
    have known : (Context.start policy width).Knows first.signatures
        [.function node name parameters result body] := by
      rw [start]
      intro top statement only
      rcases List.mem_singleton.mp only with rfl
      exact signed _ function
    rcases Stmt.exists_called known analyzed silentLast with
      ⟨signature, inner, named, called, rfl⟩
    have follows : Follows middle.signatures _ _ :=
      Body.follows_called (.start policy width) node name named
        (body.followsStatements _ signature)
    have along := follows.run called silentLast start
    have fresh : Tracking [.empty] (first.table.enter .function).scopes :=
      Tracking.outside.entered .function
    exact along.reads (Flow.map_step_of_mem_paths member) fresh

namespace Sample

def takesBest : List (Option ParameterExpr) :=
  [some ⟨some (name 20 "first"), .named (node 21) "i32", false⟩]

/-- A variable that is assigned straight away. -/
def best : Body :=
  .block (node 22) (.ofList [
    .declaration (node 23) true (some (name 24 "best")) (.named (node 25) "i32")
      (.undef (node 26)),
    .assignment (node 27) (some (name 28 "best")) (.ident (name 29 "first")),
    .returning (node 30) (.ident (name 31 "best"))])

/-- A variable that is assigned in both arms of a conditional, and a function. -/
def branching : Program where
  file := ""
  statements := .ofList [
    .declaration (node 0) true (some (name 1 "total")) (.named (node 2) "i32")
      (.undef (node 3)),
    .expression (node 4) (.conditional (node 5) (.bool (node 6) true)
      (.block (node 7) (.ofList [
        .assignment (node 8) (some (name 9 "total")) (.int (node 10) "1")]))
      (.block (node 11) (.ofList [
        .assignment (node 12) (some (name 13 "total")) (.int (node 14) "2")]))),
    .declaration (node 15) false (some (name 16 "kept")) (.named (node 17) "i32")
      (.ident (name 18 "total")),
    .function (node 19) (some (name 32 "pick")) takesBest (.named (node 33) "i32") best]

def branchingState : State :=
  ((branching.analyze (.start .strict .bits32) .full).run (.ofTable .empty)).state

end Sample

theorem Program.no_path_reads_unassigned_sample :
    (Sample.branching.analyze (.start .strict .bits32) .full).run (.ofTable .empty)
      = .ok () Sample.branchingState ∧
    Sample.branchingState.reports = [] ∧
    Sample.branching.statements.flow.paths.map (observations [.empty]) =
      [[.assigned], [.assigned]] ∧
    (∀ path ∈ Sample.branching.statements.flow.paths,
      .unassigned ∉ observations [.empty] path) ∧
    (∀ path ∈ (Flow.function Sample.takesBest Sample.best.flow).paths,
      .unassigned ∉ observations [.empty] path) := by
  have run : (Sample.branching.analyze (.start .strict .bits32) .full).run (.ofTable .empty)
      = .ok () Sample.branchingState := rfl
  rcases no_path_reads_unassigned run rfl with ⟨whole, functions⟩
  have member : .function (Sample.node 19) (some (Sample.name 32 "pick")) Sample.takesBest
      (.named (Sample.node 33) "i32") Sample.best ∈ Sample.branching.statements.toList :=
    .tail _ (.tail _ (.tail _ (.head _)))
  exact ⟨run, rfl, rfl, whole, functions _ _ _ _ _ member⟩

namespace Sample

def takesReady : List (Option ParameterExpr) :=
  [some ⟨some (name 7 "ready"), .named (node 8) "bool", false⟩]

/-- A variable that is assigned in the only arm of a conditional. -/
def aim : Body :=
  .block (node 9) (.ofList [
    .declaration (node 10) true (some (name 11 "shot")) (.named (node 12) "i32")
      (.undef (node 13)),
    .expression (node 14) (.conditional (node 15) (.ident (name 16 "ready"))
      (.block (node 17) (.ofList [
        .assignment (node 18) (some (name 19 "shot")) (.int (node 20) "1")]))
      .missing),
    .declaration (node 21) false (some (name 22 "taken")) (.named (node 23) "i32")
      (.ident (name 24 "shot")),
    .assignment (node 25) (some (name 26 "goal")) (.int (node 27) "1")])

/-- A variable that is assigned only in a function that nothing calls. -/
def skipping : Program where
  file := ""
  statements := .ofList [
    .declaration (node 0) true (some (name 1 "goal")) (.named (node 2) "i32")
      (.undef (node 3)),
    .function (node 4) (some (name 5 "aim")) takesReady (.named (node 6) "void") aim,
    .declaration (node 28) false (some (name 29 "reached")) (.named (node 30) "i32")
      (.ident (name 31 "goal"))]

def skippingState : State :=
  ((skipping.analyze (.start .strict .bits32) .full).run (.ofTable .empty)).state

end Sample

/-- Without a report, both the program and its function have a path that reads a variable
which it has not assigned: it passed by the assignment. -/
theorem Program.path_reads_passedBy :
    (Sample.skipping.analyze (.start .strict .bits32) .full).run (.ofTable .empty)
      = .ok () Sample.skippingState ∧
    Sample.skippingState.reports = [] ∧
    .function (Sample.node 4) (some (Sample.name 5 "aim")) Sample.takesReady
      (.named (Sample.node 6) "void") Sample.aim ∈ Sample.skipping.statements.toList ∧
    (∃ path ∈ Sample.skipping.statements.flow.paths,
      observations [.empty] path = [.passedBy]) ∧
    (∃ path ∈ (Flow.function Sample.takesReady Sample.aim.flow).paths,
      observations [.empty] path = [.assigned, .passedBy]) := by
  refine ⟨rfl, rfl, .tail _ (.head _), ?_, ?_⟩
  · exact ⟨_, .head _, rfl⟩
  · -- The second path goes without the arm.
    exact ⟨_, .tail _ (.head _), rfl⟩

end Programs

end ComptimeTyping
