import Mathlib.Data.List.Perm.Basic
import ComptimeTyping.Proofs.Bindings
import ComptimeTyping.Proofs.Locality

/-! The order of functions does not matter. The headers of all functions are read before any
body, and a body leaves nothing behind that another one looks at, so each function adds the
same reports, types and slots wherever it stands. -/

namespace ComptimeTyping

open Analysis

/-! ## Functions -/

/-- A function as it is declared at the top level. -/
structure FunctionStmt where
  node : Node
  name : Option Ident
  parameters : List (Option ParameterExpr)
  result : TypeExpr
  body : Body

/-- An empty scope stays empty if nothing is bound in it. -/
theorem Scope.KeptAs.eq_of_empty {kind : ScopeKind} {after : Scope}
    (kept : (Scope.empty kind).KeptAs after) : after = Scope.empty kind := by
  obtain ⟨kindAfter, symbols⟩ := after
  obtain rfl : kindAfter = kind := kept.kind
  cases symbols with
  | nil => rfl
  | cons symbol symbols =>
      have absent := kept.closed symbol.name rfl
      simp [Scope.find?] at absent

/-- Nothing but functions. -/
def SymbolTable.ofFunctions (functions : List Signature) : SymbolTable :=
  { SymbolTable.empty with functions }

theorem SymbolTable.KeptAs.eq_ofFunctions {functions : List Signature} {after : SymbolTable}
    (kept : (SymbolTable.ofFunctions functions).KeptAs after) :
    after = .ofFunctions functions := by
  obtain ⟨inner, outer, known, counter⟩ := after
  obtain ⟨scopes, same, depth⟩ := kept
  obtain ⟨keptInner, keptOuter⟩ := List.forall₂_cons.1 scopes
  cases keptOuter
  obtain rfl := keptInner.eq_of_empty
  obtain rfl : known = functions := same
  obtain rfl : counter = 0 := depth
  rfl

namespace FunctionStmt

def toStmt (function : FunctionStmt) : Stmt :=
  .function function.node function.name function.parameters function.result function.body

def nodes (function : FunctionStmt) : List Occurrence :=
  nameNodes .name function.name ++ parameterNodes function.parameters
    ++ function.body.functionNodes

/-- Two functions of one tree, with different names. -/
structure Apart (left right : FunctionStmt) : Prop where
  node : left.node.id ≠ right.node.id
  nodes : (left.nodes.map Occurrence.id).Disjoint (right.nodes.map Occurrence.id)
  names : ∀ leftName ∈ left.name, ∀ rightName ∈ right.name, leftName.name ≠ rightName.name

/-- What reading the header gives. -/
def heading (function : FunctionStmt) : Outcome Signature :=
  (readSignature function.node function.name function.parameters function.result
    function.body).run (.ofTable .empty)

def signature? (function : FunctionStmt) : Option Signature :=
  match function.heading with
  | .ok signature _ => some signature
  | .error _ _ => none

/-- What is analyzed in the body pass, once the signature is known. -/
def inside (ctx : Context) (function : FunctionStmt) (signature : Signature) : Analysis Unit :=
  withScope .function do
    declareParameters function.node signature 1 signature.parameters
    clearReturned
    function.body.analyze (ctx.inFunction signature)
    requireReturn function.name signature

/-- What the body gives where nothing but functions is known. -/
def effect (ctx : Context) (known : List Signature) (function : FunctionStmt) : Outcome Unit :=
  match function.signature? with
  | some signature => (function.inside ctx signature).run (.ofTable (.ofFunctions known))
  | none => .ok () (.ofTable (.ofFunctions known))

end FunctionStmt

/-- A program of functions only. -/
def Program.ofFunctions (file : String) (functions : List FunctionStmt) : Program where
  file
  statements := .ofList (functions.map FunctionStmt.toStmt)

theorem FunctionStmt.Apart.symm {left right : FunctionStmt} (apart : left.Apart right) :
    right.Apart left :=
  ⟨apart.node.symm, List.disjoint_comm.1 apart.nodes, fun leftName isLeft rightName isRight =>
    (apart.names rightName isRight leftName isLeft).symm⟩

/-! ## Headers -/

namespace FunctionStmt

/-- A header is read the same way everywhere. -/
theorem run_readSignature (function : FunctionStmt) (state : State) :
    (readSignature function.node function.name function.parameters function.result
      function.body).run state =
      function.heading.mapState fun told =>
        { state with reports := state.reports ++ told.reports } := by
  unfold heading
  obtain ⟨reports, verdict, equal, -⟩ : (readSignature function.node function.name
    function.parameters function.result function.body).Reporting fun _ => True :=
      reporting_readSignature _ _ _ _ _
  rw [equal]
  cases verdict <;> rfl

theorem name_of_signature? {function : FunctionStmt} {signature : Signature}
    (known : function.signature? = some signature) :
    ∃ name ∈ function.name, signature.name = name.name := by
  unfold signature? at known
  split at known
  · next read after run =>
      cases known
      unfold heading readSignature at run
      cases named : function.name with
      | none =>
          rw [named] at run
          cases run
      | some name =>
          rw [named] at run
          refine ⟨name, rfl, ?_⟩
          dsimp only at run
          split at run
          · cases run
          · obtain ⟨parameters, middle, -, rest⟩ := run_bind_eq_ok.1 run
            split at rest
            · cases rest
              rfl
            · obtain ⟨type, last, -, ⟨⟩⟩ := run_bind_eq_ok.1 rest
              rfl
  · cases known

/-- The state once a function is registered. -/
def registered (state : State) (function : FunctionStmt) : State :=
  match function.signature? with
  | some signature =>
      { state with
        table := { state.table with functions := signature :: state.table.functions },
        signatures := (function.node.id, signature) :: state.signatures,
        reports := state.reports ++ function.heading.state.reports }
  | none => state

theorem signature?_registered {state : State} {function : FunctionStmt} {id : Nat}
    (other : function.node.id ≠ id) :
    (function.registered state).signature? id = state.signature? id := by
  unfold registered
  split
  · rw [State.signature?, List.lookup_cons, beq_false_of_ne other.symm]
    rfl
  · rfl

theorem function?_registered {state : State} {function : FunctionStmt} {name : String}
    (other : ∀ own ∈ function.name, own.name ≠ name) :
    (function.registered state).table.function? name = state.table.function? name := by
  unfold registered
  split
  · next signature known =>
      obtain ⟨own, isOwn, named⟩ := name_of_signature? known
      have different : (signature.name == name) = false := by
        rw [named]
        exact beq_false_of_ne (other own isOwn)
      rw [SymbolTable.function?, List.find?_cons, different]
      rfl
  · rfl

/-- A signature that was not read before is read and noted. -/
theorem run_signatureOf {function : FunctionStmt} {state : State}
    (new : state.signature? function.node.id = none) :
    (signatureOf function.node function.name function.parameters function.result
        function.body).run state =
      match function.heading with
      | .ok signature told => .ok signature { state with
          signatures := (function.node.id, signature) :: state.signatures,
          reports := state.reports ++ told.reports }
      | .error abort told =>
          .error abort { state with reports := state.reports ++ told.reports } := by
  unfold signatureOf
  rw [run_bind]
  dsimp only [Analysis.read]
  rw [new]
  dsimp only
  rw [run_bind, run_readSignature]
  cases function.heading <;> rfl

/-- A header that can be read is registered under a name that is still free. -/
theorem run_declareFunction {function : FunctionStmt} {state : State}
    (new : state.signature? function.node.id = none)
    (free : ∀ name ∈ function.name, state.table.function? name.name = none) {after : State} :
    (declareFunction function.node function.name function.parameters function.result
        function.body).run state = .ok () after ↔
      function.signature?.isSome ∧ after = function.registered state := by
  unfold declareFunction registered
  rw [run_bind, run_signatureOf new]
  cases read : function.heading with
  | error abort told =>
      have unknown : function.signature? = none := by rw [signature?, read]
      simp [unknown]
  | ok signature told =>
      have known : function.signature? = some signature := by rw [signature?, read]
      obtain ⟨name, isName, named⟩ := name_of_signature? known
      have fresh := free name isName
      rw [← named] at fresh
      rw [known]
      dsimp only [run_table_bind]
      rw [SymbolTable.declareFunction_eq, fresh]
      simp [setTable, update, Outcome.state, eq_comm]

/-- The headers of functions that stand apart are all registered, if all can be read. -/
theorem run_declareFunctions {functions : List FunctionStmt} (apart : functions.Pairwise Apart)
    {state after : State}
    (new : ∀ function ∈ functions, state.signature? function.node.id = none)
    (free : ∀ function ∈ functions, ∀ name ∈ function.name,
      state.table.function? name.name = none) :
    (Stmts.ofList (functions.map toStmt)).declareFunctions.run state = .ok () after ↔
      (∀ function ∈ functions, function.signature?.isSome) ∧
        after = functions.foldl registered state := by
  induction functions generalizing state with
  | nil =>
      constructor
      · rintro ⟨⟩
        exact ⟨List.forall_mem_nil _, rfl⟩
      · rintro ⟨-, rfl⟩
        rfl
  | cons function rest induction =>
      obtain ⟨first, apart⟩ := List.pairwise_cons.1 apart
      simp only [List.forall_mem_cons] at new free ⊢
      have newRest : ∀ other ∈ rest,
          (function.registered state).signature? other.node.id = none := by
        intro other member
        rw [signature?_registered (first other member).node]
        exact new.2 other member
      have freeRest : ∀ other ∈ rest, ∀ name ∈ other.name,
          (function.registered state).table.function? name.name = none := by
        intro other member name isName
        rw [function?_registered fun own isOwn => (first other member).names own isOwn name isName]
        exact free.2 other member name isName
      have header := @run_declareFunction function state new.1 free.1
      rw [List.map_cons, Stmts.ofList, toStmt, Stmts.declareFunctions, run_bind_eq_ok,
        List.foldl_cons]
      constructor
      · rintro ⟨⟨⟩, middle, started, ended⟩
        obtain ⟨known, rfl⟩ := header.1 started
        obtain ⟨others, equal⟩ := (induction apart newRest freeRest).1 ended
        exact ⟨⟨known, others⟩, equal⟩
      · rintro ⟨⟨known, others⟩, equal⟩
        exact ⟨(), _, header.2 ⟨known, rfl⟩, (induction apart newRest freeRest).2 ⟨others, equal⟩⟩

/-- Registering functions opens no scope and notes no type. -/
theorem foldl_registered_eq (functions : List FunctionStmt) (state : State) :
    ∃ known signatures reports, functions.foldl registered state =
      { state with table := { state.table with functions := known }, signatures, reports } := by
  induction functions generalizing state with
  | nil => exact ⟨_, _, _, rfl⟩
  | cons function rest induction =>
      rw [List.foldl_cons, registered]
      cases function.signature? with
      | none => exact induction state
      | some signature =>
          obtain ⟨known, signatures, reports, equal⟩ := induction _
          exact ⟨known, signatures, reports, equal⟩

/-- Every function finds its own signature again. -/
theorem signature?_foldl_registered {functions : List FunctionStmt}
    (apart : functions.Pairwise Apart) (state : State) :
    ∀ function ∈ functions, function.signature?.isSome →
      (functions.foldl registered state).signature? function.node.id = function.signature? := by
  have later : ∀ (functions : List FunctionStmt) (state : State) (id : Nat),
      (∀ function ∈ functions, function.node.id ≠ id) →
      (functions.foldl registered state).signature? id = state.signature? id := by
    intro functions
    induction functions with
    | nil => exact fun _ _ _ => rfl
    | cons function rest induction =>
        intro state id others
        obtain ⟨first, others⟩ := List.forall_mem_cons.1 others
        rw [List.foldl_cons, induction _ id others, signature?_registered first]
  induction functions generalizing state with
  | nil => exact List.forall_mem_nil _
  | cons function rest induction =>
      obtain ⟨first, apart⟩ := List.pairwise_cons.1 apart
      refine List.forall_mem_cons.2 ⟨fun known => ?_, induction apart _⟩
      rw [List.foldl_cons, later rest _ _ fun other member => (first other member).node.symm]
      obtain ⟨signature, known⟩ := Option.isSome_iff_exists.1 known
      rw [registered, known]
      exact List.lookup_cons_self

/-! ## Bodies -/

/-- Binding parameters always ends, and does not look at what was returned before. -/
theorem run_declareParameters (node : Node) (signature : Signature) (number : Nat)
    (parameters : List Parameter) (state : State) (returned : Bool) :
    ∃ after, (declareParameters node signature number parameters).run state = .ok () after ∧
      (declareParameters node signature number parameters).run { state with returned } =
        .ok () { after with returned } := by
  induction parameters generalizing number state with
  | nil => exact ⟨state, rfl, rfl⟩
  | cons parameter parameters induction =>
      unfold declareParameters
      rw [run_table_bind, run_table_bind]
      dsimp only
      cases state.table.declareParameter parameter with
      | ok table => exact induction (number + 1) { state with table }
      | error refusal =>
          exact induction (number + 1) { state with reports := state.reports ++ [_] }

theorem run_inside_returned (ctx : Context) (function : FunctionStmt) (signature : Signature)
    (state : State) (returned : Bool) :
    (function.inside ctx signature).run { state with returned } =
      (function.inside ctx signature).run state := by
  obtain ⟨after, bound, boundToo⟩ := run_declareParameters function.node signature 1
    signature.parameters { state with table := state.table.enter .function } returned
  unfold inside
  rw [Local.run_withScope, Local.run_withScope]
  congr 1
  rw [run_bind_of_ok bound]
  exact (run_bind_of_ok boundToo).trans rfl

theorem inside_local (ctx : Context) (function : FunctionStmt) (signature : Signature) :
    (function.inside ctx signature).Local := by
  apply Local.withScope
  apply (local_declareParameters _ _ _ _).bind
  intro _
  apply (Local.setReturned _).bind
  intro _
  apply (function.body.analyze_local _ rfl).bind
  exact fun _ => local_requireReturn _ _

/-- Inside of a function only the names that it can see matter. -/
theorem run_inside {ctx : Context} {function : FunctionStmt} {signature : Signature}
    {table : SymbolTable} {state : State} (alike : table.Alike state.table) :
    (function.inside ctx signature).run state =
      ((function.inside ctx signature).run (.ofTable table)).over state := by
  let alone : State := { State.ofTable table with returned := state.returned }
  have hosts : state.Hosts alone := alike.functions
  have equal : alone.over state = state := by
    have tables : { table with functions := state.table.functions } = state.table := by
      rw [← alike.inner, ← alike.outer, ← alike.depth]
    unfold State.over
    dsimp only [alone, State.ofTable]
    rw [tables, List.append_nil]
    rfl
  calc (function.inside ctx signature).run state
      = (function.inside ctx signature).run (alone.over state) := by rw [equal]
    _ = ((function.inside ctx signature).run alone).over state :=
        (function.inside_local ctx signature).run hosts
    _ = ((function.inside ctx signature).run (.ofTable table)).over state := by
        rw [run_inside_returned]

/-- A function leaves nothing in the scope around it. -/
theorem table_effect (ctx : Context) (known : List Signature) (function : FunctionStmt) :
    (function.effect ctx known).state.table = .ofFunctions known := by
  unfold effect
  split
  · next signature _ =>
      have moves : (function.inside ctx signature).Moves SymbolTable.KeptAs := by
        apply Moves.withScope
        apply (extends_declareParameters _ _ _ _).bind
        intro _
        apply (Moves.setReturned _).bind
        intro _
        apply (function.body.analyze_extends _).bind
        exact fun _ => moves_requireReturn _ _
      exact (moves.tables (.ofTable (.ofFunctions known))).eq_ofFunctions
  · rfl

/-- The state once the body of a function is analyzed. -/
def settled (ctx : Context) (known : List Signature) (state : State) (function : FunctionStmt) :
    State :=
  (function.effect ctx known).state.over state

theorem table_settled (ctx : Context) (known : List Signature) (state : State)
    (function : FunctionStmt) :
    (function.settled ctx known state).table =
      { SymbolTable.ofFunctions known with functions := state.table.functions } := by
  unfold settled State.over
  dsimp only
  rw [table_effect]

/-- Names stand for the same after a body as before. -/
theorem alike_settled {ctx : Context} {known : List Signature} {state : State}
    (alike : (SymbolTable.ofFunctions known).Alike state.table) (function : FunctionStmt) :
    (SymbolTable.ofFunctions known).Alike (function.settled ctx known state).table := by
  rw [table_settled]
  exact ⟨rfl, rfl, alike.functions, rfl⟩

theorem run_analyze {ctx : Context} (top : ctx.isNested = false) {known : List Signature}
    {function : FunctionStmt} {state : State}
    (alike : (SymbolTable.ofFunctions known).Alike state.table)
    (signed : function.signature?.isSome)
    (noted : state.signature? function.node.id = function.signature?)
    {branch : Option Resolved} {after : State} :
    (function.toStmt.analyze ctx).run state = .ok branch after ↔
      branch = none ∧ (∃ added, function.effect ctx known = .ok () added) ∧
        after = function.settled ctx known state := by
  obtain ⟨signature, signed⟩ := Option.isSome_iff_exists.1 signed
  rw [signed] at noted
  have outside : ¬(ctx.function.isSome || ctx.block.isSome) = true := ne_true_of_eq_false top
  have found : (signatureOf function.node function.name function.parameters function.result
      function.body).run state = .ok signature state := by
    unfold signatureOf
    rw [run_bind]
    dsimp only [Analysis.read]
    rw [noted]
    rfl
  have inside : (function.toStmt.analyze ctx).run state =
      (function.inside ctx signature >>= fun _ => pure none).run state := by
    unfold toStmt Stmt.analyze
    rw [if_neg outside, run_bind_of_ok found]
    rfl
  unfold settled effect
  rw [inside, run_bind, run_inside alike, signed]
  dsimp only
  cases (function.inside ctx signature).run (.ofTable (.ofFunctions known)) with
  | ok value added =>
      constructor
      · rintro ⟨⟩
        exact ⟨rfl, ⟨added, rfl⟩, rfl⟩
      · rintro ⟨rfl, -, rfl⟩
        rfl
  | error abort added =>
      constructor
      · rintro ⟨⟩
      · rintro ⟨-, ⟨_, ⟨⟩⟩, -⟩

/-- The bodies of functions are analyzed one after the other, each as if it were alone. -/
theorem run_analyze_all {ctx : Context} (top : ctx.isNested = false) {known : List Signature}
    {functions : List FunctionStmt} {state : State}
    (alike : (SymbolTable.ofFunctions known).Alike state.table)
    (signed : ∀ function ∈ functions, function.signature?.isSome)
    (noted : ∀ function ∈ functions, state.signature? function.node.id = function.signature?)
    {after : State} :
    (∃ branches, ((Stmts.ofList (functions.map toStmt)).analyze ctx).run state =
        .ok branches after) ↔
      (∀ function ∈ functions, ∃ added, function.effect ctx known = .ok () added) ∧
        after = functions.foldl (settled ctx known) state := by
  induction functions generalizing state with
  | nil =>
      constructor
      · rintro ⟨branches, ⟨⟩⟩
        exact ⟨List.forall_mem_nil _, rfl⟩
      · rintro ⟨-, rfl⟩
        exact ⟨[], rfl⟩
  | cons function rest induction =>
      simp only [List.forall_mem_cons] at signed noted ⊢
      have next := @induction (function.settled ctx known state) (alike_settled alike function)
        signed.2 noted.2
      rw [List.map_cons, Stmts.ofList, List.foldl_cons]
      unfold Stmts.analyze
      simp only [run_bind_eq_ok, run_analyze top alike signed.1 noted.1]
      constructor
      · rintro ⟨branches, _, _, ⟨rfl, ends, rfl⟩, others, last, ended, ⟨⟩⟩
        obtain ⟨endsRest, equal⟩ := next.1 ⟨others, ended⟩
        exact ⟨⟨ends, endsRest⟩, equal⟩
      · rintro ⟨⟨ends, endsRest⟩, equal⟩
        obtain ⟨others, ended⟩ := next.2 ⟨endsRest, equal⟩
        exact ⟨_, _, _, ⟨rfl, ends, rfl⟩, others, after, ended, rfl⟩

end FunctionStmt

/-! ## Permutations -/

/-- Lists of entries without a common key may stand in either order. -/
theorem lookup_append_comm {α : Type} {left right rest : List (Nat × α)}
    {leftKeys rightKeys : List Nat} (disjoint : leftKeys.Disjoint rightKeys)
    (inLeft : ∀ entry ∈ left, entry.1 ∈ leftKeys)
    (inRight : ∀ entry ∈ right, entry.1 ∈ rightKeys) (key : Nat) :
    (left ++ (right ++ rest)).lookup key = (right ++ (left ++ rest)).lookup key := by
  have absent : ∀ {entries : List (Nat × α)} {keys : List Nat},
      (∀ entry ∈ entries, entry.1 ∈ keys) → key ∉ keys → entries.lookup key = none := by
    intro entries keys within outside
    rw [List.lookup_eq_none_iff]
    intro entry member
    rw [bne_iff_ne]
    rintro rfl
    exact outside (within entry member)
  simp only [List.lookup_append]
  by_cases key ∈ leftKeys
  · next inside => rw [absent inRight (disjoint inside), Option.none_or, Option.none_or]
  · next outside => rw [absent inLeft outside, Option.none_or, Option.none_or]

/-- Two states that nobody can tell apart by looking names and nodes up, with the same
reports in some order. -/
structure State.Agrees (left right : State) : Prop where
  table : left.table.Alike right.table
  functions : left.table.functions.Perm right.table.functions
  signatures : ∀ id, right.signature? id = left.signature? id
  types : ∀ id, right.type? id = left.type? id
  slots : ∀ id, right.slot? id = left.slot? id
  reports : left.reports.Perm right.reports

namespace State.Agrees

theorem refl (state : State) : state.Agrees state :=
  ⟨⟨rfl, rfl, fun _ => rfl, rfl⟩, .refl _, fun _ => rfl, fun _ => rfl, fun _ => rfl, .refl _⟩

theorem symm {left right : State} (agrees : left.Agrees right) : right.Agrees left :=
  ⟨⟨agrees.table.inner.symm, agrees.table.outer.symm,
      fun name => (agrees.table.functions name).symm, agrees.table.depth.symm⟩,
    agrees.functions.symm, fun id => (agrees.signatures id).symm,
    fun id => (agrees.types id).symm, fun id => (agrees.slots id).symm, agrees.reports.symm⟩

theorem trans {left middle right : State} (first : left.Agrees middle)
    (second : middle.Agrees right) : left.Agrees right :=
  ⟨first.table.trans second.table, first.functions.trans second.functions,
    fun id => (second.signatures id).trans (first.signatures id),
    fun id => (second.types id).trans (first.types id),
    fun id => (second.slots id).trans (first.slots id), first.reports.trans second.reports⟩

/-- Steps that agree in either order may be taken in any order. -/
theorem foldl_perm {step : State → FunctionStmt → State}
    (congr : ∀ function {left right : State}, left.Agrees right →
      (step left function).Agrees (step right function))
    {functions reordered : List FunctionStmt} (permuted : functions.Perm reordered)
    (swaps : functions.Pairwise fun first second => ∀ state,
      (step (step state first) second).Agrees (step (step state second) first))
    {left right : State} (agrees : left.Agrees right) :
    (functions.foldl step left).Agrees (reordered.foldl step right) := by
  induction permuted generalizing left right with
  | nil => exact agrees
  | cons function _ induction =>
      exact induction (List.pairwise_cons.1 swaps).2 (congr function agrees)
  | swap first second rest =>
      have swapped := (List.pairwise_cons.1 swaps).1 first List.mem_cons_self left
      have same : ∀ (rest : List FunctionStmt) {left right : State}, left.Agrees right →
          (rest.foldl step left).Agrees (rest.foldl step right) := by
        intro rest
        induction rest with
        | nil => exact fun agrees => agrees
        | cons function rest induction => exact fun agrees => induction (congr function agrees)
      exact same rest (swapped.trans (congr second (congr first agrees)))
  | trans permuted _ first second =>
      have swapsLater := (permuted.pairwise_iff fun {_ _} swap state => (swap state).symm).1 swaps
      exact (first swaps (.refl left)).trans (second swapsLater agrees)

end State.Agrees

namespace FunctionStmt

theorem registered_congr (function : FunctionStmt) {left right : State}
    (agrees : left.Agrees right) :
    (function.registered left).Agrees (function.registered right) := by
  unfold registered
  cases function.signature? with
  | none => exact agrees
  | some signature =>
      refine ⟨⟨agrees.table.inner, agrees.table.outer, fun name => ?_, agrees.table.depth⟩,
        agrees.functions.cons signature, fun id => ?_, agrees.types, agrees.slots,
        agrees.reports.append_right _⟩
      · have same := agrees.table.functions name
        unfold SymbolTable.function? at same ⊢
        rw [List.find?_cons, List.find?_cons, same]
      · have same := agrees.signatures id
        unfold State.signature? at same ⊢
        rw [List.lookup_cons, List.lookup_cons, same]

/-- Two functions with different names may be registered in either order. -/
theorem registered_swap {first second : FunctionStmt} (apart : first.Apart second)
    (state : State) :
    (second.registered (first.registered state)).Agrees
      (first.registered (second.registered state)) := by
  cases knownFirst : first.signature? with
  | none => simp only [registered, knownFirst, State.Agrees.refl]
  | some signature =>
      cases knownSecond : second.signature? with
      | none => simp only [registered, knownFirst, knownSecond, State.Agrees.refl]
      | some other =>
          obtain ⟨firstName, isFirst, named⟩ := name_of_signature? knownFirst
          obtain ⟨secondName, isSecond, namedOther⟩ := name_of_signature? knownSecond
          have names := apart.names firstName isFirst secondName isSecond
          rw [← named, ← namedOther] at names
          simp only [registered, knownFirst, knownSecond]
          refine ⟨⟨rfl, rfl, fun name => ?_, rfl⟩, .swap _ _ _, fun id => ?_, fun _ => rfl,
            fun _ => rfl, ?_⟩
          · simp only [SymbolTable.function?, List.find?_cons]
            by_cases same : signature.name = name
            · subst same
              rw [beq_false_of_ne names.symm]
            · rw [beq_false_of_ne same]
          · simp only [State.signature?, List.lookup_cons]
            by_cases same : id = first.node.id
            · subst same
              rw [beq_false_of_ne apart.node]
            · rw [beq_false_of_ne same]
          · dsimp only
            rw [List.append_assoc, List.append_assoc]
            exact List.perm_append_comm.append_left _

/-- What a function notes belongs to its own nodes. -/
structure Confined (function : FunctionStmt) (added : State) : Prop where
  types : ∀ entry ∈ added.types, entry.1 ∈ function.nodes.map Occurrence.id
  slots : ∀ entry ∈ added.slots, entry.1 ∈ function.nodes.map Occurrence.id

theorem settled_congr (ctx : Context) (known : List Signature) (function : FunctionStmt)
    {left right : State} (agrees : left.Agrees right) :
    (function.settled ctx known left).Agrees (function.settled ctx known right) where
  table := ⟨rfl, rfl, agrees.table.functions, rfl⟩
  functions := agrees.functions
  signatures := agrees.signatures
  types id := by
    have same := agrees.types id
    unfold State.type? at same ⊢
    simp only [settled, State.over, List.lookup_append, same]
  slots id := by
    have same := agrees.slots id
    unfold State.slot? at same ⊢
    simp only [settled, State.over, List.lookup_append, same]
  reports := agrees.reports.append_right _

/-- Two bodies may be analyzed in either order. -/
theorem settled_swap {ctx : Context} {known : List Signature} {first second : FunctionStmt}
    (apart : first.Apart second) (inFirst : first.Confined (first.effect ctx known).state)
    (inSecond : second.Confined (second.effect ctx known).state) (state : State) :
    (second.settled ctx known (first.settled ctx known state)).Agrees
      (first.settled ctx known (second.settled ctx known state)) where
  table := by
    simp only [table_settled]
    exact ⟨rfl, rfl, fun _ => rfl, rfl⟩
  functions := .refl _
  signatures _ := rfl
  types := lookup_append_comm apart.nodes inFirst.types inSecond.types
  slots := lookup_append_comm apart.nodes inFirst.slots inSecond.slots
  reports := by
    change (_ ++ _ ++ _ : List Diagnostic).Perm (_ ++ _ ++ _)
    rw [List.append_assoc, List.append_assoc]
    exact List.perm_append_comm.append_left _

/-- A function fills slots with nodes whose type it notes, and notes those of its own nodes
only. -/
theorem confined_effect {policy : BranchPolicy} {width : PointerWidth} {known : List Signature}
    {function : FunctionStmt} {state : State} (holds : Discipline.plain.Holds state)
    (types : state.types = []) (slots : state.slots = [])
    (alike : (SymbolTable.ofFunctions known).Alike state.table)
    (signed : function.signature?.isSome)
    (noted : state.signature? function.node.id = function.signature?)
    (ends : ∃ added, function.effect (.start policy width) known = .ok () added) :
    function.Confined (function.effect (.start policy width) known).state := by
  have run := (run_analyze rfl alike signed noted).2 ⟨rfl, ends, rfl⟩
  obtain ⟨added, within, own, -⟩ := (Stmt.analyze_function_notes (.start policy width) rfl
    function.node function.name function.parameters function.result function.body).run run
  have safe := (function.toStmt.analyze_safe Discipline.lawful_plain
    (Discipline.admits_start policy width) holds).state trivial
  rw [run] at safe
  have typesAfter : (function.settled (.start policy width) known state).types =
      (function.effect (.start policy width) known).state.types := by
    rw [settled, State.over, types, List.append_nil]
  have slotsAfter : (function.settled (.start policy width) known state).slots =
      (function.effect (.start policy width) known).state.slots := by
    rw [settled, State.over, slots, List.append_nil]
  have owned : ∀ entry ∈ (function.effect (.start policy width) known).state.types,
      entry.1 ∈ function.nodes.map Occurrence.id := by
    intro entry member
    rw [← typesAfter, within, types, List.append_nil] at member
    exact own.subset (List.mem_map_of_mem member)
  refine ⟨owned, fun entry member => ?_⟩
  rw [← slotsAfter] at member
  obtain ⟨source, noted, -⟩ := safe.slots entry member
  exact owned (entry.1, some source) (typesAfter ▸ noted)

end FunctionStmt

/-! ## Programs -/

namespace Program

/-- A program of functions ends well if every header can be read and every body ends well, and
then it leaves what its functions leave one after the other. -/
theorem run_ofFunctions {policy : BranchPolicy} {width : PointerWidth} {file : String}
    {functions : List FunctionStmt} (apart : functions.Pairwise FunctionStmt.Apart)
    {known : List Signature}
    (alike : (SymbolTable.ofFunctions known).Alike
      (functions.foldl FunctionStmt.registered (.ofTable .empty)).table) {after : State} :
    ((ofFunctions file functions).analyze (.start policy width) .full).run (.ofTable .empty) =
        .ok () after ↔
      (∀ function ∈ functions, function.signature?.isSome ∧
        ∃ added, function.effect (.start policy width) known = .ok () added) ∧
      after = functions.foldl (FunctionStmt.settled (.start policy width) known)
        (functions.foldl FunctionStmt.registered (.ofTable .empty)) := by
  have headers := fun {middle} => @FunctionStmt.run_declareFunctions functions apart
    (.ofTable .empty) middle (fun _ _ => rfl) fun _ _ _ _ => rfl
  have passes : (ofFunctions file functions).analyze (.start policy width) .full =
      (Stmts.ofList (functions.map FunctionStmt.toStmt)).declareFunctions >>= fun _ =>
        discard ((Stmts.ofList (functions.map FunctionStmt.toStmt)).analyze
          (.start policy width)) := rfl
  have bodies := fun signed => @FunctionStmt.run_analyze_all (.start policy width) rfl known
    functions _ alike signed (fun function member =>
      FunctionStmt.signature?_foldl_registered apart _ function member (signed function member))
    after
  rw [passes, run_bind_eq_ok]
  constructor
  · rintro ⟨⟨⟩, middle, started, ended⟩
    obtain ⟨signed, rfl⟩ := headers.1 started
    obtain ⟨branches, last, ended, ⟨⟩⟩ := run_bind_eq_ok.1 ended
    obtain ⟨ends, equal⟩ := (bodies signed).1 ⟨branches, ended⟩
    exact ⟨fun function member => ⟨signed function member, ends function member⟩, equal⟩
  · rintro ⟨all, equal⟩
    have signed := fun function member => (all function member).1
    obtain ⟨branches, ended⟩ := (bodies signed).2 ⟨fun function member =>
      (all function member).2, equal⟩
    exact ⟨(), _, headers.2 ⟨signed, rfl⟩, run_bind_eq_ok.2 ⟨branches, after, ended, rfl⟩⟩

/-- The order of functions does not matter. In every order a program of functions that stand
apart ends well or does not; and where it does, it reports the same, notes the same types
and slots and registers the same functions. -/
theorem same_in_every_order (policy : BranchPolicy) (width : PointerWidth) (file : String)
    {functions reordered : List FunctionStmt} (apart : functions.Pairwise FunctionStmt.Apart)
    (permuted : functions.Perm reordered) :
    let run := fun functions => ((ofFunctions file functions).analyze (.start policy width)
      .full).run (.ofTable .empty)
    ((∃ after, run functions = .ok () after) ↔ ∃ after, run reordered = .ok () after) ∧
    ∀ after afterReordered, run functions = .ok () after →
      run reordered = .ok () afterReordered → after.Agrees afterReordered := by
  intro run
  let headers := functions.foldl FunctionStmt.registered (.ofTable .empty)
  let known := headers.table.functions
  have read : headers.Agrees (reordered.foldl FunctionStmt.registered (.ofTable .empty)) :=
    .foldl_perm FunctionStmt.registered_congr permuted
      (apart.imp FunctionStmt.registered_swap) (.refl _)
  obtain ⟨_, _, _, unfolded⟩ := FunctionStmt.foldl_registered_eq functions (.ofTable .empty)
  have alike : (SymbolTable.ofFunctions known).Alike headers.table := by
    refine ⟨?_, ?_, fun _ => rfl, ?_⟩
    · exact congrArg (fun state : State => state.table.inner) unfolded
    · exact congrArg (fun state : State => state.table.outer) unfolded
    · exact congrArg (fun state : State => state.table.depth) unfolded
  have alikeReordered : (SymbolTable.ofFunctions known).Alike
      (reordered.foldl FunctionStmt.registered (.ofTable .empty)).table :=
    alike.trans read.table
  have apartReordered := (permuted.pairwise_iff FunctionStmt.Apart.symm).1 apart
  have given := fun {after} =>
    @run_ofFunctions policy width file functions apart known alike after
  have permutedRun := fun {after} =>
    @run_ofFunctions policy width file reordered apartReordered known alikeReordered after
  constructor
  · constructor
    · rintro ⟨after, ended⟩
      exact ⟨_, permutedRun.2 ⟨fun function member =>
        (given.1 ended).1 function (permuted.mem_iff.2 member), rfl⟩⟩
    · rintro ⟨after, ended⟩
      exact ⟨_, given.2 ⟨fun function member =>
        (permutedRun.1 ended).1 function (permuted.mem_iff.1 member), rfl⟩⟩
  · intro after afterReordered ended endedReordered
    obtain ⟨all, rfl⟩ := given.1 ended
    obtain ⟨-, rfl⟩ := permutedRun.1 endedReordered
    have holds : Discipline.plain.Holds headers := by
      have safe := (Stmts.ofList (functions.map FunctionStmt.toStmt)).declareFunctions_safe
        Discipline.lawful_plain (.empty _)
      have started := (@FunctionStmt.run_declareFunctions functions apart (.ofTable .empty)
        headers (fun _ _ => rfl) fun _ _ _ _ => rfl).2
          ⟨fun function member => (all function member).1, rfl⟩
      have state := safe.state trivial
      rwa [started] at state
    have confined : ∀ function ∈ functions,
        function.Confined (function.effect (.start policy width) known).state := by
      intro function member
      obtain ⟨signed, ends⟩ := all function member
      exact FunctionStmt.confined_effect holds (congrArg State.types unfolded)
        (congrArg State.slots unfolded) alike signed
        (FunctionStmt.signature?_foldl_registered apart _ function member signed) ends
    refine .foldl_perm (FunctionStmt.settled_congr _ known) permuted ?_ read
    exact apart.imp_of_mem fun isFirst isSecond stand =>
      FunctionStmt.settled_swap stand (confined _ isFirst) (confined _ isSecond)

end Program

namespace Sample

/-- Two functions that call each other, the second one with a wrong argument. -/
def callers : List FunctionStmt := [
  { node := node 0, name := some (name 1 "even"),
    parameters := [some ⟨some (name 2 "n"), .named (node 3) "i32", false⟩],
    result := .named (node 4) "bool",
    body := .block (node 5) (.ofList [.returning (node 6)
      (.call (node 7) (some (name 8 "odd"))
        (.ofList [.ident (name 9 "n")]))]) },
  { node := node 10, name := some (name 11 "odd"),
    parameters := [some ⟨some (name 12 "n"), .named (node 13) "i32", false⟩],
    result := .named (node 14) "bool",
    body := .block (node 15) (.ofList [.returning (node 16)
      (.call (node 17) (some (name 18 "even"))
        (.ofList [.bool (node 19) true]))]) }]

end Sample

theorem Program.same_in_every_order_sample :
    Sample.callers.Pairwise FunctionStmt.Apart ∧ Sample.callers.Perm Sample.callers.reverse ∧
    ∃ after reordered,
      ((ofFunctions "" Sample.callers).analyze (.start .strict .bits32) .full).run
        (.ofTable .empty) = .ok () after ∧
      ((ofFunctions "" Sample.callers.reverse).analyze (.start .strict .bits32) .full).run
        (.ofTable .empty) = .ok () reordered ∧
      after.reports.length = 1 ∧ after.type? 9 = some (some (.scalar .i32)) ∧
      after.Agrees reordered := by
  have apart : Sample.callers.Pairwise FunctionStmt.Apart := by
    refine .cons (List.forall_mem_singleton.2 ⟨by decide,
      List.disjoint_iff_ne.2 (by decide), ?_⟩) (.cons nofun .nil)
    rintro _ ⟨⟩ _ ⟨⟩
    decide
  have permuted := (List.reverse_perm Sample.callers).symm
  exact ⟨apart, permuted, _, _, rfl, rfl, rfl, rfl,
    (same_in_every_order .strict .bits32 "" apart permuted).2 _ _ rfl rfl⟩

end ComptimeTyping
