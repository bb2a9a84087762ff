import Mathlib.Data.List.Induction
import Mathlib.Data.List.Nodup
import ComptimeTyping.Proofs.Scopes

/-! The ledger of a symbol table. A ledger keeps, for every scope that a sequence of operations
has left open, the declarations that were tried in it; the table binds every name as the
ledger says, after every operation. -/

namespace ComptimeTyping

/-! ## Operations -/

/-- A call that may change a symbol table. `lookup?`, `parameter?`, `function?` and `depth`
only read it. -/
inductive TableOperation where
  | enterBlock
  | enterFunction
  | exit
  | declare (symbol : Symbol)
  | declareParameter (parameter : Parameter)
  | markInitialized (name : String)
  | declareFunction (signature : Option Signature)
deriving DecidableEq, Repr

namespace TableOperation

/-- The scope that an operation opens. -/
def opens? : TableOperation → Option ScopeKind
  | .enterBlock => some .block
  | .enterFunction => some .function
  | _ => none

def change : TableOperation → SymbolTable.Change
  | .enterBlock => modify (·.enter .block)
  | .enterFunction => modify (·.enter .function)
  | .exit => .exit
  | .declare symbol => .declare symbol
  | .declareParameter parameter => .declareParameter parameter
  | .markInitialized name => modify (·.markInitialized name)
  | .declareFunction signature => .declareFunction signature

/-- The table that an operation makes of another one, or nothing if it fails. -/
def attempt? (table : SymbolTable) (operation : TableOperation) : Option SymbolTable :=
  (operation.change.result table).toOption

/-- The signature that an operation asks to register under a name. -/
def registers? (name : String) : TableOperation → Option Signature
  | .declareFunction (some signature) =>
      if signature.name == name then some signature else none
  | _ => none

end TableOperation

namespace SymbolTable

/-- The table that an operation leaves behind, also where it fails. -/
def perform (table : SymbolTable) (operation : TableOperation) : SymbolTable :=
  match operation.change.run table with
  | .ok _ after => after
  | .error _ after => after

/-- The table that a new one has become. -/
def ofHistory (history : List TableOperation) : SymbolTable :=
  history.foldl perform empty

/-- An operation that is refused leaves the table as it was. -/
theorem eq_of_refused (operation : TableOperation) {table after : SymbolTable}
    {refusal : Refusal} (refused : operation.change.run table = .error refusal after) :
    after = table := by
  have undeclared : ∀ symbol, (Change.declare symbol).run table = .error refusal after →
      after = table := by
    intro symbol refused
    rw [run_declare] at refused
    split at refused <;> cases refused
    rfl
  cases operation with
  | enterBlock | enterFunction | markInitialized => cases refused
  | exit =>
      rw [TableOperation.change, run_exit] at refused
      split at refused <;> cases refused
      rfl
  | declare symbol => exact undeclared symbol refused
  | declareParameter parameter =>
      rw [TableOperation.change, run_declareParameter] at refused
      split at refused
      · exact undeclared parameter.toSymbol refused
      · cases refused
        rfl
  | declareFunction signature =>
      cases signature with
      | none =>
          cases refused
          rfl
      | some signature =>
          rw [TableOperation.change, run_declareFunction] at refused
          split at refused <;> cases refused
          rfl

/-- So what is left behind is what the operation makes of the table, if anything. -/
theorem perform_eq (table : SymbolTable) (operation : TableOperation) :
    table.perform operation = (operation.attempt? table).getD table := by
  unfold perform TableOperation.attempt? Change.result
  cases ended : operation.change.run table with
  | ok value after => rfl
  | error refusal after => exact eq_of_refused operation ended

end SymbolTable

/-! ## The ledger -/

/-- A declaration of a variable. Its moment tells it from all others, also from one of the
same name and type. -/
structure Declaration where
  moment : Nat
  symbol : Symbol
deriving DecidableEq, Repr

/-- A scope that is open, with the declarations that were tried in it, the oldest first. -/
structure OpenScope where
  kind : ScopeKind
  declarations : List Declaration
deriving DecidableEq, Repr

namespace OpenScope

/-- The declaration that binds a name is the first one of it. -/
def declaration? (scope : OpenScope) (name : String) : Option Declaration :=
  scope.declarations.find? (·.symbol.name == name)

def add (scope : OpenScope) (declaration : Declaration) : OpenScope :=
  { scope with declarations := scope.declarations ++ [declaration] }

end OpenScope

/-- The variables of a history: its open scopes from the innermost outwards, and the
declarations whose bindings were marked as initialized. -/
structure Ledger where
  inner : OpenScope
  outer : List OpenScope
  marked : List Nat
  moment : Nat
deriving DecidableEq, Repr

namespace Ledger

def empty : Ledger := ⟨⟨.global, []⟩, [], [], 0⟩

def scopes (ledger : Ledger) : List OpenScope :=
  ledger.inner :: ledger.outer

def declarations (ledger : Ledger) : List Declaration :=
  ledger.scopes.flatMap OpenScope.declarations

/-- The declaration that a name stands for: the one in the innermost open scope that
declares the name. -/
def declaration? (ledger : Ledger) (name : String) : Option Declaration :=
  ledger.scopes.findSome? (·.declaration? name)

/-- The binding that a declaration has become. -/
def binding (ledger : Ledger) (declaration : Declaration) : Symbol :=
  { declaration.symbol with
    isInitialized :=
      declaration.symbol.isInitialized || ledger.marked.contains declaration.moment }

/-- One more operation: `enter` opens a scope, `exit` closes the innermost one unless it is
the last, a declaration is noted in the innermost scope, that of a parameter only in the
scope of a function, and a mark goes to the declaration that the name stands for. -/
def record (ledger : Ledger) (operation : TableOperation) : Ledger :=
  let after := { ledger with moment := ledger.moment + 1 }
  match operation with
  | .enterBlock => { after with inner := ⟨.block, []⟩, outer := ledger.scopes }
  | .enterFunction => { after with inner := ⟨.function, []⟩, outer := ledger.scopes }
  | .exit =>
      match ledger.outer with
      | [] => after
      | inner :: outer => { after with inner, outer }
  | .declare symbol => { after with inner := ledger.inner.add ⟨ledger.moment, symbol⟩ }
  | .declareParameter parameter =>
      if ledger.inner.kind = .function then
        { after with inner := ledger.inner.add ⟨ledger.moment, parameter.toSymbol⟩ }
      else after
  | .markInitialized name =>
      match ledger.declaration? name with
      | some declaration => { after with marked := declaration.moment :: ledger.marked }
      | none => after
  | .declareFunction _ => after

def ofHistory (history : List TableOperation) : Ledger :=
  history.foldl record empty

end Ledger

/-! ## Agreement -/

/-- A scope of the table binds each name to what has become of its declaration. -/
structure OpenScope.Tells (binding : Declaration → Symbol) (told : OpenScope) (scope : Scope) :
    Prop where
  kind : scope.kind = told.kind
  bindings : ∀ name, scope.find? name = (told.declaration? name).map binding

namespace OpenScope

theorem declaration?_add (scope : OpenScope) (declaration : Declaration) (name : String) :
    (scope.add declaration).declaration? name = (scope.declaration? name).or
      (if declaration.symbol.name = name then some declaration else none) := by
  simp [declaration?, add, List.find?_append, List.find?_singleton]

theorem mem_of_declaration? {scope : OpenScope} {name : String} {declaration : Declaration}
    (found : scope.declaration? name = some declaration) :
    declaration ∈ scope.declarations ∧ declaration.symbol.name = name :=
  ⟨List.mem_of_find?_eq_some found, by simpa using List.find?_some found⟩

theorem Tells.congr {binding other : Declaration → Symbol} {told : OpenScope} {scope : Scope}
    (tells : told.Tells binding scope)
    (same : ∀ declaration ∈ told.declarations, binding declaration = other declaration) :
    told.Tells other scope := by
  refine ⟨tells.kind, fun name => ?_⟩
  rw [tells.bindings name]
  cases found : told.declaration? name with
  | none => rfl
  | some declaration => simp [same declaration (mem_of_declaration? found).1]

theorem Tells.isSome_find? {binding : Declaration → Symbol} {told : OpenScope} {scope : Scope}
    (tells : told.Tells binding scope) (name : String) :
    (scope.find? name).isSome = (told.declaration? name).isSome := by
  rw [tells.bindings name, Option.isSome_map]

/-- A declaration of a name that the scope has already changes nothing. -/
theorem Tells.add_known {binding : Declaration → Symbol} {told : OpenScope} {scope : Scope}
    (tells : told.Tells binding scope) {declaration : Declaration}
    (known : (told.declaration? declaration.symbol.name).isSome) :
    (told.add declaration).Tells binding scope := by
  refine ⟨tells.kind, fun name => ?_⟩
  rw [tells.bindings name, declaration?_add]
  split
  · next same =>
      subst same
      rw [Option.or_of_isSome known]
  · rw [Option.or_none]

theorem Tells.add_fresh {binding : Declaration → Symbol} {told : OpenScope} {scope : Scope}
    (tells : told.Tells binding scope) {declaration : Declaration}
    (fresh : told.declaration? declaration.symbol.name = none)
    (new : binding declaration = declaration.symbol) :
    (told.add declaration).Tells binding
      { scope with symbols := declaration.symbol :: scope.symbols } := by
  refine ⟨tells.kind, fun name => ?_⟩
  have others := tells.bindings name
  unfold Scope.find? at others ⊢
  rw [List.find?_cons, declaration?_add, others]
  by_cases same : declaration.symbol.name = name
  · subst same
    simp [fresh, new]
  · have different : (declaration.symbol.name == name) = false := beq_eq_false_iff_ne.2 same
    simp [different, same]

/-- The bindings of a ledger after one more declaration was marked. -/
structure Raises (declaration : Declaration) (binding raised : Declaration → Symbol) : Prop where
  names : ∀ other, (binding other).name = other.symbol.name
  marked : raised declaration = { binding declaration with isInitialized := true }
  others : ∀ other, other.moment ≠ declaration.moment → raised other = binding other

theorem Tells.mark {binding raised : Declaration → Symbol} {told : OpenScope} {scope : Scope}
    {declaration : Declaration} (tells : told.Tells binding scope)
    (raises : Raises declaration binding raised)
    (distinct : (told.declarations.map Declaration.moment).Nodup) {name : String}
    (found : told.declaration? name = some declaration) :
    told.Tells raised
      (scope.modify name fun symbol => { symbol with isInitialized := true }) := by
  refine ⟨tells.kind, fun other => ?_⟩
  rw [scope.find?_modify name other (by exact fun _ => rfl), tells.bindings other, Option.map_map]
  refine Option.map_congr fun later foundLater => ?_
  obtain ⟨member, named⟩ := mem_of_declaration? foundLater
  obtain ⟨memberFirst, namedFirst⟩ := mem_of_declaration? found
  have nameLater := (raises.names later).trans named
  dsimp only [Function.comp_apply]
  by_cases same : other = name
  · subst same
    rw [found] at foundLater
    cases foundLater
    rw [if_pos nameLater, raises.marked]
  · rw [if_neg (by rwa [nameLater]), raises.others later]
    intro moments
    have equal := List.inj_on_of_nodup_map distinct member memberFirst moments
    rw [equal, namedFirst] at named
    exact same named.symm

theorem forall₂_tells_congr {binding other : Declaration → Symbol} {told : List OpenScope}
    {scopes : List Scope} (tells : List.Forall₂ (Tells binding) told scopes)
    (same : ∀ declaration ∈ told.flatMap declarations, binding declaration = other declaration) :
    List.Forall₂ (Tells other) told scopes := by
  induction tells with
  | nil => exact .nil
  | cons head _ induction =>
      rw [List.flatMap_cons] at same
      exact .cons (head.congr fun declaration member =>
          same declaration (List.mem_append_left _ member))
        (induction fun declaration member => same declaration (List.mem_append_right _ member))

/-- A mark goes to the innermost scope that declares the name, and to no other one. -/
theorem forall₂_tells_mark {binding raised : Declaration → Symbol} {told : List OpenScope}
    {scopes : List Scope} {declaration : Declaration}
    (tells : List.Forall₂ (Tells binding) told scopes)
    (raises : Raises declaration binding raised)
    (distinct : ((told.flatMap declarations).map Declaration.moment).Nodup) {name : String}
    (found : told.findSome? (·.declaration? name) = some declaration) :
    List.Forall₂ (Tells raised) told
      (SymbolTable.modifyScopes name (fun symbol => { symbol with isInitialized := true })
        scopes) := by
  induction tells with
  | nil => cases found
  | @cons head scope rest _ tells tellsRest induction =>
      rw [List.flatMap_cons, List.map_append, List.nodup_append'] at distinct
      obtain ⟨distinctHead, distinctRest, disjoint⟩ := distinct
      rw [List.findSome?_cons] at found
      unfold SymbolTable.modifyScopes
      rw [tells.bindings name]
      cases declared : head.declaration? name with
      | some first =>
          rw [declared] at found
          cases found
          have member := (mem_of_declaration? declared).1
          refine .cons (tells.mark raises distinctHead declared)
            (forall₂_tells_congr tellsRest fun other elsewhere => (raises.others other ?_).symm)
          intro same
          exact disjoint (List.mem_map_of_mem member)
            (same ▸ List.mem_map_of_mem elsewhere)
      | none =>
          rw [declared] at found
          refine .cons (tells.congr fun other here => (raises.others other ?_).symm)
            (induction distinctRest found)
          intro same
          obtain ⟨scope, memberScope, foundIn⟩ := List.exists_of_findSome?_eq_some found
          have member := List.mem_flatMap_of_mem memberScope (mem_of_declaration? foundIn).1
          exact disjoint (List.mem_map_of_mem here) (same ▸ List.mem_map_of_mem member)

/-- A mark of a name that no scope declares does nothing. -/
theorem modifyScopes_eq_of_tells {binding : Declaration → Symbol} {told : List OpenScope}
    {scopes : List Scope} (tells : List.Forall₂ (Tells binding) told scopes) {name : String}
    (absent : told.findSome? (·.declaration? name) = none) (change : Symbol → Symbol) :
    SymbolTable.modifyScopes name change scopes = scopes := by
  induction tells with
  | nil => rfl
  | cons tells _ induction =>
      rw [List.findSome?_cons] at absent
      unfold SymbolTable.modifyScopes
      rw [tells.bindings name]
      split at absent
      · cases absent
      · next undeclared => rw [undeclared, Option.map_none, induction absent]

end OpenScope

theorem SymbolTable.modify_scopes (table : SymbolTable) (name : String)
    (change : Symbol → Symbol) :
    (table.modify name change).scopes = modifyScopes name change table.scopes := by
  simp only [modify, scopes, modifyScopes]
  cases table.inner.find? name <;> rfl

theorem SymbolTable.depth_modify (table : SymbolTable) (name : String)
    (change : Symbol → Symbol) : (table.modify name change).depth = table.depth := by
  unfold modify
  cases table.inner.find? name <;> rfl

namespace Ledger

/-- The table binds the names as the ledger says, and the moments tell the declarations
apart. -/
structure Tells (ledger : Ledger) (table : SymbolTable) : Prop where
  scopes : List.Forall₂ (OpenScope.Tells ledger.binding) ledger.scopes table.scopes
  depth : table.depth = ledger.outer.length
  earlier : ∀ declaration ∈ ledger.declarations, declaration.moment < ledger.moment
  distinct : (ledger.declarations.map Declaration.moment).Nodup
  marks : ∀ moment ∈ ledger.marked, moment < ledger.moment

theorem Tells.lookup? {ledger : Ledger} {table : SymbolTable} (tells : ledger.Tells table)
    (name : String) : table.lookup? name = (ledger.declaration? name).map ledger.binding := by
  unfold SymbolTable.lookup? declaration?
  have agree := tells.scopes
  generalize ledger.scopes = told, table.scopes = bound at agree
  induction agree with
  | nil => rfl
  | @cons told scope _ _ head _ induction =>
      rw [List.findSome?_cons, List.findSome?_cons, head.bindings name]
      cases told.declaration? name with
      | none => exact induction
      | some declaration => rfl

theorem mem_of_declaration? {ledger : Ledger} {name : String} {declaration : Declaration}
    (found : ledger.declaration? name = some declaration) :
    declaration ∈ ledger.declarations ∧ declaration.symbol.name = name := by
  obtain ⟨scope, memberScope, foundIn⟩ := List.exists_of_findSome?_eq_some found
  obtain ⟨member, named⟩ := OpenScope.mem_of_declaration? foundIn
  exact ⟨List.mem_flatMap_of_mem memberScope member, named⟩

/-- The counter is at 0 where only the global scope is open, and then there is no scope to
leave. -/
theorem Tells.exit?_eq_none_iff {ledger : Ledger} {table : SymbolTable}
    (tells : ledger.Tells table) :
    (table.exit? = none ↔ table.depth = 0) ∧ (table.exit? = none ↔ ledger.outer = []) := by
  have lengths := tells.scopes.length_eq
  simp only [Ledger.scopes, SymbolTable.scopes, List.length_cons, Nat.add_right_cancel_iff]
    at lengths
  have stuck : table.exit? = none ↔ table.outer = [] := by
    rw [SymbolTable.exit?_eq]
    cases table.outer <;> simp
  rw [stuck, tells.depth, ← List.length_eq_zero_iff, ← lengths, Int.natCast_eq_zero,
    List.length_eq_zero_iff]
  exact ⟨.rfl, .rfl⟩

/-! ### One operation -/

theorem Tells.enter {ledger : Ledger} {table : SymbolTable} (tells : ledger.Tells table)
    (kind : ScopeKind) :
    Tells ⟨⟨kind, []⟩, ledger.scopes, ledger.marked, ledger.moment + 1⟩ (table.enter kind) where
  scopes := .cons ⟨rfl, fun _ => rfl⟩ tells.scopes
  depth := by simp [SymbolTable.enter, Ledger.scopes, tells.depth]
  earlier declaration member := by
    have before := tells.earlier declaration (by simpa [declarations, Ledger.scopes] using member)
    dsimp only
    omega
  distinct := by simpa [declarations, Ledger.scopes] using tells.distinct
  marks moment member := Nat.lt_succ_of_lt (tells.marks moment member)

theorem Tells.later {ledger : Ledger} {table : SymbolTable} (tells : ledger.Tells table) :
    Tells { ledger with moment := ledger.moment + 1 } table where
  scopes := tells.scopes
  depth := tells.depth
  earlier declaration member := Nat.lt_succ_of_lt (tells.earlier declaration member)
  distinct := tells.distinct
  marks moment member := Nat.lt_succ_of_lt (tells.marks moment member)

theorem Tells.leave {ledger : Ledger} {inner : OpenScope} {outer : List OpenScope}
    {table : SymbolTable} (tells : ledger.Tells table) (rest : ledger.outer = inner :: outer) :
    ∃ left, table.exit? = some left ∧
      Tells ⟨inner, outer, ledger.marked, ledger.moment + 1⟩ left := by
  have scopes := tells.scopes
  have distinct := tells.distinct
  have earlier := tells.earlier
  have depth := tells.depth
  simp only [declarations, Ledger.scopes, rest, List.length_cons] at scopes distinct earlier depth
  rcases table with ⟨_, _ | ⟨next, tail⟩, functions, counter⟩
  · cases scopes with
    | cons _ missing => cases missing
  · cases scopes with
    | cons _ scopes =>
        refine ⟨⟨next, tail, functions, counter - 1⟩, rfl, scopes, ?_, ?_, ?_,
          fun moment member => Nat.lt_succ_of_lt (tells.marks moment member)⟩
        · dsimp only at depth ⊢
          omega
        · intro declaration member
          exact Nat.lt_succ_of_lt (earlier declaration (List.mem_append_right _ member))
        · rw [List.flatMap_cons, List.map_append, List.nodup_append] at distinct
          exact distinct.2.1

/-- What is declared anew is no declaration that the ledger knows. -/
theorem Tells.unmarked {ledger : Ledger} {table : SymbolTable} (tells : ledger.Tells table)
    (symbol : Symbol) : ledger.binding ⟨ledger.moment, symbol⟩ = symbol := by
  have unmarked : ledger.moment ∉ ledger.marked := fun member =>
    Nat.lt_irrefl _ (tells.marks _ member)
  simp [binding, unmarked]

theorem mem_declarations_add (ledger : Ledger) (symbol : Symbol) (declaration : Declaration) :
    declaration ∈ Ledger.declarations { ledger with
        inner := ledger.inner.add ⟨ledger.moment, symbol⟩, moment := ledger.moment + 1 } ↔
      declaration ∈ ledger.declarations ∨ declaration = ⟨ledger.moment, symbol⟩ := by
  simp only [declarations, scopes, OpenScope.add, List.flatMap_cons, List.mem_append,
    List.mem_singleton]
  tauto

/-- A declaration that is tried is noted. It binds its name unless the scope does already. -/
theorem Tells.declare {ledger : Ledger} {table : SymbolTable} (tells : ledger.Tells table)
    (symbol : Symbol) :
    Tells { ledger with
        inner := ledger.inner.add ⟨ledger.moment, symbol⟩, moment := ledger.moment + 1 }
      ((table.declare symbol).toOption.getD table) := by
  have scopes := tells.scopes
  simp only [Ledger.scopes, SymbolTable.scopes, List.forall₂_cons] at scopes
  obtain ⟨head, rest⟩ := scopes
  refine ⟨?_, ?_, ?_, ?_, fun moment member => Nat.lt_succ_of_lt (tells.marks moment member)⟩
  · have known := head.isSome_find? symbol.name
    rw [SymbolTable.declare_eq]
    cases found : table.inner.find? symbol.name with
    | some older =>
        rw [found] at known
        exact .cons (head.add_known known.symm) rest
    | none =>
        rw [found] at known
        exact .cons (head.add_fresh (Option.not_isSome_iff_eq_none.1 (by simp [← known]))
          (tells.unmarked symbol)) rest
  · rw [SymbolTable.declare_eq]
    cases table.inner.find? symbol.name <;> exact tells.depth
  · intro declaration member
    rcases (mem_declarations_add ledger symbol declaration).1 member with older | rfl
    · exact Nat.lt_succ_of_lt (tells.earlier declaration older)
    · exact Nat.lt_succ_self _
  · have distinct := tells.distinct
    have absent : ledger.moment ∉ ledger.declarations.map Declaration.moment := by
      intro member
      obtain ⟨declaration, older, same⟩ := List.mem_map.1 member
      have before := tells.earlier declaration older
      omega
    simp only [Ledger.declarations, Ledger.scopes, OpenScope.add, List.flatMap_cons,
      List.map_append, List.map_cons, List.append_assoc, List.singleton_append] at distinct absent ⊢
    exact List.nodup_middle.2 (List.nodup_cons.2 ⟨absent, distinct⟩)

theorem raises_cons (ledger : Ledger) (declaration : Declaration) :
    OpenScope.Raises declaration ledger.binding
      (binding { ledger with marked := declaration.moment :: ledger.marked }) where
  names _ := rfl
  marked := by simp [binding]
  others other different := by simp [binding, different]

theorem Tells.mark {ledger : Ledger} {table : SymbolTable} (tells : ledger.Tells table)
    {name : String} {declaration : Declaration}
    (found : ledger.declaration? name = some declaration) :
    Tells { ledger with
        marked := declaration.moment :: ledger.marked, moment := ledger.moment + 1 }
      (table.markInitialized name) where
  scopes := by
    rw [SymbolTable.markInitialized, SymbolTable.modify_scopes]
    exact OpenScope.forall₂_tells_mark tells.scopes (ledger.raises_cons declaration)
      tells.distinct found
  depth := (table.depth_modify name _).trans tells.depth
  earlier other member := Nat.lt_succ_of_lt (tells.earlier other member)
  distinct := tells.distinct
  marks moment member := by
    rcases List.mem_cons.1 member with rfl | older
    · exact Nat.lt_succ_of_lt (tells.earlier declaration (mem_of_declaration? found).1)
    · exact Nat.lt_succ_of_lt (tells.marks moment older)

theorem Tells.mark_absent {ledger : Ledger} {table : SymbolTable} (tells : ledger.Tells table)
    {name : String} (absent : ledger.declaration? name = none) :
    Tells { ledger with moment := ledger.moment + 1 } (table.markInitialized name) := by
  have same : (table.markInitialized name).scopes = table.scopes := by
    rw [SymbolTable.markInitialized, SymbolTable.modify_scopes]
    exact OpenScope.modifyScopes_eq_of_tells tells.scopes absent _
  exact { tells.later with
    scopes := same ▸ tells.scopes
    depth := (table.depth_modify name _).trans tells.depth }

/-- The table and the ledger go on alike. -/
theorem Tells.perform {ledger : Ledger} {table : SymbolTable} (tells : ledger.Tells table)
    (operation : TableOperation) : (ledger.record operation).Tells (table.perform operation) := by
  rw [SymbolTable.perform_eq]
  cases operation with
  | enterBlock => exact tells.enter .block
  | enterFunction => exact tells.enter .function
  | exit =>
      change (ledger.record .exit).Tells (table.exit?.getD table)
      unfold record
      dsimp only
      split
      · next last =>
          rw [tells.exit?_eq_none_iff.2.mpr last]
          exact tells.later
      · next inner outer rest =>
          obtain ⟨left, leaves, tells⟩ := tells.leave rest
          rw [leaves]
          exact tells
  | declare symbol => exact tells.declare symbol
  | declareParameter parameter =>
      have kind : table.inner.kind = ledger.inner.kind := by
        have scopes := tells.scopes
        simp only [Ledger.scopes, SymbolTable.scopes, List.forall₂_cons] at scopes
        exact scopes.1.kind
      change (ledger.record (.declareParameter parameter)).Tells
        ((table.declareParameter parameter).toOption.getD table)
      rw [SymbolTable.declareParameter_eq, kind]
      unfold record
      dsimp only
      split
      · exact tells.declare parameter.toSymbol
      · exact tells.later
  | markInitialized name =>
      unfold record
      dsimp only
      split
      · next declaration found => exact tells.mark found
      · next absent => exact tells.mark_absent absent
  | declareFunction signature =>
      cases signature with
      | none => exact tells.later
      | some signature =>
          change Tells _ ((table.declareFunction (some signature)).toOption.getD table)
          rw [SymbolTable.declareFunction_eq]
          cases table.function? signature.name with
          | some older => exact tells.later
          | none => exact { tells.later with }

/-- After every history the table binds what the ledger says. -/
theorem tells_ofHistory (history : List TableOperation) :
    (ofHistory history).Tells (SymbolTable.ofHistory history) := by
  induction history using List.reverseRecOn with
  | nil => exact ⟨.cons ⟨rfl, fun _ => rfl⟩ .nil, rfl, by simp [ofHistory, empty, declarations, scopes],
      by simp [ofHistory, empty, declarations, scopes], by simp [ofHistory, empty]⟩
  | append_singleton history operation induction =>
      simp only [ofHistory, SymbolTable.ofHistory, List.foldl_concat]
      exact induction.perform operation

end Ledger

end ComptimeTyping
