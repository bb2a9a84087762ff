import ComptimeTyping.Symbol.Basic

/-! The symbol table: a stack of scopes for variables and one namespace for
functions. -/

namespace ComptimeTyping

inductive ScopeKind where
  | global
  | function
  | block
deriving DecidableEq, Repr

def ScopeKind.name : ScopeKind → String
  | .global => "global"
  | .function => "function"
  | .block => "block"

/-- One scope. A name is bound at most once in it. -/
structure Scope where
  kind : ScopeKind
  symbols : List Symbol
deriving DecidableEq, Repr

namespace Scope

def empty (kind : ScopeKind) : Scope := ⟨kind, []⟩

def find? (scope : Scope) (name : String) : Option Symbol :=
  scope.symbols.find? (·.name == name)

/-- Change the binding of a name in place. -/
def modify (scope : Scope) (name : String) (change : Symbol → Symbol) : Scope :=
  { scope with
    symbols := scope.symbols.map fun symbol =>
      if symbol.name = name then change symbol else symbol }

end Scope

/-- The scopes from the innermost outwards. The last one is always there. -/
structure SymbolTable where
  inner : Scope
  outer : List Scope
  functions : List Signature
  /-- Counts up when a scope is entered and down when one is left. -/
  depth : Int
deriving DecidableEq, Repr

namespace SymbolTable

/-- Why a change is refused. -/
inductive Refusal where
  | noScope
  | alreadyDeclared (name : String)
  | functionAlreadyDeclared (name : String)
  | parameterOutsideFunction (name : String) (kind : ScopeKind)
  | noSignature
deriving DecidableEq, Repr

namespace Refusal

def message : Refusal → String
  | .noScope => "no scope to exit"
  | .alreadyDeclared name => name ++ ": already declared in this scope"
  | .functionAlreadyDeclared name => "function " ++ name ++ ": already declared in this scope"
  | .parameterOutsideFunction name kind =>
      "parameter " ++ name ++ " declared in a " ++ kind.name ++ " scope"
  | .noSignature => "nil function signature"

def isDuplicate : Refusal → Bool
  | .alreadyDeclared _ => true
  | .functionAlreadyDeclared _ => true
  | _ => false

end Refusal

/-- Only the global scope, and it is empty. -/
def empty : SymbolTable := ⟨Scope.empty .global, [], [], 0⟩

/-! ## Scopes -/

def scopes (table : SymbolTable) : List Scope :=
  table.inner :: table.outer

/-! ## Variables -/

def lookup? (table : SymbolTable) (name : String) : Option Symbol :=
  table.scopes.findSome? (·.find? name)

/-- The parameter that a name stands for. -/
def parameter? (table : SymbolTable) (name : String) : Option Parameter :=
  match table.lookup? name with
  | some symbol =>
      if symbol.isParameter then some ⟨symbol.name, symbol.type, symbol.isMutable⟩ else none
  | none => none

/-- Change the nearest binding of a name. -/
def modifyScopes (name : String) (change : Symbol → Symbol) : List Scope → List Scope
  | [] => []
  | scope :: outer =>
      match scope.find? name with
      | some _ => scope.modify name change :: outer
      | none => scope :: modifyScopes name change outer

def modify (table : SymbolTable) (name : String) (change : Symbol → Symbol) : SymbolTable :=
  match table.inner.find? name with
  | some _ => { table with inner := table.inner.modify name change }
  | none => { table with outer := modifyScopes name change table.outer }

def markInitialized (table : SymbolTable) (name : String) : SymbolTable :=
  table.modify name fun symbol => { symbol with isInitialized := true }

/-! ## Functions -/

def function? (table : SymbolTable) (name : String) : Option Signature :=
  table.functions.find? (·.name == name)

/-! ## Changes

A change may be refused. Either way it leaves a table. -/

abbrev Change := EStateM Refusal SymbolTable Unit

namespace Change

/-- Leave the innermost scope. The global scope cannot be left. -/
def exit : Change := do
  let table ← get
  match table.outer with
  | [] => throw .noScope
  | inner :: outer => set { table with inner, outer, depth := table.depth - 1 }

/-- Bind a name in the innermost scope. -/
def declare (symbol : Symbol) : Change := do
  let table ← get
  if (table.inner.find? symbol.name).isSome then throw (.alreadyDeclared symbol.name)
  set { table with inner := { table.inner with symbols := symbol :: table.inner.symbols } }

/-- Bind a parameter. Only the scope of a function has parameters. -/
def declareParameter (parameter : Parameter) : Change := do
  let table ← get
  if table.inner.kind ≠ .function then
    throw (.parameterOutsideFunction parameter.name table.inner.kind)
  declare parameter.toSymbol

def declareFunction : Option Signature → Change
  | none => throw .noSignature
  | some signature => do
      let table ← get
      if (table.function? signature.name).isSome then
        throw (.functionAlreadyDeclared signature.name)
      set { table with functions := signature :: table.functions }

/-- The table that a change leaves, if it is not refused. -/
def result (change : Change) (table : SymbolTable) : Except Refusal SymbolTable :=
  match change.run table with
  | .ok _ after => .ok after
  | .error refusal _ => .error refusal

end Change

def enter (table : SymbolTable) (kind : ScopeKind) : SymbolTable :=
  { table with inner := Scope.empty kind, outer := table.scopes, depth := table.depth + 1 }

def exit? (table : SymbolTable) : Option SymbolTable :=
  (Change.exit.result table).toOption

/-- Leave the innermost scope if there is one to leave. -/
def exit (table : SymbolTable) : SymbolTable :=
  table.exit?.getD table

def declare (table : SymbolTable) (symbol : Symbol) : Except Refusal SymbolTable :=
  (Change.declare symbol).result table

def declareParameter (table : SymbolTable) (parameter : Parameter) :
    Except Refusal SymbolTable :=
  (Change.declareParameter parameter).result table

def declareFunction (table : SymbolTable) (signature : Option Signature) :
    Except Refusal SymbolTable :=
  (Change.declareFunction signature).result table

section Results

variable (table : SymbolTable)

theorem run_exit :
    Change.exit.run table =
      match table.outer with
      | [] => .error .noScope table
      | inner :: outer => .ok () { table with inner, outer, depth := table.depth - 1 } := by
  rcases table with ⟨inner, _ | ⟨next, outer⟩, functions, depth⟩ <;> rfl

theorem run_declare (symbol : Symbol) :
    (Change.declare symbol).run table =
      match table.inner.find? symbol.name with
      | some _ => .error (.alreadyDeclared symbol.name) table
      | none =>
          .ok () { table with
            inner := { table.inner with symbols := symbol :: table.inner.symbols } } := by
  cases found : table.inner.find? symbol.name with
  | none => simp [Change.declare, found]
  | some earlier => simp [Change.declare, found]

theorem run_declareParameter (parameter : Parameter) :
    (Change.declareParameter parameter).run table =
      if table.inner.kind = .function then (Change.declare parameter.toSymbol).run table
      else .error (.parameterOutsideFunction parameter.name table.inner.kind) table := by
  by_cases inside : table.inner.kind = .function
  · simp [Change.declareParameter, inside]
  · simp [Change.declareParameter, inside]

theorem run_declareFunction (signature : Signature) :
    (Change.declareFunction (some signature)).run table =
      match table.function? signature.name with
      | some _ => .error (.functionAlreadyDeclared signature.name) table
      | none => .ok () { table with functions := signature :: table.functions } := by
  cases found : table.function? signature.name with
  | none => simp [Change.declareFunction, found]
  | some earlier => simp [Change.declareFunction, found]

theorem exit?_eq :
    table.exit? =
      match table.outer with
      | [] => none
      | inner :: outer => some { table with inner, outer, depth := table.depth - 1 } := by
  unfold exit? Change.result
  rw [run_exit]
  cases table.outer <;> rfl

theorem declare_eq (symbol : Symbol) :
    table.declare symbol =
      match table.inner.find? symbol.name with
      | some _ => .error (.alreadyDeclared symbol.name)
      | none =>
          .ok { table with
            inner := { table.inner with symbols := symbol :: table.inner.symbols } } := by
  unfold declare Change.result
  rw [run_declare]
  cases table.inner.find? symbol.name <;> rfl

theorem declareParameter_eq (parameter : Parameter) :
    table.declareParameter parameter =
      if table.inner.kind = .function then table.declare parameter.toSymbol
      else .error (.parameterOutsideFunction parameter.name table.inner.kind) := by
  unfold declareParameter Change.result
  rw [run_declareParameter]
  by_cases inside : table.inner.kind = .function
  · rw [if_pos inside, if_pos inside]
    rfl
  · rw [if_neg inside, if_neg inside]

theorem declareFunction_eq (signature : Signature) :
    table.declareFunction (some signature) =
      match table.function? signature.name with
      | some _ => .error (.functionAlreadyDeclared signature.name)
      | none => .ok { table with functions := signature :: table.functions } := by
  unfold declareFunction Change.result
  rw [run_declareFunction]
  cases table.function? signature.name <;> rfl

end Results

end SymbolTable

end ComptimeTyping
