import Mathlib.Data.List.Forall2
import Mathlib.Order.Defs.Unbundled
import ComptimeTyping.Symbol.Table

/-! What the operations of a symbol table leave alone. A scope is read as the map
from names to bindings that `Scope.find?` gives. -/

namespace ComptimeTyping

/-! ## Bindings and scopes -/

/-- A binding later on: the same one, except that it may have got its first value. -/
structure Symbol.KeptAs (before after : Symbol) : Prop where
  name : after.name = before.name
  type : after.type = before.type
  isMutable : after.isMutable = before.isMutable
  isParameter : after.isParameter = before.isParameter
  value : after.value = before.value
  elements : after.elements = before.elements
  bounds : after.bounds = before.bounds
  isInitialized : before.isInitialized = true → after.isInitialized = true

/-- A scope later on: every binding is still there, and there may be more. -/
structure Scope.ExtendedTo (before after : Scope) : Prop where
  kind : after.kind = before.kind
  bindings : ∀ name symbol, before.find? name = some symbol →
    ∃ later, after.find? name = some later ∧ symbol.KeptAs later

/-- A scope that has gained no binding. -/
structure Scope.KeptAs (before after : Scope) : Prop extends before.ExtendedTo after where
  closed : ∀ name, before.find? name = none → after.find? name = none

theorem Symbol.KeptAs.refl (symbol : Symbol) : symbol.KeptAs symbol :=
  ⟨rfl, rfl, rfl, rfl, rfl, rfl, rfl, id⟩

theorem Symbol.KeptAs.trans {before middle after : Symbol} (first : before.KeptAs middle)
    (second : middle.KeptAs after) : before.KeptAs after where
  name := second.name.trans first.name
  type := second.type.trans first.type
  isMutable := second.isMutable.trans first.isMutable
  isParameter := second.isParameter.trans first.isParameter
  value := second.value.trans first.value
  elements := second.elements.trans first.elements
  bounds := second.bounds.trans first.bounds
  isInitialized := second.isInitialized ∘ first.isInitialized

namespace Scope

theorem ExtendedTo.refl (scope : Scope) : scope.ExtendedTo scope :=
  ⟨rfl, fun _ symbol found => ⟨symbol, found, .refl symbol⟩⟩

theorem ExtendedTo.trans {before middle after : Scope} (first : before.ExtendedTo middle)
    (second : middle.ExtendedTo after) : before.ExtendedTo after := by
  refine ⟨second.kind.trans first.kind, ?_⟩
  intro name symbol found
  rcases first.bindings name symbol found with ⟨later, foundLater, kept⟩
  rcases second.bindings name later foundLater with ⟨last, foundLast, keptLast⟩
  exact ⟨last, foundLast, kept.trans keptLast⟩

theorem KeptAs.refl (scope : Scope) : scope.KeptAs scope :=
  ⟨.refl scope, fun _ absent => absent⟩

theorem KeptAs.trans {before middle after : Scope} (first : before.KeptAs middle)
    (second : middle.KeptAs after) : before.KeptAs after :=
  ⟨first.toExtendedTo.trans second.toExtendedTo,
    fun name absent => second.closed name (first.closed name absent)⟩

instance : IsPreorder Scope KeptAs where
  refl := .refl
  trans _ _ _ := .trans

theorem find?_modify (scope : Scope) (name other : String) {change : Symbol → Symbol}
    (named : ∀ symbol : Symbol, (change symbol).name = symbol.name) :
    (scope.modify name change).find? other = (scope.find? other).map fun symbol =>
      if symbol.name = name then change symbol else symbol := by
  unfold Scope.modify Scope.find?
  rw [List.find?_map]
  congr 2
  funext symbol
  simp only [Function.comp_apply]
  split
  · rw [named]
  · rfl

/-- Changing the binding of one name keeps all others, and that one if the change
keeps it. -/
theorem keptAs_modify (scope : Scope) (name : String) (change : Symbol → Symbol)
    (changed : ∀ symbol : Symbol, symbol.KeptAs (change symbol)) :
    scope.KeptAs (scope.modify name change) := by
  have found := fun other => scope.find?_modify name other fun symbol => (changed symbol).name
  refine ⟨⟨rfl, ?_⟩, ?_⟩
  · intro other symbol present
    rw [found, present]
    refine ⟨_, rfl, ?_⟩
    dsimp only
    split
    · exact changed symbol
    · exact .refl symbol
  · intro other absent
    rw [found, absent]
    rfl

/-- A new name leaves the older ones alone. -/
theorem extendedTo_cons (scope : Scope) (symbol : Symbol)
    (fresh : scope.find? symbol.name = none) :
    scope.ExtendedTo { scope with symbols := symbol :: scope.symbols } := by
  refine ⟨rfl, ?_⟩
  intro name older found
  have different : (symbol.name == name) = false := by
    rw [beq_eq_false_iff_ne]
    rintro rfl
    rw [fresh] at found
    cases found
  refine ⟨older, ?_, .refl older⟩
  unfold Scope.find? at found ⊢
  rw [List.find?_cons, different]
  exact found

end Scope

private theorem forall₂_keptAs_trans {before middle after : List Scope}
    (first : List.Forall₂ Scope.KeptAs before middle)
    (second : List.Forall₂ Scope.KeptAs middle after) :
    List.Forall₂ Scope.KeptAs before after := by
  induction first generalizing after with
  | nil =>
      cases second
      exact .nil
  | cons kept _ induction =>
      cases second with
      | cons keptLater rest => exact .cons (kept.trans keptLater) (induction rest)

/-! ## Tables -/

namespace SymbolTable

/-- A table later on, with the same scopes, no new binding and the same functions. -/
structure KeptAs (before after : SymbolTable) : Prop where
  scopes : List.Forall₂ Scope.KeptAs before.scopes after.scopes
  functions : after.functions = before.functions
  depth : after.depth = before.depth

/-- A table later on, with bindings that are new only in the innermost scope. -/
structure ExtendedTo (before after : SymbolTable) : Prop where
  inner : before.inner.ExtendedTo after.inner
  outer : List.Forall₂ Scope.KeptAs before.outer after.outer
  functions : after.functions = before.functions
  depth : after.depth = before.depth

/-- A table later on, with the same scopes, in which functions may be new. -/
structure RegisteredTo (before after : SymbolTable) : Prop where
  inner : after.inner = before.inner
  outer : after.outer = before.outer
  functions : ∀ name signature, before.function? name = some signature →
    after.function? name = some signature
  depth : after.depth = before.depth

/-- A table later on, in which both bindings of the innermost scope and functions
may be new. -/
structure GrownTo (before after : SymbolTable) : Prop where
  inner : before.inner.ExtendedTo after.inner
  outer : List.Forall₂ Scope.KeptAs before.outer after.outer
  functions : ∀ name signature, before.function? name = some signature →
    after.function? name = some signature
  depth : after.depth = before.depth

instance : IsPreorder SymbolTable KeptAs where
  refl _ := ⟨List.forall₂_refl _, rfl, rfl⟩
  trans _ _ _ first second :=
    ⟨forall₂_keptAs_trans first.scopes second.scopes,
      second.functions.trans first.functions, second.depth.trans first.depth⟩

instance : IsPreorder SymbolTable ExtendedTo where
  refl _ := ⟨.refl _, List.forall₂_refl _, rfl, rfl⟩
  trans _ _ _ first second :=
    ⟨first.inner.trans second.inner, forall₂_keptAs_trans first.outer second.outer,
      second.functions.trans first.functions, second.depth.trans first.depth⟩

instance : IsPreorder SymbolTable RegisteredTo where
  refl _ := ⟨rfl, rfl, fun _ _ => id, rfl⟩
  trans _ _ _ first second :=
    ⟨second.inner.trans first.inner, second.outer.trans first.outer,
      fun name signature => second.functions name signature ∘ first.functions name signature,
      second.depth.trans first.depth⟩

instance : IsPreorder SymbolTable GrownTo where
  refl _ := ⟨.refl _, List.forall₂_refl _, fun _ _ => id, rfl⟩
  trans _ _ _ first second :=
    ⟨first.inner.trans second.inner, forall₂_keptAs_trans first.outer second.outer,
      fun name signature => second.functions name signature ∘ first.functions name signature,
      second.depth.trans first.depth⟩

theorem KeptAs.extendedTo {before after : SymbolTable} (kept : before.KeptAs after) :
    before.ExtendedTo after := by
  cases kept.scopes with
  | cons inner outer => exact ⟨inner.toExtendedTo, outer, kept.functions, kept.depth⟩

theorem ExtendedTo.grownTo {before after : SymbolTable} (extended : before.ExtendedTo after) :
    before.GrownTo after := by
  refine ⟨extended.inner, extended.outer, ?_, extended.depth⟩
  intro name signature found
  unfold function? at found ⊢
  rw [extended.functions]
  exact found

theorem RegisteredTo.grownTo {before after : SymbolTable}
    (registered : before.RegisteredTo after) : before.GrownTo after := by
  refine ⟨?_, ?_, registered.functions, registered.depth⟩
  · rw [registered.inner]
    exact .refl _
  · rw [registered.outer]
    exact List.forall₂_refl _

/-! ## Operations -/

theorem extendedTo_of_declare {before after : SymbolTable} {symbol : Symbol}
    (declared : before.declare symbol = .ok after) : before.ExtendedTo after := by
  rw [declare_eq] at declared
  split at declared
  · cases declared
  · next fresh =>
      cases declared
      exact ⟨before.inner.extendedTo_cons symbol fresh, List.forall₂_refl _, rfl, rfl⟩

theorem extendedTo_of_declareParameter {before after : SymbolTable} {parameter : Parameter}
    (declared : before.declareParameter parameter = .ok after) : before.ExtendedTo after := by
  rw [declareParameter_eq] at declared
  split at declared
  · exact extendedTo_of_declare declared
  · cases declared

theorem registeredTo_of_declareFunction {before after : SymbolTable} {signature : Signature}
    (declared : before.declareFunction (some signature) = .ok after) :
    before.RegisteredTo after := by
  rw [declareFunction_eq] at declared
  split at declared
  · cases declared
  · next fresh =>
      cases declared
      refine ⟨rfl, rfl, ?_, rfl⟩
      intro name older found
      have different : (signature.name == name) = false := by
        rw [beq_eq_false_iff_ne]
        rintro rfl
        rw [fresh] at found
        cases found
      unfold function? at found ⊢
      rw [List.find?_cons, different]
      exact found

private theorem forall₂_keptAs_modifyScopes (name : String) (change : Symbol → Symbol)
    (changed : ∀ symbol : Symbol, symbol.KeptAs (change symbol)) (scopes : List Scope) :
    List.Forall₂ Scope.KeptAs scopes (modifyScopes name change scopes) := by
  induction scopes with
  | nil => exact .nil
  | cons scope outer induction =>
      unfold modifyScopes
      split
      · exact .cons (scope.keptAs_modify name change changed) (List.forall₂_refl _)
      · exact .cons (.refl scope) induction

theorem keptAs_markInitialized (table : SymbolTable) (name : String) :
    table.KeptAs (table.markInitialized name) := by
  have changed : ∀ symbol : Symbol, symbol.KeptAs { symbol with isInitialized := true } :=
    fun _ => ⟨rfl, rfl, rfl, rfl, rfl, rfl, rfl, fun _ => rfl⟩
  unfold markInitialized modify
  split
  · exact ⟨.cons (table.inner.keptAs_modify name _ changed) (List.forall₂_refl _), rfl, rfl⟩
  · exact ⟨.cons (.refl _) (forall₂_keptAs_modifyScopes name _ changed _), rfl, rfl⟩

/-- What happens inside of a scope is forgotten with it. -/
theorem keptAs_exit {table inside : SymbolTable} {kind : ScopeKind}
    (extended : (table.enter kind).ExtendedTo inside) : table.KeptAs inside.exit := by
  have outer : List.Forall₂ Scope.KeptAs (table.inner :: table.outer) inside.outer :=
    extended.outer
  rcases inside with ⟨inner, _ | ⟨next, rest⟩, functions, depth⟩
  · cases outer
  · refine ⟨outer, extended.functions, ?_⟩
    have counted : depth = table.depth + 1 := extended.depth
    subst counted
    exact Int.add_sub_cancel _ _

end SymbolTable

end ComptimeTyping
