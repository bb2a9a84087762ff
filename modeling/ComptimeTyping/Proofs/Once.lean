import Mathlib.Data.List.Pairwise
import ComptimeTyping.Proofs.Parts
import ComptimeTyping.Proofs.Typing

/-! Every expression of a tree is resolved once. Of two moments of an analysis one is part of
the other or one is over before the other begins, so a node that was resolved at both would
be noted twice. What fills the slot of a node is therefore what the node was resolved to. -/

namespace ComptimeTyping

open Analysis

/-! ## Notes of expressions -/

theorem State.GrowsTo.quiet {after final : State} (grows : after.GrowsTo final)
    (quiet : final.reports = []) : after.reports = [] :=
  List.prefix_nil.mp (quiet ▸ grows.reports)

theorem Analysis.exists_of_run_recorded {node : Node} {resolve : Analysis Operand}
    {before after : State} {operand : Operand}
    (run : (recorded node resolve).run before = .ok operand after) :
    ∃ middle, resolve.run before = .ok operand middle ∧ middle.GrowsTo after ∧
      after.types = (node.id, some operand.type) :: middle.types := by
  rcases run_bind_eq_ok.mp run with ⟨value, middle, resolved, rest⟩
  have grows := grows_of_ok _ rest
  cases rest
  exact ⟨middle, resolved, grows, rfl⟩

section Resolution

variable {ctx : Context} {target : Option Ty} {expr : Expr} {before after final : State}
  {operand : Operand}

/-- The type of an expression is noted when everything inside of it is done. -/
theorem Expr.noted_last (run : (expr.resolve ctx target).run before = .ok operand after) :
    ∃ middle : State, after.types = (expr.node.id, some operand.type) :: middle.types ∧
      before.GrowsTo middle ∧ ∀ callee ∈ expr.calls ctx target before, callee.EndsBy middle := by
  cases expr.visits ctx target before with
  | missing stops => exact absurd run stops
  | recorded same visits =>
      rw [same] at run
      rcases exists_of_run_recorded run with ⟨middle, resolved, _, noted⟩
      exact ⟨middle, noted, grows_of_ok _ resolved, visits.ended resolved⟩

/-- An expression that is resolved has its type noted. -/
theorem Expr.noted_of_resolve
    (run : (expr.resolve ctx target).run before = .ok operand after) :
    after.Noted expr.node operand.type := by
  rcases Expr.noted_last run with ⟨middle, noted, _⟩
  unfold State.Noted
  rw [noted]
  exact List.mem_cons_self

theorem Moment.EndsBy.exists_operand
    (ends : Moment.EndsBy ⟨.expr ctx target expr, before⟩ final) :
    ∃ operand after, (expr.resolve ctx target).run before = .ok operand after ∧
      after.GrowsTo final := by
  rcases ends with ⟨after, run, grows⟩
  rcases run_discard_eq_ok.mp run with ⟨operand, resolved⟩
  exact ⟨operand, after, resolved, grows⟩

theorem Moment.EndsBy.id_mem (ends : Moment.EndsBy ⟨.expr ctx target expr, before⟩ final) :
    expr.node.id ∈ final.types.map Prod.fst := by
  rcases ends.exists_operand with ⟨operand, after, run, grows⟩
  exact List.mem_map_of_mem ((Expr.noted_of_resolve run).mono grows)

end Resolution

/-! ## Moments of one analysis -/

namespace Moment

/-- What is done at one moment is part, and not all, of what is done at another one. -/
def Contains (outer inner : Moment) : Prop :=
  ∃ callee ∈ outer.calls, callee.Reaches inner

/-- Two moments are the same, or one is over when the other begins. -/
def Apart (left right : Moment) : Prop :=
  left = right ∨ left.EndsBy right.state ∨ right.EndsBy left.state

instance : Std.Symm Apart where
  symm _ _ apart := apart.imp Eq.symm Or.symm

theorem Reaches.eq_or_contains {outer inner : Moment} (reaches : outer.Reaches inner) :
    outer = inner ∨ outer.Contains inner := by
  rcases Relation.ReflTransGen.cases_head reaches with same | ⟨callee, called, rest⟩
  · exact .inl same
  · exact .inr ⟨callee, called, rest⟩

theorem EndsBy.reaches_state {first second middle : Moment}
    (ends : first.EndsBy second.state) (reaches : second.Reaches middle) :
    first.EndsBy middle.state :=
  ends.mono reaches.grows

/-- Two moments are the same, one is part of the other, or one is over when the other
begins. -/
theorem EndsBy.cases {root first second : Moment} {after : State} (ends : root.EndsBy after)
    (reachesFirst : root.Reaches first) (reachesSecond : root.Reaches second) :
    first = second ∨ (first.Contains second ∨ first.EndsBy second.state) ∨
      (second.Contains first ∨ second.EndsBy first.state) := by
  induction reachesFirst using Relation.ReflTransGen.head_induction_on generalizing after with
  | refl =>
      rcases reachesSecond.eq_or_contains with same | contains
      · exact .inl same
      · exact .inr (.inl (.inl contains))
  | @head caller callee called rest induction =>
      rcases reachesSecond.eq_or_contains with rfl | ⟨other, otherCalled, otherRest⟩
      · exact .inr (.inr (.inl ⟨callee, called, rest⟩))
      rcases ends with ⟨ended, run, grows⟩
      rcases caller.visits_calls with ⟨_, visits⟩
      rcases visits.ordered run with ⟨_, ordered⟩
      have apart : caller.calls.Pairwise Apart := ordered.imp fun earlier => .inr (.inl earlier)
      rcases apart.forall_of_forall (fun _ _ => .inl rfl) called otherCalled with
        rfl | here | there
      · exact induction (visits.ended run callee called) otherRest
      · exact .inr (.inl (.inr ((here.reaches rest).reaches_state otherRest)))
      · exact .inr (.inr (.inr ((there.reaches otherRest).reaches_state rest)))

end Moment

/-- Where no node is noted twice, no node is resolved twice. -/
theorem Moment.EndsBy.eq_of_id {root : Moment} {final : State} (ends : root.EndsBy final)
    (distinct : (final.types.map Prod.fst).Nodup) {ctx otherCtx : Context}
    {target otherTarget : Option Ty} {expr other : Expr} {before otherBefore : State}
    (reaches : root.Reaches ⟨.expr ctx target expr, before⟩)
    (otherReaches : root.Reaches ⟨.expr otherCtx otherTarget other, otherBefore⟩)
    (same : expr.node.id = other.node.id) :
    (⟨.expr ctx target expr, before⟩ : Moment) =
      ⟨.expr otherCtx otherTarget other, otherBefore⟩ := by
  -- A node that is noted is not noted again when what comes later is done.
  have never : ∀ {ctx target expr before otherCtx otherTarget other otherBefore},
      root.Reaches ⟨.expr ctx target expr, before⟩ → expr.node.id = other.node.id →
      ¬(Moment.Contains ⟨.expr ctx target expr, before⟩
          ⟨.expr otherCtx otherTarget other, otherBefore⟩ ∨
        Moment.EndsBy ⟨.expr otherCtx otherTarget other, otherBefore⟩ before) := by
    intro ctx target expr before otherCtx otherTarget other otherBefore reaches same earlier
    rcases (ends.reaches reaches).exists_operand with ⟨operand, after, run, grows⟩
    rcases Expr.noted_last run with ⟨middle, noted, begun, called⟩
    have ended : Moment.EndsBy ⟨.expr otherCtx otherTarget other, otherBefore⟩ middle := by
      rcases earlier with ⟨callee, member, inside⟩ | ended
      · exact (called callee member).reaches inside
      · exact ended.mono begun
    have once := distinct.sublist (grows.types.sublist.map Prod.fst)
    rw [noted, List.map_cons, List.nodup_cons, same] at once
    exact once.1 ended.id_mem
  rcases ends.cases reaches otherReaches with equal | (inside | ended) | (inside | ended)
  · exact equal
  · exact absurd (.inl inside) (never reaches same)
  · exact absurd (.inr ended) (never otherReaches same.symm)
  · exact absurd (.inl inside) (never otherReaches same.symm)
  · exact absurd (.inr ended) (never reaches same)

/-! ## Programs -/

namespace Program

variable {policy : BranchPolicy} {width : PointerWidth} {program : Program} {state : State}

/-- In a tree no node is noted twice. -/
theorem nodup_types
    (run : (program.analyze (.start policy width) .full).run (.ofTable .empty)
      = .ok () state)
    (tree : (program.nodes.map Occurrence.id).Nodup) : (state.types.map Prod.fst).Nodup := by
  rcases (types_of_analyze run).1 with ⟨chosen, permutation, sublist⟩
  exact permutation.nodup_iff.mp (tree.sublist sublist)

/-- What an expression was resolved to is what is noted in the end. -/
theorem type_of_resolve
    (run : (program.analyze (.start policy width) .full).run (.ofTable .empty)
      = .ok () state)
    (tree : (program.nodes.map Occurrence.id).Nodup) {ctx : Context} {target : Option Ty}
    {expr : Expr} {before after : State} {operand : Operand} {type : Ty}
    (resolved : (expr.resolve ctx target).run before = .ok operand after)
    (grows : after.GrowsTo state) (noted : state.type? expr.node.id = some (some type)) :
    operand.type = type := by
  have found := State.type?_eq_some_of_mem (nodup_types run tree)
    ((Expr.noted_of_resolve resolved).mono grows)
  rw [found] at noted
  cases noted
  rfl

/-- All that an analysis does is part of what it does at one moment. -/
theorem exists_root
    (run : (program.analyze (.start policy width) .full).run (.ofTable .empty)
      = .ok () state) :
    ∃ root : Moment, root.EndsBy state ∧
      ∀ moment, program.Meets (.start policy width) .full moment → root.Reaches moment := by
  rcases run_bind_eq_ok.mp run with ⟨_, middle, declared, analyzed⟩
  refine ⟨⟨.statements (.start policy width) program.statements, middle⟩,
    ⟨state, analyzed, .refl state⟩, ?_⟩
  rintro moment ⟨first, called, reaches⟩
  have calls : program.calls (.start policy width) .full =
      [⟨.statements (.start policy width) program.statements, middle⟩] := by
    change program.statements.declareFunctions.leading (.ofTable .empty)
      (fun _ middle => [⟨.statements (.start policy width) program.statements, middle⟩]) = _
    unfold Analysis.leading
    rw [declared]
  rw [calls, List.mem_singleton] at called
  rwa [called] at reaches

/-- In a tree no expression is resolved at two moments. -/
theorem eq_of_meets
    (run : (program.analyze (.start policy width) .full).run (.ofTable .empty)
      = .ok () state)
    (tree : (program.nodes.map Occurrence.id).Nodup) {ctx otherCtx : Context}
    {target otherTarget : Option Ty} {expr other : Expr} {before otherBefore : State}
    (meets : program.Meets (.start policy width) .full ⟨.expr ctx target expr, before⟩)
    (otherMeets : program.Meets (.start policy width) .full
      ⟨.expr otherCtx otherTarget other, otherBefore⟩)
    (same : expr.node.id = other.node.id) :
    ctx = otherCtx ∧ target = otherTarget ∧ expr = other ∧ before = otherBefore := by
  rcases exists_root run with ⟨root, ends, reaches⟩
  cases ends.eq_of_id (nodup_types run tree) (reaches _ meets) (reaches _ otherMeets) same
  exact ⟨rfl, rfl, rfl, rfl⟩

/-- A slot is filled by what an expression was resolved to, for the type that the slot asks
for. -/
theorem supplied_of_slot
    (run : (program.analyze (.start policy width) .full).run (.ofTable .empty)
      = .ok () state)
    {id : Nat} {slot : Ty} (found : state.slot? id = some slot) :
    ∃ ctx target expr before operand after,
      program.Meets (.start policy width) .full ⟨.expr ctx (some target) expr, before⟩ ∧
      (expr.resolve ctx (some target)).run before = .ok operand after ∧
      expr.node.id = id ∧ Resolved.Fills ⟨expr.node, operand⟩ ctx.width target slot state := by
  have member : (id, slot) ∈ state.slots := by
    rcases List.lookup_eq_some_iff.mp found with ⟨earlier, later, equal, _⟩
    rw [equal]
    simp
  rcases (program.visits _).supplied run _ member with older | ⟨first, called, supplies⟩
  · cases older
  rcases supplies with ⟨source, width, target, provides, rfl, fills⟩
  rcases provides with ⟨ctx, expr, before, after, reaches, resolved, node, rfl⟩
  rcases source with ⟨_, operand⟩
  cases node
  exact ⟨ctx, target, expr, before, operand, after, ⟨first, called, reaches⟩, resolved, rfl,
    fills⟩

end Program

end ComptimeTyping
