import ComptimeTyping.Proofs.Clean
import ComptimeTyping.Proofs.Notes

/-! Programs that are analyzed from an empty table. Every expression gets a type; where
nothing is reported, every type is known and every slot is filled exactly. -/

namespace ComptimeTyping

open Analysis

/-! ## A sample -/

namespace Sample

def node (id : Nat) : Node := ⟨id, .absent⟩

def name (id : Nat) (text : String) : Ident := ⟨node id, text⟩

/-- The branch `-> literal`. -/
def branch (id : Nat) (literal : String) : Stmts :=
  .ofList [.yielding (node id) (.int (node (id + 1)) literal)]

/-- A function that returns its parameter, an array of wildcard length with a converted
call in it, and a conditional that is asked for a type. -/
def program : Program where
  file := ""
  statements := .ofList [
    .function (node 0) (some (name 1 "same"))
      [some ⟨some (name 2 "it"), .named (node 3) "i32", false⟩] (.named (node 4) "i32")
      (.block (node 5) (.ofList [.returning (node 6) (.ident (name 7 "it"))])),
    .declaration (node 8) true (some (name 9 "items"))
      (.array (node 10) [some ⟨.nowhere, none⟩] (.named (node 11) "i64"))
      (.array (node 12) (.ofList [
        .int (node 13) "1",
        .conversion (node 14)
          (.call (node 15) (some (name 16 "same")) (.ofList [.int (node 17) "2"]))
          (.named (node 18) "i64")])),
    .declaration (node 19) false (some (name 20 "chosen")) (.named (node 21) "usize")
      (.conditional (node 22) (.bool (node 23) true) (.block (node 24) (branch 25 "3"))
        (.block (node 27) (branch 28 "4")))]

/-- What the analysis of the sample leaves. -/
def state : State :=
  ((program.analyze (.start .strict .bits32) .full).run (.ofTable .empty)).state

end Sample

/-! ## Noted types -/

variable {policy : BranchPolicy} {width : PointerWidth} {program : Program} {state : State}

theorem Context.isNested_start (policy : BranchPolicy) (width : PointerWidth) :
    (Context.start policy width).isNested = false := rfl

/-- What is noted in a run from an empty table belongs to the nodes of the program. -/
theorem Program.types_of_analyze
    (run : (program.analyze (.start policy width) .full).run (.ofTable .empty)
      = .ok () state) :
    (state.types.map Prod.fst).Subperm (program.nodes.map Occurrence.id) ∧
      ∀ node ∈ program.nodes, node.Needed (state.reports = []) →
        node.id ∈ state.types.map Prod.fst := by
  have notes := program.analyze_notes _ (Context.isNested_start policy width)
  rcases notes.run run with ⟨added, types, within, complete⟩
  have all : state.types = added := types.trans (List.append_nil added)
  rw [all]
  exact ⟨within, complete⟩

theorem State.exists_type?_of_mem {id : Nat} (noted : id ∈ state.types.map Prod.fst) :
    ∃ type, state.type? id = some type := by
  rcases List.mem_map.mp noted with ⟨entry, member, rfl⟩
  apply Option.isSome_iff_exists.mp
  unfold State.type?
  rw [List.lookup_isSome_iff]
  exact ⟨entry, member, beq_self_eq_true _⟩

/-- An analysis that ends has noted a type for every expression. Where nothing is
reported, every declared name has one too, and no type of a node, of a binding, of a
parameter or of a result is unknown. -/
theorem Program.typed_of_analyze
    (run : (program.analyze (.start policy width) .full).run (.ofTable .empty)
      = .ok () state) :
    (∀ node ∈ program.nodes, node.role = .expression →
      ∃ type, state.type? node.id = some type) ∧
    (state.reports = [] →
      (∀ node ∈ program.nodes, node.role = .declared →
        ∃ type, state.type? node.id = some type) ∧
      (∀ id type, state.type? id = some type →
        ∃ known : Ty, type = some known ∧ known.elementTag ≠ .unknown) ∧
      (∀ scope ∈ state.table.scopes, ∀ symbol ∈ scope.symbols,
        ∃ known : Ty, symbol.type = some known ∧ known.elementTag ≠ .unknown) ∧
      (∀ signature ∈ state.table.functions,
        (∀ parameter ∈ signature.parameters,
          ∃ known : Ty, parameter.type = some known ∧ known.elementTag ≠ .unknown) ∧
        signature.resultType.elementTag ≠ .unknown)) := by
  rcases types_of_analyze run with ⟨_, complete⟩
  refine ⟨?_, ?_⟩
  · intro node member isExpression
    exact State.exists_type?_of_mem (complete node member (.expression isExpression))
  · intro quiet
    have holds := holds_of_analyze Discipline.lawful_clean run quiet
    refine ⟨?_, ?_, ?_, ?_⟩
    · intro node member isDeclared
      exact State.exists_type?_of_mem (complete node member (.declared isDeclared quiet))
    · intro id type found
      rcases holds.types _ (State.mem_types_of_type? found) with ⟨known, same, settled⟩
      exact ⟨known, same, settled.known⟩
    · intro scope inScopes symbol inScope
      rcases holds.symbols scope inScopes symbol inScope with ⟨known, settled⟩
      exact ⟨known, settled.typed, settled.settled.known⟩
    · intro signature registered
      have settled := holds.functions signature registered
      refine ⟨?_, settled.result.known⟩
      intro parameter member
      rcases settled.parameters parameter member with ⟨known, typed, concrete⟩
      exact ⟨known, typed, concrete.known⟩

theorem Program.typed_of_analyze_sample :
    (Sample.program.analyze (.start .strict .bits32) .full).run (.ofTable .empty)
      = .ok () Sample.state ∧
    ⟨29, .expression⟩ ∈ Sample.program.nodes ∧ Sample.state.reports = [] ∧
    (∃ type, Sample.state.type? 29 = some type) ∧
    (∀ id type, Sample.state.type? id = some type →
      ∃ known : Ty, type = some known ∧ known.elementTag ≠ .unknown) := by
  have run : (Sample.program.analyze (.start .strict .bits32) .full).run (.ofTable .empty)
      = .ok () Sample.state := rfl
  have typed := typed_of_analyze run
  have member : ⟨29, .expression⟩ ∈ Sample.program.nodes := by decide
  exact ⟨run, member, rfl, typed.1 _ member rfl, (typed.2 rfl).2.1⟩

/-! ## Slots -/

/-- Where nothing is reported and no node occurs twice, a slot is filled exactly: its type
is not comptime, the value assigned to it gives that very type, a value that is concrete
already has it, and an array keeps all of its axes. -/
theorem Program.filled_of_slot
    (run : (program.analyze (.start policy width) .full).run (.ofTable .empty)
      = .ok () state)
    (quiet : state.reports = []) (tree : (program.nodes.map Occurrence.id).Nodup)
    {id : Nat} {slot : Ty} (found : state.slot? id = some slot) :
    ∃ source, state.type? id = some (some source) ∧ slot.isComptime = false ∧
      source.assign slot false = .ok slot ∧
      (source.isComptime = false → slot = source) ∧ slot.dims? = source.dims? := by
  have holds := holds_of_analyze Discipline.lawful_clean run quiet
  have distinct : (state.types.map Prod.fst).Nodup := by
    rcases (types_of_analyze run).1 with ⟨chosen, permutation, sublist⟩
    exact permutation.nodup_iff.mp (tree.sublist sublist)
  rcases holds.slots _ (State.mem_slots_of_slot? found) with ⟨source, noted, fills⟩
  rcases holds.types _ noted with ⟨_, ⟨⟩, settled⟩
  exact ⟨source, State.type?_eq_some_of_mem distinct noted, fills.concrete.notComptime,
    fills.exact, fills.eq_source settled, fills.dims?_eq settled⟩

theorem Program.filled_of_slot_sample :
    (Sample.program.analyze (.start .strict .bits32) .full).run (.ofTable .empty)
      = .ok () Sample.state ∧
    Sample.state.reports = [] ∧ (Sample.program.nodes.map Occurrence.id).Nodup ∧
    Sample.state.slot? 29 = some .usize ∧
    ∃ source, Sample.state.type? 29 = some (some source) ∧ Ty.usize.isComptime = false ∧
      source.assign .usize false = .ok .usize ∧
      (source.isComptime = false → .usize = source) ∧ Ty.usize.dims? = source.dims? := by
  have run : (Sample.program.analyze (.start .strict .bits32) .full).run (.ofTable .empty)
      = .ok () Sample.state := rfl
  have tree : (Sample.program.nodes.map Occurrence.id).Nodup := by decide
  have found : Sample.state.slot? 29 = some .usize := by rfl
  exact ⟨run, rfl, tree, found, filled_of_slot run rfl tree found⟩

end ComptimeTyping
