import ComptimeTyping.Proofs.Clean
import ComptimeTyping.Proofs.ProgramProblems
import ComptimeTyping.Proofs.Typing

/-! An analysis of a complete tree goes on to its end, whatever is wrong with the program, and
everything that is wrong with it is in the sink then. -/

namespace ComptimeTyping

open Analysis

namespace Program

/-- Only what is missing or cannot be read stops an analysis before its end, and arithmetic
on infinite floats. Everything else that is wrong is reported: no expression is without a type
unless something was reported, and each problem that the analysis comes to has its report in
the sink, also if the analysis stops later on. -/
theorem complete_goes_on (policy : BranchPolicy) (width : PointerWidth) (mode : AnalysisMode)
    {program : Program} (complete : program.isComplete = true) (begun : State) :
    ((∃ after, (program.analyze (.start policy width) mode).run begun = .ok () after ∧
        (mode.readsBodies = true → ∀ statement ∈ program.statements.toList,
          program.Finishes (.start policy width) mode begun after statement)) ∨
      ∃ cause after,
        (program.analyze (.start policy width) mode).run begun =
          .error (.undefined cause) after ∧
        ∃ first ∈ program.callsFrom (.start policy width) mode begun, first.Fails cause) ∧
    (∀ {ctx target expr before operand after},
      program.Meets (.start policy width) mode ⟨.expr ctx target expr, before⟩ →
      (expr.resolve ctx target).run before = .ok operand after → operand.isUnknown = true →
      after.reports ≠ []) ∧
    ∀ {diagnostic}, program.Problem (.start policy width) mode begun diagnostic →
      diagnostic ∈ ((program.analyze (.start policy width) mode).run begun).state.reports := by
  refine ⟨?_, ?_, fun problem => problem.leaves⟩
  · have stopping := program.analyze_stops (.start policy width) mode begun
    cases run : (program.analyze (.start policy width) mode).run begun with
    | ok value after =>
        exact .inl ⟨after, rfl, fun reads _ member => finishes_of_mem run reads member⟩
    | error abort after =>
        have explains := stopping.reason run
        cases abort with
        | noProgram => exact explains.elim
        | malformed position defect => exact absurd complete (Bool.eq_false_iff.mp explains)
        | undefined cause => exact .inr ⟨cause, after, rfl, explains⟩
  · intro ctx target expr before operand after meets resolved unknown quiet
    have settled : operand.type.Settled :=
      operand_of_meets Discipline.lawful_clean meets resolved quiet
    exact settled.not_unknown unknown

end Program

namespace Sample

/-- A call with an argument too much. -/
def surplus : Expr :=
  .call (node 2) (some (name 3 "next")) (.ofList [.int (node 4) "1"])

/-- Such a call, a value of another type than its variable, a type that
does not exist and a name that is not declared. -/
def faulty : Program where
  file := ""
  statements := .ofList [
    .expression (node 1) surplus,
    .function (node 5) (some (name 6 "next")) [] .missing (.block (node 7) .nil),
    .declaration (node 8) false (some (name 9 "flag")) (.named (node 10) "bool")
      (.int (node 11) "1"),
    .declaration (node 12) true (some (name 13 "count")) (.named (node 14) "number")
      (.undef (node 15)),
    .expression (node 16) (.infixOp (node 17) (.ident (name 18 "flag")) "+"
      (.ident (name 19 "absent")))]

/-- The heads are read first, so the call comes before its function and finds it. -/
theorem misses_arity :
    faulty.Problem (.start .strict .bits32) .full (.ofTable .empty)
      ((Finding.arity ⟨"next", [], some .void⟩ 1).placed (node 2).position) := by
  have reached : ∃ first ∈ faulty.callsFrom (.start .strict .bits32) .full (.ofTable .empty),
      ∃ state, first.Reaches ⟨.expr (.start .strict .bits32) none surplus, state⟩ ∧
        state.table.function? "next" = some ⟨"next", [], some .void⟩ :=
    ⟨_, mem_leading rfl (List.mem_singleton_self _), _,
      .head List.mem_cons_self (.single (List.mem_singleton_self _)), rfl⟩
  rcases reached with ⟨first, called, state, reaches, declared⟩
  exact .moment called reaches (Expr.Problem.arity declared (by decide))

end Sample

theorem Program.complete_goes_on_sample :
    Sample.faulty.isComplete = true ∧
    ∃ after, (Sample.faulty.analyze (.start .strict .bits32) .full).run (.ofTable .empty)
        = .ok () after ∧
      after.reports.length = 4 ∧
      (Finding.arity ⟨"next", [], some .void⟩ 1).placed (Sample.node 2).position ∈
        after.reports ∧
      ∀ statement ∈ Sample.faulty.statements.toList,
        Sample.faulty.Finishes (.start .strict .bits32) .full (.ofTable .empty) after
          statement := by
  have complete : Sample.faulty.isComplete = true := rfl
  rcases complete_goes_on .strict .bits32 .full complete (.ofTable .empty) with
    ⟨⟨after, run, finishes⟩ | ⟨cause, after, stopped, _⟩, _, sinks⟩
  · have ended : (Sample.faulty.analyze (.start .strict .bits32) .full).run (.ofTable .empty)
        = .ok () _ := rfl
    have told := sinks Sample.misses_arity
    rw [run] at told
    rw [run] at ended
    cases ended
    exact ⟨complete, _, run, rfl, told, finishes rfl⟩
  · cases stopped

end ComptimeTyping
