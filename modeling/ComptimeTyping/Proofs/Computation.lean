import ComptimeTyping.Analysis.State

/-! Runs of computations, and the computations that do no more than report. -/

namespace ComptimeTyping.Analysis

variable {α β : Type}

/-! ## Runs -/

@[simp] theorem run_pure (value : α) (state : State) :
    (pure value : Analysis α).run state = .ok value state := rfl

@[simp] theorem run_stop (abort : Abort) (state : State) :
    (stop abort : Analysis α).run state = .error abort state := rfl

theorem run_bind (first : Analysis α) (next : α → Analysis β) (state : State) :
    (first >>= next).run state =
      match first.run state with
      | .ok value state => (next value).run state
      | .error abort state => .error abort state := rfl

@[simp] theorem run_table_bind (next : SymbolTable → Analysis α) (state : State) :
    (table >>= next).run state = (next state.table).run state := rfl

theorem run_bind_of_ok {first : Analysis α} {next : α → Analysis β} {before middle : State}
    {value : α} (run : first.run before = .ok value middle) :
    (first >>= next).run before = (next value).run middle := by
  rw [run_bind, run]

/-- A sequence ends well exactly if both of its parts do. -/
theorem run_bind_eq_ok {first : Analysis α} {next : α → Analysis β} {before after : State}
    {result : β} :
    (first >>= next).run before = .ok result after ↔
      ∃ value middle, first.run before = .ok value middle ∧
        (next value).run middle = .ok result after := by
  rw [run_bind]
  constructor
  · intro run
    cases started : first.run before with
    | ok value middle =>
        rw [started] at run
        exact ⟨value, middle, rfl, run⟩
    | error abort middle =>
        rw [started] at run
        cases run
  · rintro ⟨value, middle, started, ended⟩
    rw [started]
    exact ended

theorem grows_of_ok (computation : Analysis α) {before after : State} {value : α}
    (run : computation.run before = .ok value after) : before.GrowsTo after := by
  have grows := computation.grows before
  rwa [run] at grows

/-- Reports are never taken back, so of two steps nothing is reported exactly if neither
reports. -/
theorem quiet_iff_of_grows {before middle after : State} (first : before.GrowsTo middle)
    (second : middle.GrowsTo after) :
    after.reports = before.reports ↔
      middle.reports = before.reports ∧ after.reports = middle.reports := by
  constructor
  · intro quiet
    have settled : middle.reports = before.reports :=
      (first.reports.eq_of_length_le (quiet ▸ second.reports.length_le)).symm
    exact ⟨settled, quiet.trans settled.symm⟩
  · rintro ⟨quietFirst, quietSecond⟩
    exact quietSecond.trans quietFirst

/-- Of a sequence that reports nothing, neither part does. -/
theorem exists_of_quiet_bind {first : Analysis α} {next : α → Analysis β} {before after : State}
    {result : β} (run : (first >>= next).run before = .ok result after)
    (quiet : after.reports = before.reports) :
    ∃ value middle, first.run before = .ok value middle ∧ middle.reports = before.reports ∧
      (next value).run middle = .ok result after ∧ after.reports = middle.reports := by
  rcases run_bind_eq_ok.mp run with ⟨value, middle, started, ended⟩
  rcases (quiet_iff_of_grows (first.grows_of_ok started) ((next value).grows_of_ok ended)).mp
    quiet with ⟨quietFirst, quietSecond⟩
  exact ⟨value, middle, started, quietFirst, ended, quietSecond⟩

/-- A scope is left, however what is inside of it ends. -/
theorem state_withScope {kind : ScopeKind} {inside : Analysis α} {before inner : State}
    (ended : (inside.run { before with table := before.table.enter kind }).state = inner) :
    ((withScope kind inside).run before).state =
      { inner with table := inner.table.exit } := by
  subst ended
  unfold withScope
  dsimp only
  cases inside.run { before with table := before.table.enter kind } <;> rfl

theorem exists_of_run_withScope {kind : ScopeKind} {inside : Analysis α}
    {before after : State} {value : α}
    (run : (withScope kind inside).run before = .ok value after) :
    ∃ inner, inside.run { before with table := before.table.enter kind } = .ok value inner ∧
      after = { inner with table := inner.table.exit } := by
  unfold withScope at run
  dsimp only at run
  cases ended : inside.run { before with table := before.table.enter kind } with
  | ok value inner =>
      rw [ended] at run
      cases run
      exact ⟨inner, rfl, rfl⟩
  | error abort inner =>
      rw [ended] at run
      cases run

private theorem id_map_eq (computation : Analysis α) : id <$> computation = computation := by
  ext state
  change (computation >>= pure).run state = computation.run state
  rw [run_bind]
  cases computation.run state <;> rfl

private theorem bind_assoc_eq {γ : Type} (first : Analysis α) (next : α → Analysis β)
    (last : β → Analysis γ) :
    first >>= next >>= last = first >>= fun value => next value >>= last := by
  ext state
  simp only [run_bind]
  cases first.run state <;> rfl

instance : LawfulMonad Analysis :=
  LawfulMonad.mk' Analysis id_map_eq (fun _ _ => rfl) bind_assoc_eq

/-! ## Reporting -/

/-- Report, and end as the verdict says. -/
def telling (reports : List Diagnostic) (verdict : Except Abort α) : Analysis α where
  run state :=
    let told := { state with reports := state.reports ++ reports }
    match verdict with
    | .ok value => .ok value told
    | .error abort => .error abort told
  grows state := by
    cases verdict with
    | ok value => exact ⟨List.prefix_append _ _, List.suffix_rfl, List.suffix_rfl⟩
    | error abort => exact ⟨List.prefix_append _ _, List.suffix_rfl, List.suffix_rfl⟩

/-- A computation that looks at nothing and changes nothing: all it does is report, and stop
for some reasons. -/
def Reporting (computation : Analysis α) (stops : Abort → Prop) : Prop :=
  ∃ reports verdict, computation = telling reports verdict ∧
    ∀ abort, verdict = .error abort → stops abort

namespace Reporting

variable {stops : Abort → Prop}

theorem pure (value : α) : (Pure.pure value : Analysis α).Reporting stops := by
  refine ⟨[], .ok value, ?_, nofun⟩
  ext state
  simp [telling]

theorem stop {abort : Abort} (reason : stops abort) :
    (Analysis.stop abort : Analysis α).Reporting stops := by
  refine ⟨[], .error abort, ?_, ?_⟩
  · ext state
    simp [telling]
  · rintro _ ⟨⟩
    exact reason

theorem malformed {position : Position} {defect : Defect}
    (reason : stops (.malformed position defect)) :
    (Analysis.malformed position defect : Analysis α).Reporting stops :=
  .stop reason

theorem report (position : Position) (finding : Finding) :
    (Analysis.report position finding).Reporting stops :=
  ⟨[finding.placed position], .ok (), rfl, nofun⟩

theorem bind {first : Analysis α} {next : α → Analysis β} (reporting : first.Reporting stops)
    (rest : ∀ value, (next value).Reporting stops) : (first >>= next).Reporting stops := by
  rcases reporting with ⟨reports, verdict, rfl, stopped⟩
  cases verdict with
  | error abort =>
      refine ⟨reports, .error abort, rfl, ?_⟩
      rintro _ ⟨⟩
      exact stopped abort rfl
  | ok value =>
      rcases rest value with ⟨more, verdict, equal, stopped⟩
      refine ⟨reports ++ more, verdict, ?_, stopped⟩
      ext state
      have run : (telling reports (.ok value)).run state =
          .ok value { state with reports := state.reports ++ reports } := rfl
      rw [run_bind_of_ok run, equal]
      simp [telling]

theorem reported (position : Position) (finding : Finding) (value : α) :
    (Analysis.report position finding >>= fun _ => Pure.pure value).Reporting stops :=
  (Reporting.report _ _).bind fun _ => .pure _

theorem discard {computation : Analysis α} (reporting : computation.Reporting stops) :
    (Functor.discard computation).Reporting stops :=
  reporting.bind fun _ => .pure _

/-- A step that is taken only on a condition. -/
theorem guarded {condition : Prop} [Decidable condition] {step : Analysis Unit}
    {rest : Unit → Analysis α} (reporting : step.Reporting stops)
    (after : (rest ()).Reporting stops) :
    (if condition then step >>= rest else rest ()).Reporting stops := by
  split
  · exact reporting.bind fun _ => after
  · exact after

/-- What goes on only where nothing that is needed is missing. -/
theorem required {condition : Prop} [Decidable condition] {position : Position}
    {defect : Defect} {rest : Unit → Analysis α}
    (reason : condition → stops (.malformed position defect))
    (after : (rest ()).Reporting stops) :
    (if condition then Analysis.malformed position defect >>= rest else rest ()).Reporting
      stops := by
  split
  · next missing => exact (Reporting.malformed (reason missing)).bind fun _ => after
  · exact after

/-- Where there is no reason to stop, there is a result. -/
theorem exists_run {computation : Analysis α} (reporting : computation.Reporting fun _ => False)
    (state : State) : ∃ value after, computation.run state = .ok value after := by
  rcases reporting with ⟨reports, verdict, rfl, never⟩
  cases verdict with
  | ok value => exact ⟨_, _, rfl⟩
  | error abort => exact (never abort rfl).elim

/-- A report is at most added to the state. -/
theorem run_state {computation : Analysis α} (reporting : computation.Reporting stops)
    (state : State) :
    (computation.run state).state =
      { state with reports := (computation.run state).state.reports } := by
  rcases reporting with ⟨reports, verdict, rfl, _⟩
  cases verdict <;> rfl

theorem table_eq {computation : Analysis α} (reporting : computation.Reporting stops)
    (state : State) : (computation.run state).state.table = state.table := by
  rw [reporting.run_state]

theorem types_eq {computation : Analysis α} (reporting : computation.Reporting stops)
    (state : State) : (computation.run state).state.types = state.types := by
  rw [reporting.run_state]

end Reporting

end ComptimeTyping.Analysis
