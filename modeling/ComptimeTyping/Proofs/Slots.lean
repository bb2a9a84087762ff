import ComptimeTyping.Analysis.Unit
import ComptimeTyping.Proofs.Reporting

/-! Which slots a step fills. A slot is noted only by what fills it, so every slot that a
step adds comes from a value that the step is given, and has the type that the step asks
the value for. -/

namespace ComptimeTyping

open Analysis

/-- By the time of a state, a value has filled a slot that asks for a type. -/
def Resolved.Fills (source : Resolved) (width : PointerWidth) (target slot : Ty)
    (after : State) : Prop :=
  ∃ ctx label before middle, ctx.width = width ∧
    (fill ctx source target label).run before = .ok slot middle ∧ middle.GrowsTo after

theorem Resolved.Fills.mono {source : Resolved} {width : PointerWidth} {target slot : Ty}
    {middle after : State} (fills : source.Fills width target slot middle)
    (grows : middle.GrowsTo after) : source.Fills width target slot after := by
  rcases fills with ⟨ctx, label, before, done, same, run, earlier⟩
  exact ⟨ctx, label, before, done, same, run, earlier.trans grows⟩

namespace Analysis

variable {α β : Type} {width : PointerWidth} {target : Option Ty} {sources : List Resolved}

/-! ## Steps that fill nothing -/

/-- No slot is added. -/
structure Idle (computation : Analysis α) : Prop where
  slots_eq : ∀ state, (computation.run state).state.slots = state.slots

namespace Idle

theorem of_reporting {computation : Analysis α} (reporting : computation.Reporting fun _ => True) :
    computation.Idle := by
  constructor
  intro state
  rw [reporting.run_state]

theorem pure (value : α) : (Pure.pure value : Analysis α).Idle :=
  ⟨fun _ => rfl⟩

theorem read (view : State → α) : (Analysis.read view).Idle :=
  ⟨fun _ => rfl⟩

theorem record (node : Node) (type : Option Ty) : (Analysis.record node type).Idle :=
  ⟨fun _ => rfl⟩

theorem report (position : Position) (finding : Finding) :
    (Analysis.report position finding).Idle :=
  ⟨fun _ => rfl⟩

theorem bind {first : Analysis α} {next : α → Analysis β} (idle : first.Idle)
    (rest : ∀ value, (next value).Idle) : (first >>= next).Idle := by
  constructor
  intro state
  have started := idle.slots_eq state
  rw [run_bind]
  cases run : first.run state with
  | ok value middle =>
      rw [run] at started
      exact ((rest value).slots_eq middle).trans started
  | error abort middle =>
      rw [run] at started
      exact started

theorem of_run {computation : Analysis α} (idle : computation.Idle) {before after : State}
    {value : α} (run : computation.run before = .ok value after) :
    after.slots = before.slots := by
  have same := idle.slots_eq before
  rwa [run] at same

end Idle

theorem idle_declare (name : Ident) (symbol : Symbol) : (declare name symbol).Idle := by
  unfold declare
  apply (Idle.read _).bind
  intro table
  split
  · exact Idle.bind ⟨fun _ => rfl⟩ fun _ => .record _ _
  · exact .report _ _

theorem idle_bindUndef (isMutable : Bool) (name : Ident) (declared : Option Ty)
    (value : Node) : (bindUndef isMutable name declared value).Idle := by
  unfold bindUndef
  split
  · exact (Idle.report _ _).bind fun _ => idle_declare _ _
  · dsimp only
    split
    · exact (idle_declare _ _).bind fun _ => .record _ _
    · apply (Idle.report _ _).bind
      intro _
      exact (idle_declare _ _).bind fun _ => .record _ _

theorem idle_requireMutable (name : Ident) (symbol : Symbol) :
    (requireMutable name symbol).Idle := by
  unfold requireMutable
  split
  · apply (Idle.read _).bind
    intro table
    split
    · exact .report _ _
    · exact .report _ _
  · exact .pure _

theorem idle_signatureOf (node : Node) (name : Option Ident)
    (parameters : List (Option ParameterExpr)) (result : TypeExpr) (body : Body) :
    (signatureOf node name parameters result body).Idle := by
  unfold signatureOf
  apply (Idle.read _).bind
  intro known
  split
  · exact .pure _
  · apply (Idle.of_reporting (reporting_readSignature _ _ _ _ _)).bind
    exact fun signature => Idle.bind ⟨fun _ => rfl⟩ fun _ => .pure _

theorem idle_declareFunctions (statements : Stmts) : statements.declareFunctions.Idle := by
  cases statements with
  | nil => exact .pure _
  | cons head tail =>
      cases head with
      | function node name parameters result body =>
          apply Idle.bind
          · apply (idle_signatureOf _ _ _ _ _).bind
            intro signature
            apply (Idle.read _).bind
            intro table
            split
            · exact ⟨fun _ => rfl⟩
            · exact .report _ _
          · exact fun _ => idle_declareFunctions tail
      | _ => exact idle_declareFunctions tail

theorem idle_declareParameters (node : Node) (signature : Signature) (number : Nat)
    (parameters : List Parameter) :
    (declareParameters node signature number parameters).Idle := by
  induction parameters generalizing number with
  | nil => exact .pure _
  | cons parameter parameters induction =>
      unfold declareParameters
      apply (Idle.read _).bind
      intro table
      dsimp only
      split
      · exact Idle.bind ⟨fun _ => rfl⟩ fun _ => induction _
      · exact (Idle.report _ _).bind fun _ => induction _

theorem idle_requireReturn (name : Option Ident) (signature : Signature) :
    (requireReturn name signature).Idle := by
  unfold requireReturn
  split
  · exact .pure _
  · apply (Idle.read _).bind
    intro returned
    split
    · exact .report _ _
    · exact .pure _

/-! ## Steps that fill -/

/-- Every slot that is added is filled by one of the given values. -/
structure FillsFrom (width : PointerWidth) (target : Option Ty) (sources : List Resolved)
    (computation : Analysis α) : Prop where
  slots : ∀ {before after value}, computation.run before = .ok value after →
    ∀ entry ∈ after.slots, entry ∈ before.slots ∨
      ∃ source ∈ sources, ∃ asked, target = some asked ∧ source.node.id = entry.1 ∧
        source.Fills width asked entry.2 after

namespace FillsFrom

theorem of_idle {computation : Analysis α} (idle : computation.Idle) :
    computation.FillsFrom width target sources := by
  constructor
  intro before after value run entry member
  exact .inl (idle.of_run run ▸ member)

theorem bind {first : Analysis α} {next : α → Analysis β}
    (fills : first.FillsFrom width target sources)
    (rest : ∀ value, (next value).FillsFrom width target sources) :
    (first >>= next).FillsFrom width target sources := by
  constructor
  intro before after result run entry member
  rcases run_bind_eq_ok.mp run with ⟨value, middle, started, ended⟩
  rcases (rest value).slots ended entry member with earlier | late
  · rcases fills.slots started entry earlier with
      older | ⟨source, given, asked, isAsked, id, filled⟩
    · exact .inl older
    · exact .inr ⟨source, given, asked, isAsked, id,
        filled.mono ((next value).grows_of_ok ended)⟩
  · exact .inr late

/-- What comes after fills nothing. -/
theorem ending {first : Analysis α} {next : α → Analysis β}
    (fills : first.FillsFrom width target sources) (idle : ∀ value, (next value).Idle) :
    (first >>= next).FillsFrom width target sources :=
  fills.bind fun value => .of_idle (idle value)

theorem discard {computation : Analysis α}
    (fills : computation.FillsFrom width target sources) :
    (Functor.discard computation).FillsFrom width target sources :=
  fills.ending fun _ => .pure _

end FillsFrom

theorem fillsFrom_materialize (ctx : Context) {source : Resolved} (target : Ty) (label : String)
    (given : source ∈ sources) :
    (materialize ctx source target label).FillsFrom ctx.width (some target) sources := by
  constructor
  intro before after value run entry member
  rcases run_bind_eq_ok.mp run with ⟨type, middle, filled, rest⟩
  have kept := (Idle.of_reporting (reporting_fill ctx source target label)).of_run filled
  have grows := grows_of_ok _ rest
  split at rest
  · cases rest
    rcases List.mem_cons.mp member with rfl | older
    · exact .inr ⟨source, given, target, rfl, rfl, ctx, label, before, middle, rfl, filled,
        grows⟩
    · exact .inl (kept ▸ older)
  · cases rest
    exact .inl (kept ▸ member)

theorem fillsFrom_materialize? (ctx : Context) {source : Resolved} (target : Option Ty)
    (label : String) (given : source ∈ sources) :
    (materialize? ctx source target label).FillsFrom ctx.width target sources := by
  cases target with
  | none => exact .of_idle (.pure _)
  | some target => exact (fillsFrom_materialize ctx target label given).discard

theorem fillsFrom_unifyBranches (ctx : Context) (branches : List Resolved)
    (target : Option Ty) :
    (unifyBranches ctx branches target).FillsFrom ctx.width target branches := by
  have filled : ∀ asked rest, (∀ branch ∈ rest, branch ∈ branches) →
      (fillBranches ctx asked rest).FillsFrom ctx.width (some asked) branches := by
    intro asked rest within
    induction rest with
    | nil => exact .of_idle (.pure _)
    | cons branch others induction =>
        rw [List.forall_mem_cons] at within
        apply (fillsFrom_materialize ctx asked _ within.1).discard.bind
        exact fun _ => induction within.2
  unfold unifyBranches
  split
  · next asked found =>
      rcases Option.filter_eq_some_iff.mp found with ⟨rfl, _⟩
      exact (filled asked branches fun _ => id).ending fun _ => .pure _
  · exact .of_idle (.of_reporting (reporting_joinBranches _ _))

theorem fillsFrom_bindValue (ctx : Context) (isMutable : Bool) (name : Ident)
    (declared : Option Ty) {value : Resolved} (given : value ∈ sources) :
    (bindValue ctx isMutable name declared value).FillsFrom ctx.width declared sources := by
  apply FillsFrom.ending
  · cases declared with
    | none => exact .of_idle (.of_reporting (reporting_bindingType_none _ _ _ _))
    | some type => exact fillsFrom_materialize ctx type _ given
  · exact fun type => idle_declare _ _

theorem fillsFrom_assign (ctx : Context) (name : Ident) (symbol : Symbol) {value : Resolved}
    (given : value ∈ sources) :
    (assign ctx name symbol value).FillsFrom ctx.width symbol.type sources := by
  apply (fillsFrom_materialize? ctx symbol.type _ given).ending
  intro _
  apply (Idle.record _ _).bind
  intro _
  exact (Idle.read _).bind fun _ => ⟨fun _ => rfl⟩

end Analysis

end ComptimeTyping
