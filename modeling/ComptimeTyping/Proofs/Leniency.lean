import ComptimeTyping.Analysis.Unit
import ComptimeTyping.Options.Basic
import ComptimeTyping.Proofs.Typing

/-! Looser options never change a clean program. Options steer what is reported and nothing
else, so an analysis that reports nothing runs the same way wherever no more is reported. -/

namespace ComptimeTyping

/-! ## The order of options -/

/-- A policy is below those that report no more than it does. -/
instance : LE BranchPolicy where
  le tight loose := tight = .strict ∨ loose = .defer

/-- A width is below those that hold no fewer values. -/
instance : LE PointerWidth where
  le narrow wide := narrow = .bits32 ∨ wide = .bits64

instance : DecidableLE BranchPolicy :=
  fun tight loose => inferInstanceAs (Decidable (tight = .strict ∨ loose = .defer))

instance : DecidableLE PointerWidth :=
  fun narrow wide => inferInstanceAs (Decidable (narrow = .bits32 ∨ wide = .bits64))

/-- Two contexts at the same place of a program, of which the second one is looser. -/
structure Context.EasesTo (tight loose : Context) : Prop where
  policy : tight.policy ≤ loose.policy
  width : tight.width ≤ loose.width
  function : loose.function = tight.function
  block : loose.block = tight.block

namespace Context.EasesTo

variable {tight loose : Context}

theorem inBlock (eases : tight.EasesTo loose) (target : Option Ty) :
    (tight.inBlock target).EasesTo (loose.inBlock target) :=
  ⟨eases.policy, eases.width, eases.function, rfl⟩

theorem inFunction (eases : tight.EasesTo loose) (signature : Signature) :
    (tight.inFunction signature).EasesTo (loose.inFunction signature) :=
  ⟨eases.policy, eases.width, rfl, rfl⟩

end Context.EasesTo

theorem Tag.intBounds_of_le (tag : Tag) {narrow wide : PointerWidth} (wider : narrow ≤ wide) :
    (tag.intBounds wide).1 ≤ (tag.intBounds narrow).1 ∧
      (tag.intBounds narrow).2 ≤ (tag.intBounds wide).2 := by
  rcases wider with rfl | rfl
  · cases tag <;> cases wide <;> decide
  · cases tag <;> cases narrow <;> decide

/-- What a number type holds it holds at every larger width. -/
theorem Constant.fits_of_le {value : Constant} {tag : Tag} {narrow wide : PointerWidth}
    (wider : narrow ≤ wide) (fits : value.fits tag narrow = true) :
    value.fits tag wide = true := by
  have bounds := tag.intBounds_of_le wider
  cases tag with
  | i32 | i64 | usize =>
      cases known : value.integerPart? with
      | none => simp [Constant.fits, known] at fits
      | some part =>
          simp only [Constant.fits, known, decide_eq_true_eq] at fits ⊢
          omega
  | _ => exact fits

namespace Analysis

/-! ## Computations that report no more than others -/

variable {α β : Type}

/-- Whenever the first computation ends and reports nothing, the second one does the same. -/
structure EasesTo (tight loose : Analysis α) : Prop where
  run : ∀ {before after value}, tight.run before = .ok value after →
    after.reports = before.reports → loose.run before = .ok value after

namespace EasesTo

theorem refl (computation : Analysis α) : computation.EasesTo computation :=
  ⟨fun run _ => run⟩

theorem stop (abort : Abort) (loose : Analysis α) : (Analysis.stop abort).EasesTo loose :=
  ⟨nofun⟩

theorem bind {tight loose : Analysis α} {tightNext looseNext : α → Analysis β}
    (eases : tight.EasesTo loose)
    (rest : ∀ value, (tightNext value).EasesTo (looseNext value)) :
    (tight >>= tightNext).EasesTo (loose >>= looseNext) := by
  constructor
  intro before after result run quiet
  rcases exists_of_quiet_bind run quiet with
    ⟨value, middle, started, quietFirst, ended, quietSecond⟩
  rw [run_bind_of_ok (eases.run started quietFirst)]
  exact (rest value).run ended quietSecond

/-- What is reported is not quiet, whatever comes after it. -/
theorem told (position : Position) (finding : Finding) (next : Unit → Analysis α)
    (loose : Analysis α) : (report position finding >>= next).EasesTo loose := by
  constructor
  intro before after result run quiet
  rcases run_bind_eq_ok.mp run with ⟨_, middle, ⟨⟩, ended⟩
  have grown := ((next ()).grows_of_ok ended).reports.length_le
  rw [quiet, List.length_append, List.length_singleton] at grown
  omega

theorem discard {tight loose : Analysis α} (eases : tight.EasesTo loose) :
    (Functor.discard tight).EasesTo (Functor.discard loose) :=
  eases.bind fun _ => .refl _

/-- A step that is taken only on a condition. -/
theorem guarded {condition : Prop} [Decidable condition] {tight loose : Analysis Unit}
    {tightRest looseRest : Unit → Analysis α} (eases : tight.EasesTo loose)
    (rest : (tightRest ()).EasesTo (looseRest ())) :
    (if condition then tight >>= tightRest else tightRest ()).EasesTo
      (if condition then loose >>= looseRest else looseRest ()) := by
  split
  · exact eases.bind fun _ => rest
  · exact rest

theorem recorded {tight loose : Analysis Operand} (node : Node) (eases : tight.EasesTo loose) :
    (Analysis.recorded node tight).EasesTo (Analysis.recorded node loose) :=
  eases.bind fun _ => .refl _

theorem withScope {tight loose : Analysis α} (kind : ScopeKind) (eases : tight.EasesTo loose) :
    (Analysis.withScope kind tight).EasesTo (Analysis.withScope kind loose) := by
  constructor
  intro before after value run quiet
  rcases exists_of_run_withScope run with ⟨inner, ended, rfl⟩
  have same := eases.run ended quiet
  simp only [Analysis.withScope, same]

end EasesTo

/-! ## Values that fit -/

section Rules

variable {tight loose : Context}

theorem eases_checkFits (eases : tight.EasesTo loose) (position : Position)
    (value : Option Constant) (tag : Tag) :
    (checkFits tight position value tag).EasesTo (checkFits loose position value tag) := by
  cases value with
  | none => exact .refl _
  | some value =>
      simp only [checkFits]
      split
      · exact .told _ _ _ _
      · next fitting =>
          have fits : (tag.isNumeric && !tag.isComptime && !value.fits tag loose.width) ≠ true := by
            intro overflows
            apply fitting
            cases fits : value.fits tag tight.width with
            | false => simp_all
            | true => simp_all [Constant.fits_of_le eases.width fits]
          rw [if_neg fits]
          exact .refl _

theorem eases_checkBoundsFit (eases : tight.EasesTo loose) (bounds : Bounds) (tag : Tag) :
    (checkBoundsFit tight bounds tag).EasesTo (checkBoundsFit loose bounds tag) := by
  apply (eases_checkFits eases _ _ _).bind
  intro start
  apply (eases_checkFits eases _ _ _).bind
  intro stop
  exact (eases_checkFits eases _ _ _).bind fun _ => .refl _

theorem eases_checkElementsFit (eases : tight.EasesTo loose) (position : Position) (tag : Tag)
    (values : List (Option Constant)) :
    (checkElementsFit tight position tag values).EasesTo
      (checkElementsFit loose position tag values) := by
  induction values with
  | nil => exact .refl _
  | cons value values induction =>
      exact (eases_checkFits eases _ _ _).discard.bind fun _ => induction

theorem eases_checkBranchesFit (eases : tight.EasesTo loose) (tag : Tag)
    (branches : List Resolved) :
    (checkBranchesFit tight tag branches).EasesTo (checkBranchesFit loose tag branches) := by
  induction branches with
  | nil => exact .refl _
  | cons branch branches induction =>
      simp only [checkBranchesFit]
      exact .guarded (eases_checkFits eases _ _ _).discard induction

theorem eases_checkContents (eases : tight.EasesTo loose) (site : Position) (source : Resolved)
    (type : Ty) :
    (checkContents tight site source type).EasesTo (checkContents loose site source type) := by
  cases type with
  | scalar tag => exact (eases_checkFits eases _ _ _).discard
  | array element dims => exact eases_checkElementsFit eases _ _ _
  | range element form =>
      simp only [checkContents]
      cases source.operand.bounds with
      | none => exact .refl _
      | some bounds => exact (eases_checkBoundsFit eases _ _).discard.bind fun _ => .refl _
  | comptimeArray | comptimeRange => exact .refl _

/-! ## Slots -/

theorem eases_fill (eases : tight.EasesTo loose) (source : Resolved) (target : Ty)
    (label : String) :
    (fill tight source target label).EasesTo (fill loose source target label) := by
  unfold fill
  split
  · exact .refl _
  · extract_lets tightAssigned looseAssigned
    have assigned : ∀ fits, (tightAssigned fits).EasesTo (looseAssigned fits) := by
      intro fits
      simp only [tightAssigned, looseAssigned]
      split
      · exact .refl _
      · cases source.type.assign target false with
        | error failure => exact .refl _
        | ok type => exact .guarded (eases_checkContents eases _ _ _) (.refl _)
    cases target with
    | array element dims => exact EasesTo.bind (.refl _) assigned
    | _ => exact assigned true

theorem eases_materialize (eases : tight.EasesTo loose) (source : Resolved) (target : Ty)
    (label : String) :
    (materialize tight source target label).EasesTo
      (materialize loose source target label) :=
  (eases_fill eases _ _ _).bind fun _ => .refl _

theorem eases_materialize? (eases : tight.EasesTo loose) (source : Resolved)
    (target : Option Ty) (label : String) :
    (materialize? tight source target label).EasesTo
      (materialize? loose source target label) := by
  cases target with
  | none => exact .refl _
  | some target => exact (eases_materialize eases _ _ _).discard

/-! ## Branches -/

/-- Branches that agree under a policy agree in the same way under a looser one. -/
theorem joinBranch_of_le {tight loose : BranchPolicy} (looser : tight ≤ loose)
    {joined result : Operand} {branch : Resolved}
    (ended : joinBranch tight joined branch = .ok result) :
    joinBranch loose joined branch = .ok result := by
  cases tight with
  | strict =>
      simp only [joinBranch] at ended ⊢
      split at ended
      · cases ended
      · next apart => rw [if_neg apart, ended]
  | defer =>
      cases looser with
      | inl same => cases same
      | inr same => rwa [same]

theorem joinFrom_of_le {tight loose : BranchPolicy} (looser : tight ≤ loose)
    {joined result : Option Operand} {branches : List Resolved}
    (ended : joinFrom tight joined branches = .ok result) :
    joinFrom loose joined branches = .ok result := by
  induction branches generalizing joined with
  | nil => exact ended
  | cons branch branches induction =>
      simp only [joinFrom] at ended ⊢
      split
      · next unknown => exact induction (by rwa [if_pos unknown] at ended)
      · next known =>
          rw [if_neg known] at ended
          cases joined with
          | none => exact induction ended
          | some operand =>
              dsimp only at ended ⊢
              cases joins : joinBranch tight operand branch with
              | error complaint =>
                  rw [joins] at ended
                  cases ended
              | ok next =>
                  rw [joins] at ended
                  rw [joinBranch_of_le looser joins]
                  exact induction ended

theorem eases_joinBranches (eases : tight.EasesTo loose) (branches : List Resolved) :
    (joinBranches tight branches).EasesTo (joinBranches loose branches) := by
  simp only [joinBranches]
  cases joins : joinFrom tight.policy none branches with
  | error complaint => exact .told _ _ _ _
  | ok joined =>
      rw [joinFrom_of_le eases.policy joins]
      cases joined with
      | none => exact .refl _
      | some joined =>
          dsimp only
          cases joined.type.scalarTag? with
          | none => exact .refl _
          | some tag => exact .guarded (eases_checkBranchesFit eases _ _) (.refl _)

theorem eases_fillBranches (eases : tight.EasesTo loose) (target : Ty)
    (branches : List Resolved) :
    (fillBranches tight target branches).EasesTo (fillBranches loose target branches) := by
  induction branches with
  | nil => exact .refl _
  | cons branch branches induction =>
      exact (eases_materialize eases _ _ _).discard.bind fun _ => induction

theorem eases_unifyBranches (eases : tight.EasesTo loose) (branches : List Resolved)
    (target : Option Ty) :
    (unifyBranches tight branches target).EasesTo (unifyBranches loose branches target) := by
  simp only [unifyBranches]
  cases target.filter (!·.isVoid) with
  | none => exact eases_joinBranches eases _
  | some target => exact (eases_fillBranches eases _ _).bind fun _ => .refl _

theorem eases_blockValue (eases : tight.EasesTo loose) (target : Option Ty)
    {tightStatements looseStatements : Analysis (List Resolved)}
    (statements : tightStatements.EasesTo looseStatements) :
    (blockValue tight target tightStatements).EasesTo
      (blockValue loose target looseStatements) := by
  apply EasesTo.withScope
  apply statements.bind
  intro branches
  cases branches with
  | nil => exact .refl _
  | cons => exact eases_unifyBranches eases _ _

/-! ## Operators and conversions -/

theorem eases_combineNumbers (eases : tight.EasesTo loose) (node : Node) (op : ArithOp)
    (left right : Resolved) (leftTag rightTag : Tag) (target : Option Ty) :
    (combineNumbers tight node op left right leftTag rightTag target).EasesTo
      (combineNumbers loose node op left right leftTag rightTag target) := by
  simp only [combineNumbers]
  split
  · exact .refl _
  · split
    · exact .refl _
    · apply EasesTo.bind (.refl _)
      intro result
      cases result with
      | none => exact .refl _
      | some result =>
          apply EasesTo.guarded (eases_checkFits eases _ _ _).discard
          exact .guarded (eases_checkFits eases _ _ _).discard (.refl _)

theorem eases_arithmetic (eases : tight.EasesTo loose) (node : Node) (op : ArithOp)
    (left right : Resolved) (target : Option Ty) :
    (arithmetic tight node op left right target).EasesTo
      (arithmetic loose node op left right target) := by
  simp only [arithmetic]
  split
  · exact .refl _
  · cases numericTag? left.type with
    | none => exact .refl _
    | some leftTag =>
        cases numericTag? right.type with
        | none => exact .refl _
        | some rightTag => exact eases_combineNumbers eases _ _ _ _ _ _ _

theorem eases_compareScalars (eases : tight.EasesTo loose) (node : Node) (operator : String)
    (ordered : Bool) (left right : Resolved) (leftTag rightTag : Tag) :
    (compareScalars tight node operator ordered left right leftTag rightTag).EasesTo
      (compareScalars loose node operator ordered left right leftTag rightTag) := by
  simp only [compareScalars]
  split
  · exact .refl _
  · cases leftTag.resolve rightTag (left.operand.explicit || right.operand.explicit) with
    | error failure => exact .refl _
    | ok tag =>
        dsimp only
        split
        · apply EasesTo.guarded (eases_checkFits eases _ _ _).discard
          split
          · exact (eases_checkFits eases _ _ _).discard
          · exact .refl _
        · exact .refl _

theorem eases_comparison (eases : tight.EasesTo loose) (node : Node) (operator : String)
    (ordered : Bool) (left right : Resolved) :
    (comparison tight node operator ordered left right).EasesTo
      (comparison loose node operator ordered left right) := by
  simp only [comparison]
  split
  · cases left.type.scalarTag? with
    | none => exact .refl _
    | some leftTag =>
        cases right.type.scalarTag? with
        | none => exact .refl _
        | some rightTag =>
            exact (eases_compareScalars eases _ _ _ _ _ _ _).bind fun _ => .refl _
  · exact .refl _

theorem eases_infixed (eases : tight.EasesTo loose) (node : Node) (operator : String)
    (op : InfixOp) (left right : Resolved) (target : Option Ty) :
    (infixed tight node operator op left right target).EasesTo
      (infixed loose node operator op left right target) := by
  cases op with
  | arithmetic op => exact eases_arithmetic eases _ _ _ _ _
  | comparison ordered => exact eases_comparison eases _ _ _ _ _
  | logical => exact .refl _

theorem eases_converted (eases : tight.EasesTo loose) (node : Node) (value : Resolved)
    (target : Ty) :
    (converted tight node value target).EasesTo (converted loose node value target) := by
  simp only [converted]
  split
  · exact .refl _
  · cases value.type.convert target with
    | error failure => exact .refl _
    | ok type => exact .guarded (eases_checkContents eases _ _ _) (.refl _)

/-! ## Arrays and ranges -/

theorem eases_vector (eases : tight.EasesTo loose) (node : Node) (first : Tag)
    (elements : List Resolved) (target : Option Ty) :
    (vector tight node first elements target).EasesTo
      (vector loose node first elements target) := by
  simp only [vector]
  cases joinScalars first 1 elements.tail with
  | error complaint => exact .refl _
  | ok tag =>
      dsimp only
      split
      · exact .refl _
      · split
        · cases (target.bind Ty.scalarTag?).filter tag.canAdapt with
          | none => exact .refl _
          | some targetTag => exact (eases_checkBranchesFit eases _ _).bind fun _ => .refl _
        · exact (eases_checkBranchesFit eases _ _).bind fun _ => .refl _

theorem eases_arrayLiteral (eases : tight.EasesTo loose) (node : Node)
    (elements : List Resolved) (target : Option Ty) :
    (arrayLiteral tight node elements target).EasesTo
      (arrayLiteral loose node elements target) := by
  cases elements with
  | nil => exact .refl _
  | cons first rest =>
      simp only [arrayLiteral]
      split
      · exact .refl _
      · cases first.type with
        | scalar tag => exact eases_vector eases _ _ _ _
        | _ => exact .refl _

theorem eases_adaptRange (eases : tight.EasesTo loose) (hint tag : Tag) (bounds : Bounds) :
    (adaptRange tight hint tag bounds).EasesTo (adaptRange loose hint tag bounds) := by
  simp only [adaptRange]
  split
  · exact (eases_checkBoundsFit eases _ _).bind fun _ => .refl _
  · exact .refl _

theorem eases_rangeLiteral (eases : tight.EasesTo loose) (node : Node) (step : Position)
    (form : RangeForm) (hint : Tag) (parts : RangeParts) (bounds : Bounds) :
    (rangeLiteral tight node step form hint parts bounds).EasesTo
      (rangeLiteral loose node step form hint parts bounds) := by
  simp only [rangeLiteral]
  split
  · exact .refl _
  · cases parts.tag with
    | none => exact .refl _
    | some tag => exact (eases_adaptRange eases _ _ _).bind fun _ => .refl _

/-! ## Elements and slices -/

theorem eases_literalElement (eases : tight.EasesTo loose) (array index : Resolved)
    (outer : Dim) :
    (literalElement tight array index outer).EasesTo
      (literalElement loose array index outer) :=
  (eases_checkFits eases _ _ _).bind fun _ => .refl _

theorem eases_element (eases : tight.EasesTo loose) (array index : Resolved) (outer : Dim) :
    (element tight array index outer).EasesTo (element loose array index outer) := by
  simp only [element]
  split
  · exact .refl _
  · cases index.type.scalarTag? with
    | none => exact .refl _
    | some tag =>
        dsimp only
        split
        · exact eases_literalElement eases _ _ _
        · exact .refl _

theorem eases_slice (eases : tight.EasesTo loose) (node : Node) (array index : Resolved)
    (form : RangeForm) (outer : Dim) :
    (slice tight node array index form outer).EasesTo
      (slice loose node array index form outer) := by
  simp only [slice]
  apply EasesTo.bind (.refl _)
  intro valid
  split
  · exact .refl _
  · cases index.type with
    | comptimeRange element form =>
        cases index.operand.bounds with
        | none => exact .refl _
        | some bounds => exact (eases_checkBoundsFit eases _ _).bind fun _ => .refl _
    | _ => exact .refl _

theorem eases_indexing (eases : tight.EasesTo loose) (node : Node) (array index : Resolved) :
    (indexing tight node array index).EasesTo (indexing loose node array index) := by
  simp only [indexing]
  split
  · exact .refl _
  · cases array.type.dims? with
    | none => exact .refl _
    | some dims =>
        cases index.type.rangeParts? with
        | none => exact eases_element eases _ _ _
        | some parts => exact eases_slice eases _ _ _ _ _

/-! ## Bindings -/

theorem eases_bindValue (eases : tight.EasesTo loose) (isMutable : Bool) (name : Ident)
    (declared : Option Ty) (value : Resolved) :
    (bindValue tight isMutable name declared value).EasesTo
      (bindValue loose isMutable name declared value) := by
  cases declared with
  | none => exact .refl _
  | some type => exact (eases_materialize eases _ _ _).bind fun _ => .refl _

theorem eases_assign (eases : tight.EasesTo loose) (name : Ident) (symbol : Symbol)
    (value : Resolved) :
    (assign tight name symbol value).EasesTo (assign loose name symbol value) :=
  (eases_materialize? eases _ _ _).bind fun _ => .refl _

theorem eases_withBound (part : String) (parts : RangeParts) (bound : Expr)
    {tightResolve looseResolve : Analysis Operand}
    (resolve : tightResolve.EasesTo looseResolve) :
    (withBound part parts bound tightResolve).EasesTo
      (withBound part parts bound looseResolve) := by
  simp only [withBound]
  split
  · exact .refl _
  · exact resolve.bind fun _ => .refl _

end Rules

end Analysis

open Analysis

/-! ## Expressions and statements -/

mutual

theorem Expr.resolve_eases {tight loose : Context} (eases : tight.EasesTo loose)
    (target : Option Ty) :
    (expr : Expr) → (expr.resolve tight target).EasesTo (expr.resolve loose target)
  | .missing | .int _ _ | .float _ _ | .bool _ _ | .string _ _ | .undef _ | .ident _ => .refl _
  | .prefixOp node operator right => by
      simp only [Expr.resolve]
      apply EasesTo.recorded
      exact (right.resolve_eases eases target).bind fun _ => .refl _
  | .infixOp node left operator right => by
      simp only [Expr.resolve]
      apply EasesTo.recorded
      cases InfixOp.ofSymbol? operator with
      | none => exact .refl _
      | some op =>
          apply (left.resolve_eases eases _).bind
          intro leftOperand
          apply (right.resolve_eases eases _).bind
          exact fun _ => eases_infixed eases _ _ _ _ _ _
  | .conversion node value type => by
      simp only [Expr.resolve]
      apply EasesTo.recorded
      apply EasesTo.guarded (.refl _)
      apply EasesTo.bind (.refl _)
      intro resolved
      apply (value.resolve_eases eases none).bind
      exact fun _ => eases_converted eases _ _ _
  | .array node items => by
      simp only [Expr.resolve]
      apply EasesTo.recorded
      apply (items.resolveAll_eases eases _).bind
      exact fun _ => eases_arrayLiteral eases _ _ _
  | .range node start stop step inclusive => by
      simp only [Expr.resolve]
      apply EasesTo.recorded
      apply EasesTo.bind (.refl _)
      intro parts
      apply (eases_withBound _ _ _ (start.resolve_eases eases _)).bind
      intro started
      apply (eases_withBound _ _ _ (stop.resolve_eases eases _)).bind
      intro stopped
      apply (eases_withBound _ _ _ (step.resolve_eases eases _)).bind
      exact fun _ => eases_rangeLiteral eases _ _ _ _ _ _
  | .index node left index => by
      simp only [Expr.resolve]
      apply EasesTo.recorded
      apply (left.resolve_eases eases none).bind
      intro array
      apply (index.resolve_eases eases _).bind
      exact fun _ => eases_indexing eases _ _ _
  | .member node left name => by
      cases name with
      | none => exact .refl _
      | some name =>
          simp only [Expr.resolve]
          apply EasesTo.recorded
          exact (left.resolve_eases eases none).bind fun _ => .refl _
  | .call node callee arguments => by
      cases callee with
      | none => exact .refl _
      | some callee =>
          simp only [Expr.resolve]
          apply EasesTo.recorded
          apply EasesTo.bind (.refl _)
          intro table
          cases table.function? callee.name with
          | some signature =>
              apply EasesTo.bind (.refl _)
              intro _
              apply (arguments.resolveArguments_eases eases signature 1 _).bind
              exact fun _ => .refl _
          | none => exact .bind (.refl _) fun _ => .told _ _ _ _
  | .block node statements => by
      simp only [Expr.resolve]
      apply EasesTo.recorded
      exact eases_blockValue eases target (statements.analyze_eases (eases.inBlock target))
  | .conditional node condition consequence alternative => by
      simp only [Expr.resolve]
      apply EasesTo.recorded
      apply (condition.resolve_eases eases _).bind
      intro operand
      apply EasesTo.bind (.refl _)
      intro _
      apply EasesTo.guarded (.refl _)
      apply (consequence.resolve_eases eases target).bind
      intro first
      split
      · exact .refl _
      · apply (alternative.resolve_eases eases target).bind
        exact fun _ => eases_unifyBranches eases _ _

theorem Exprs.resolveAll_eases {tight loose : Context} (eases : tight.EasesTo loose)
    (target : Option Ty) :
    (exprs : Exprs) → (exprs.resolveAll tight target).EasesTo (exprs.resolveAll loose target)
  | .nil => .refl _
  | .cons head tail => by
      apply (head.resolve_eases eases target).bind
      intro operand
      exact (tail.resolveAll_eases eases target).bind fun _ => .refl _

theorem Exprs.resolveArguments_eases {tight loose : Context} (eases : tight.EasesTo loose)
    (signature : Signature) (number : Nat) (parameters : List Parameter) :
    (exprs : Exprs) →
      (exprs.resolveArguments tight signature number parameters).EasesTo
        (exprs.resolveArguments loose signature number parameters)
  | .nil => .refl _
  | .cons head tail => by
      simp only [Exprs.resolveArguments]
      cases parameters with
      | nil =>
          apply (head.resolve_eases eases none).discard.bind
          exact fun _ => tail.resolveArguments_eases eases signature (number + 1) []
      | cons parameter parameters =>
          apply (head.resolve_eases eases parameter.type).bind
          intro operand
          apply (eases_materialize? eases _ _ _).bind
          exact fun _ => tail.resolveArguments_eases eases signature (number + 1) parameters

theorem Body.resolve_eases {tight loose : Context} (eases : tight.EasesTo loose)
    (target : Option Ty) :
    (body : Body) → (body.resolve tight target).EasesTo (body.resolve loose target)
  | .missing => .refl _
  | .block node statements => by
      simp only [Body.resolve]
      apply EasesTo.recorded
      exact eases_blockValue eases target (statements.analyze_eases (eases.inBlock target))

theorem Stmts.analyze_eases {tight loose : Context} (eases : tight.EasesTo loose) :
    (statements : Stmts) → (statements.analyze tight).EasesTo (statements.analyze loose)
  | .nil => .refl _
  | .cons head tail => by
      apply (head.analyze_eases eases).bind
      intro branch
      exact (tail.analyze_eases eases).bind fun _ => .refl _

theorem Stmt.analyze_eases {tight loose : Context} (eases : tight.EasesTo loose) :
    (statement : Stmt) → (statement.analyze tight).EasesTo (statement.analyze loose)
  | .missing => .refl _
  | .declaration node isMutable name type value => by
      cases name with
      | none => exact .refl _
      | some name =>
          simp only [Stmt.analyze]
          apply EasesTo.guarded (.refl _)
          apply EasesTo.bind (.refl _)
          intro declared
          split
          · exact .refl _
          · apply (value.resolve_eases eases declared).bind
            intro operand
            exact (eases_bindValue eases _ _ _ _).bind fun _ => .refl _
  | .assignment node name value => by
      cases name with
      | none => exact .refl _
      | some name =>
          simp only [Stmt.analyze]
          apply EasesTo.guarded (.refl _)
          apply EasesTo.bind (.refl _)
          intro table
          cases table.lookup? name.name with
          | none => exact .told _ _ _ _
          | some symbol =>
              apply EasesTo.bind (.refl _)
              intro _
              apply (value.resolve_eases eases symbol.type).bind
              intro operand
              exact (eases_assign eases _ _ _).bind fun _ => .refl _
  | .returning node value => by
      simp only [Stmt.analyze, eases.function]
      cases tight.function with
      | none => exact .told _ _ _ _
      | some signature =>
          apply EasesTo.bind (.refl _)
          intro _
          split
          · split
            · exact (value.resolve_eases eases none).bind fun _ => .refl _
            · exact .refl _
          · split
            · exact .refl _
            · apply (value.resolve_eases eases _).bind
              intro operand
              exact (eases_materialize eases _ _ _).discard.bind fun _ => .refl _
  | .yielding node value => by
      simp only [Stmt.analyze, eases.block]
      apply EasesTo.guarded (.refl _)
      cases tight.block with
      | none => exact .told _ _ _ _
      | some target => exact (value.resolve_eases eases target).bind fun _ => .refl _
  | .expression node value => by
      simp only [Stmt.analyze]
      exact (value.resolve_eases eases none).discard.bind fun _ => .refl _
  | .function node name parameters result body => by
      simp only [Stmt.analyze, eases.function, eases.block]
      split
      · exact .refl _
      · apply EasesTo.bind (.refl _)
        intro signature
        refine EasesTo.bind (.withScope _ ?_) fun _ => .refl _
        apply EasesTo.bind (.refl _)
        intro _
        apply EasesTo.bind (.refl _)
        intro _
        exact (body.analyze_eases (eases.inFunction signature)).bind fun _ => .refl _

theorem Body.analyze_eases {tight loose : Context} (eases : tight.EasesTo loose) :
    (body : Body) → (body.analyze tight).EasesTo (body.analyze loose)
  | .missing => .refl _
  | .block _ statements => (statements.analyze_eases eases).discard

end

/-! ## Programs -/

theorem Program.analyze_eases {tight loose : Context} (eases : tight.EasesTo loose)
    (mode : AnalysisMode) (program : Program) :
    (program.analyze tight mode).EasesTo (program.analyze loose mode) := by
  simp only [Program.analyze]
  apply EasesTo.guarded (.refl _)
  split
  · exact (program.statements.analyze_eases eases).discard
  · exact .refl _

/-- A program that is clean under some options is clean under all looser ones, and everything
that its analysis leaves is the same: the types, the slots, the bindings with what is known
of them, and the signatures. -/
theorem Program.same_under_looser_options {tight loose : Options}
    (policy : tight.policy ≤ loose.policy) (width : tight.width ≤ loose.width)
    {program : Program} {mode : AnalysisMode} {after : State}
    (run : (program.analyze tight.context mode).run (.ofTable .empty) = .ok () after)
    (clean : after.reports = []) :
    (program.analyze loose.context mode).run (.ofTable .empty) = .ok () after := by
  have eases : tight.context.EasesTo loose.context := ⟨policy, width, rfl, rfl⟩
  exact (program.analyze_eases eases mode).run run clean

namespace Sample

/-- The largest size of a narrow word, and a choice whose branches agree under every policy. -/
def bounded : Program where
  file := ""
  statements := .ofList [
    .declaration (node 1) false (some (name 2 "largest")) (.named (node 3) "usize")
      (.int (node 4) "4294967295"),
    .declaration (node 5) false (some (name 6 "chosen")) .missing
      (.conditional (node 7) (.bool (node 8) true) (.block (node 9) (branch 10 "1"))
        (.block (node 12) (branch 13 "2")))]

def tightest : Options := { branchPolicy := "strict", pointerWidth := 32 }

end Sample

theorem Program.same_under_looser_options_sample :
    ∃ after,
      (Sample.bounded.analyze Sample.tightest.context .full).run (.ofTable .empty)
        = .ok () after ∧
      after.reports = [] ∧ after.slot? 4 = some .usize ∧
      (Sample.bounded.analyze ({} : Options).context .full).run (.ofTable .empty)
        = .ok () after := by
  have policy : Sample.tightest.policy ≤ ({} : Options).policy := by decide
  have width : Sample.tightest.width ≤ ({} : Options).width := by decide
  exact ⟨_, rfl, rfl, rfl, same_under_looser_options policy width rfl rfl⟩

end ComptimeTyping
