import ComptimeTyping.Proofs.Checks
import ComptimeTyping.Proofs.Coercion
import ComptimeTyping.Proofs.Preservation

/-! Analyses that report nothing. In such an analysis every type is known, what places
ask for is concrete, and a slot is filled exactly. An unknown type is never a result
without a report. -/

namespace ComptimeTyping

open Analysis

/-! ## The discipline -/

/-- A binding of a known type, which is not comptime if the binding is mutable. -/
structure Symbol.SettledAs (symbol : Symbol) (type : Ty) : Prop where
  typed : symbol.type = some type
  settled : type.Settled
  mutable : symbol.isMutable = true → type.isComptime = false

structure Signature.Settled (signature : Signature) : Prop where
  parameters : ∀ parameter ∈ signature.parameters,
    ∃ type, parameter.type = some type ∧ type.Concrete
  result : signature.resultType.Concrete

structure Analysis.RangeParts.Settled (parts : RangeParts) : Prop where
  valid : parts.isInvalid = false
  numeric : ∀ tag, parts.tag = some tag → tag.isNumeric = true

def Discipline.clean : Discipline where
  tolerates state := state.reports = []
  earlier grows quiet := List.prefix_nil.mp (quiet ▸ grows.reports)
  operand operand := operand.type.Settled
  noted type := ∃ known, type = some known ∧ known.Settled
  asked := Ty.Concrete
  annotation := Ty.Concrete
  symbol symbol := ∃ type, symbol.SettledAs type
  signature := Signature.Settled
  slot := Ty.Fills
  parts := RangeParts.Settled

namespace Clean

open Discipline

variable {α β : Type}

/-- What a computation gives if it reports nothing. -/
abbrev Yields (computation : Analysis α) (good : α → Prop) : Prop :=
  Discipline.clean.Yields computation good

theorem not_faulted : ¬Discipline.clean.Faulted := by
  rintro ⟨state, quiet, notEmpty⟩
  exact notEmpty quiet

/-- After a report there is nothing to show. -/
theorem reported {good : α → Prop} (position : Position) (finding : Finding)
    (next : Unit → Analysis α) : Yields (report position finding >>= next) good := by
  have vacuous : Yields (report position finding) fun _ => False :=
    .report _ _ not_faulted
  exact vacuous.bind fun _ => False.elim

theorem refused {good : Operand → Prop} (position : Position) (finding : Finding) :
    Yields (refuse position finding) good :=
  reported position finding _

/-! ## Checks

A check that fails has reported. -/

theorem of_silent {computation : Analysis α} {condition : Prop}
    (silent : computation.SilentIff condition) : Yields computation fun _ => condition where
  result {before _ _} run quiet := by
    have unreported : before.reports = [] :=
      List.prefix_nil.mp (quiet ▸ (grows_of_ok _ run).reports)
    exact (silent run).mp (quiet.trans unreported.symm)

theorem passes_of_checks {computation : Analysis Bool} {condition : Prop}
    (checks : computation.Checks condition) : Yields computation (· = true) where
  result run quiet :=
    (checks.passes run).mpr ((of_silent checks.silent).result run quiet)

theorem passes_checkBoundsFit (ctx : Context) (bounds : Bounds) (tag : Tag) :
    Yields (checkBoundsFit ctx bounds tag) (· = true) :=
  passes_of_checks (checks_checkBoundsFit ctx bounds tag)

theorem passes_requireFloatStep (position : Position) (element : Tag) (form : RangeForm) :
    Yields (requireFloatStep position element form) (· = true) :=
  passes_of_checks (checks_requireFloatStep position element form)

theorem passes_validateShape (position : Position) (source : Ty) (target : List Dim)
    (label : String) : Yields (validateShape position source target label) (· = true) := by
  unfold validateShape
  split
  · exact .pure rfl
  · exact reported _ _ _

theorem passes_keepsFraction (source : Resolved) (result : Tag) :
    Yields (keepsFraction source result) (· = true) := by
  unfold keepsFraction
  split
  · split
    · exact reported _ _ _
    · exact .pure rfl
  · exact .pure rfl

theorem passes_validateRangeIndex (position : Position) (type : Ty) :
    Yields (validateRangeIndex position type) (· = true) := by
  unfold validateRangeIndex
  dsimp only
  split
  · split
    · exact .pure rfl
    · exact reported _ _ _
  · split
    · exact .pure rfl
    · split
      · exact reported _ _ _
      · exact reported _ _ _

/-! ## Operators -/

theorem settled_negation (position : Position) {right : Operand}
    (settled : right.type.Settled) :
    Yields (negation position right) (·.type.Settled) := by
  unfold negation
  split
  · exact refused _ _
  · split
    · exact refused _ _
    · split
      · exact refused _ _
      · split
        · exact .pure settled
        · exact .pure settled

theorem settled_prefixed (node : Node) (operator : String) {right : Operand}
    (settled : right.type.Settled) :
    Yields (prefixed node operator right) (·.type.Settled) := by
  unfold prefixed
  split
  · next unknown => exact absurd unknown settled.not_unknown
  · split
    · exact settled_negation _ settled
    · split
      · exact .pure (Ty.settled_scalar Tag.noConfusion)
      · exact refused _ _
    · exact .stop _

theorem known_explicitResult {left right : Operand} {leftTag rightTag : Tag}
    (target : Option Ty) (leftKnown : leftTag ≠ .unknown) (rightKnown : rightTag ≠ .unknown) :
    explicitResult left right leftTag rightTag target ≠ .unknown := by
  unfold explicitResult
  split
  · next tag found =>
      rcases Option.filter_eq_some_iff.mp found with ⟨_, numeric⟩
      rw [Bool.and_eq_true] at numeric
      exact Tag.ne_unknown_of_isNumeric numeric.1
  · repeat' split
    all_goals assumption

theorem known_arithmeticResult (node : Node) (left right : Resolved) {leftTag rightTag : Tag}
    (target : Option Ty) (leftKnown : leftTag ≠ .unknown) (rightKnown : rightTag ≠ .unknown) :
    Yields (arithmeticResult node left right leftTag rightTag target) fun result =>
      ∃ tag, result = some tag ∧ tag ≠ .unknown := by
  unfold arithmeticResult
  split
  · apply (passes_keepsFraction _ _).bind
    rintro leftKept rfl
    apply (passes_keepsFraction _ _).bind
    rintro rightKept rfl
    exact .pure ⟨_, rfl, known_explicitResult target leftKnown rightKnown⟩
  · split
    · next resolved =>
        exact .pure ⟨_, rfl, Tag.resolve_ne_unknown leftKnown rightKnown resolved⟩
    · exact reported _ _ _

theorem settled_foldComptime (op : ArithOp) (left right : Resolved) (leftTag rightTag : Tag) :
    Yields (foldComptime op left right leftTag rightTag) (·.type.Settled) := by
  have known : (if op = .div then Tag.comptimeFloat else leftTag.promote rightTag)
      ≠ .unknown := by
    split
    · exact Tag.noConfusion
    · exact Tag.promote_ne_unknown _ _
  unfold foldComptime
  dsimp only
  split
  · split
    · exact .stop _
    · exact .pure (Ty.settled_scalar known)
    · split
      · exact refused _ _
      · exact .pure (Ty.settled_scalar known)
  · exact .pure (Ty.settled_scalar known)

theorem settled_combineNumbers (ctx : Context) (node : Node) (op : ArithOp)
    (left right : Resolved) {leftTag rightTag : Tag} (target : Option Ty)
    (leftKnown : leftTag ≠ .unknown) (rightKnown : rightTag ≠ .unknown) :
    Yields (combineNumbers ctx node op left right leftTag rightTag target)
      (·.type.Settled) := by
  unfold combineNumbers
  split
  · exact refused _ _
  · split
    · exact settled_foldComptime _ _ _ _ _
    · apply (known_arithmeticResult _ _ _ _ leftKnown rightKnown).bind
      rintro _ ⟨result, rfl, known⟩
      apply Yields.guarded
      apply Yields.guarded
      split
      · exact refused _ _
      · exact .pure (Ty.settled_scalar known)

theorem known_of_numericTag? {type : Ty} {tag : Tag} (found : numericTag? type = some tag) :
    tag.isNumeric = true :=
  (Option.filter_eq_some_iff.mp found).2

theorem settled_arithmetic (ctx : Context) (node : Node) (op : ArithOp)
    {left right : Resolved} (target : Option Ty) (leftSettled : left.type.Settled)
    (rightSettled : right.type.Settled) :
    Yields (arithmetic ctx node op left right target) (·.type.Settled) := by
  unfold arithmetic
  split
  · next unknown => exact absurd unknown (leftSettled.neither_unknown rightSettled)
  · split
    · next leftFound rightFound =>
        exact settled_combineNumbers _ _ _ _ _ _
          (Tag.ne_unknown_of_isNumeric (known_of_numericTag? leftFound))
          (Tag.ne_unknown_of_isNumeric (known_of_numericTag? rightFound))
    · exact refused _ _
    · exact refused _ _

theorem settled_comparison (ctx : Context) (node : Node) (operator : String) (ordered : Bool)
    (left right : Resolved) :
    Yields (comparison ctx node operator ordered left right) (·.type.Settled) := by
  have finished : Yields (pure (Operand.typed .bool)) (·.type.Settled) :=
    .pure (Ty.settled_scalar Tag.noConfusion)
  unfold comparison
  dsimp only
  split
  · split
    · exact .after fun _ => finished
    · exact .after fun _ => finished
  · exact finished

theorem settled_infixed (ctx : Context) (node : Node) (operator : String) (op : InfixOp)
    {left right : Resolved} (target : Option Ty) (leftSettled : left.type.Settled)
    (rightSettled : right.type.Settled) :
    Yields (infixed ctx node operator op left right target) (·.type.Settled) := by
  cases op with
  | arithmetic op => exact settled_arithmetic _ _ _ _ leftSettled rightSettled
  | comparison ordered => exact settled_comparison _ _ _ _ _ _
  | logical =>
      apply Yields.after
      intro _
      apply Yields.after
      intro _
      exact .pure (Ty.settled_scalar Tag.noConfusion)

/-! ## Slots and conversions -/

theorem fills_fill (ctx : Context) {source : Resolved} {target : Ty} (label : String)
    (settled : source.type.Settled) (concrete : target.Concrete) :
    Yields (fill ctx source target label) source.type.Fills := by
  unfold fill
  split
  · next unknown => exact absurd unknown (settled.neither_unknown concrete.toSettled)
  · extract_lets assigned
    have fitting : ∀ fits, fits = true → Yields (assigned fits) source.type.Fills := by
      rintro fits rfl
      unfold assigned
      split
      · next failed => cases failed
      · split
        · exact reported _ _ _
        · next type filled =>
            have result := concrete.assign filled
            have exact := Ty.assign_again concrete.notComptime filled
            exact .guarded (.pure ⟨result, exact⟩)
    split
    · exact (passes_validateShape _ _ _ _).bind fitting
    · exact fitting true rfl

theorem settled_converted (ctx : Context) (node : Node) {value : Resolved} {target : Ty}
    (settled : value.type.Settled) (concrete : target.Concrete) :
    Yields (converted ctx node value target) (·.type.Settled) := by
  unfold converted
  split
  · next unknown => exact absurd unknown (settled.neither_unknown concrete.toSettled)
  · split
    · exact reported _ _ _
    · next type converted =>
        have result := concrete.convert converted
        dsimp only
        split
        · exact .after fun _ => .pure result.toSettled
        · exact .pure result.toSettled

/-! ## Arrays -/

theorem known_joinScalars {joined tag : Tag} {index : Nat} {elements : List Resolved}
    (joinedKnown : joined ≠ .unknown) (settled : ∀ element ∈ elements, element.type.Settled)
    (result : joinScalars joined index elements = .ok tag) : tag ≠ .unknown := by
  induction elements generalizing joined index with
  | nil =>
      cases result
      exact joinedKnown
  | cons element elements induction =>
      rw [List.forall_mem_cons] at settled
      rcases joinScalars_cons result with ⟨elementTag, next, scalar, resolved, rest⟩
      have known : elementTag ≠ .unknown := by
        have elementKnown := settled.1.known
        rw [scalar] at elementKnown
        exact elementKnown
      exact induction (Tag.resolve_ne_unknown joinedKnown known resolved) settled.2 rest

theorem settled_vector (ctx : Context) (node : Node) {first : Tag} {elements : List Resolved}
    (target : Option Ty) (known : first ≠ .unknown)
    (settled : ∀ element ∈ elements.tail, element.type.Settled) :
    Yields (vector ctx node first elements target) (·.type.Settled) := by
  unfold vector
  split
  · exact refused _ _
  · next tag joined =>
      dsimp only
      split
      · exact refused _ _
      · split
        · next comptime =>
            have result := Ty.settled_comptimeArray comptime ⟨(elements.length : Int), []⟩
            split
            · exact .after fun _ => .pure result
            · exact .pure result
        · next notComptime =>
            rw [Bool.not_eq_true] at notComptime
            have tagKnown := known_joinScalars known settled joined
            exact .after fun _ => .pure (Ty.concrete_array tagKnown notComptime _).toSettled

theorem known_joinRowTags {first : List Dim} {joined tag : Tag} {index : Nat}
    {rows : List Resolved} (joinedKnown : joined ≠ .unknown)
    (settled : ∀ row ∈ rows, row.type.Settled)
    (result : joinRowTags first joined index rows = .ok tag) :
    tag ≠ .unknown ∧ (tag.isComptime = true →
      joined.isComptime = true ∧ ∀ row ∈ rows, row.type.isComptime = true) := by
  induction rows generalizing joined index with
  | nil =>
      cases result
      exact ⟨joinedKnown, fun comptime => ⟨comptime, List.forall_mem_nil _⟩⟩
  | cons row rows induction =>
      rw [List.forall_mem_cons] at settled
      rcases joinRowTags_cons result with ⟨_, next, _, _, resolved, others⟩
      have nextKnown := Tag.resolve_ne_unknown joinedKnown settled.1.known resolved
      have nextComptime := Tag.isComptime_resolve resolved
      rcases induction nextKnown settled.2 others with ⟨tagKnown, allComptime⟩
      refine ⟨tagKnown, ?_⟩
      intro comptime
      rcases allComptime comptime with ⟨isComptime, rest⟩
      rw [isComptime, eq_comm, Bool.and_eq_true, settled.1.coherent] at nextComptime
      exact ⟨nextComptime.1, List.forall_mem_cons.mpr ⟨nextComptime.2, rest⟩⟩

theorem settled_rows (dims : Axes Dim) {first : Resolved} {others : List Resolved}
    (firstSettled : first.type.Settled) (settled : ∀ element ∈ others, element.type.Settled) :
    Yields (rows dims (first :: others) first.type.elementTag) (·.type.Settled) := by
  unfold rows
  split
  · exact refused _ _
  · next tag joined =>
      rcases known_joinRowTags firstSettled.known settled joined with ⟨known, allComptime⟩
      dsimp only
      split
      · next both =>
          rw [Bool.and_eq_true] at both
          exact .pure (Ty.settled_comptimeArray both.2 _)
      · next mixed =>
          have notComptime : tag.isComptime = false := by
            rw [← Bool.not_eq_true]
            intro comptime
            rcases allComptime comptime with ⟨firstComptime, rest⟩
            rw [firstSettled.coherent] at firstComptime
            apply mixed
            rw [Bool.and_eq_true, List.all_eq_true]
            exact ⟨List.forall_mem_cons.mpr ⟨firstComptime, rest⟩, comptime⟩
          exact .pure (Ty.concrete_array known notComptime _).toSettled

theorem settled_arrayLiteral (ctx : Context) (node : Node) {elements : List Resolved}
    {target : Option Ty} (settled : ∀ element ∈ elements, element.type.Settled)
    (asked : Discipline.clean.AskedIfAny target) :
    Yields (arrayLiteral ctx node elements target) (·.type.Settled) := by
  cases elements with
  | nil =>
      unfold arrayLiteral emptyArray
      dsimp only
      split
      · next element dims =>
          split
          · exact .pure (asked _ rfl).toSettled
          · exact reported _ _ _
      · exact refused _ _
  | cons first others =>
      unfold arrayLiteral
      dsimp only
      split
      · next someUnknown =>
          rcases List.any_eq_true.mp someUnknown with ⟨element, member, unknown⟩
          exact absurd unknown (settled element member).not_unknown
      · rw [List.forall_mem_cons] at settled
        split
        · next tag type =>
            have known := settled.1.known
            rw [type] at known
            exact settled_vector _ _ _ known settled.2
        · split
          · exact settled_rows _ settled.1 settled.2
          · exact refused _ _

/-! ## Ranges -/

theorem settled_startParts (start step : Expr) :
    Yields (startParts start step) RangeParts.Settled := by
  unfold startParts
  split
  · exact reported _ _ _
  · exact .pure ⟨rfl, nofun⟩

theorem settled_addBound (part : String) {parts : RangeParts} {bound : Resolved}
    (good : parts.Settled) (settled : bound.type.Settled) :
    Yields (addBound part parts bound) fun result => result.1.Settled := by
  unfold addBound
  split
  · next unknown => exact absurd unknown settled.not_unknown
  · split
    · exact reported _ _ _
    · next tag found =>
        have numeric := known_of_numericTag? found
        dsimp only
        split
        · refine .pure ⟨good.valid, ?_⟩
          rintro joined ⟨⟩
          exact numeric
        · next earlier some =>
            split
            · next joined resolved =>
                refine .pure ⟨good.valid, ?_⟩
                rintro result ⟨⟩
                exact Tag.isNumeric_resolve (good.numeric earlier some) numeric resolved
            · exact reported _ _ _

theorem settled_rangeOf {tag : Tag} (known : tag ≠ .unknown) (form : RangeForm)
    (bounds : Bounds) : (rangeOf tag form bounds).type.Settled := by
  unfold rangeOf
  dsimp only
  split
  · next comptime => exact Ty.settled_comptimeRange comptime form
  · next notComptime =>
      rw [Bool.not_eq_true] at notComptime
      exact (Ty.concrete_range known notComptime form).toSettled

theorem known_adaptRange (ctx : Context) (hint : Tag) {tag : Tag} (bounds : Bounds)
    (known : tag ≠ .unknown) :
    Yields (adaptRange ctx hint tag bounds) fun result =>
      ∃ element, result = some element ∧ element ≠ .unknown := by
  unfold adaptRange
  split
  · next adapts =>
      rw [Bool.and_eq_true, Bool.and_eq_true] at adapts
      have hintKnown : hint ≠ .unknown := by
        rintro rfl
        exact absurd adapts.1.2 Bool.false_ne_true
      apply (passes_checkBoundsFit _ _ _).bind
      rintro fits rfl
      exact .pure ⟨hint, rfl, hintKnown⟩
  · exact .pure ⟨tag, rfl, known⟩

theorem settled_rangeLiteral (ctx : Context) (node : Node) (step : Position)
    (form : RangeForm) (hint : Tag) {parts : RangeParts} (bounds : Bounds)
    (good : parts.Settled) :
    Yields (rangeLiteral ctx node step form hint parts bounds) (·.type.Settled) := by
  unfold rangeLiteral
  split
  · next invalid => exact absurd good.valid (ne_false_of_eq_true invalid)
  · split
    · dsimp only
      apply Yields.pure
      apply settled_rangeOf
      split
      · next usable =>
          rw [Bool.and_eq_true] at usable
          exact Tag.ne_unknown_of_isNumeric usable.2
      · exact Tag.noConfusion
    · next tag found =>
        have known := Tag.ne_unknown_of_isNumeric (good.numeric tag found)
        apply (known_adaptRange _ _ _ known).bind
        rintro _ ⟨element, rfl, elementKnown⟩
        dsimp only
        split
        · exact refused _ _
        · apply (passes_requireFloatStep _ _ _).bind
          rintro stepped rfl
          exact .pure (settled_rangeOf elementKnown form bounds)

/-! ## Indexing -/

theorem type_selectRows (array : Operand) (type : Ty) (start step : Int) (count : Nat) :
    (selectRows array type start step count).type = type := by
  unfold selectRows
  split
  · rfl
  · split <;> rfl

theorem settled_literalElement (ctx : Context) {array : Resolved} (index : Resolved)
    (outer : Dim) (settled : array.type.row.Settled) :
    Yields (literalElement ctx array index outer) (·.type.Settled) := by
  have selected : ∀ start step count,
      (selectRows array.operand array.type.row start step count).type.Settled := by
    intro start step count
    rw [type_selectRows]
    exact settled
  unfold literalElement
  dsimp only
  apply Yields.after
  intro fits
  split
  · split
    · exact .pure settled
    · split
      · exact .pure (selected _ _ _)
      · split
        · exact reported _ _ _
        · exact .pure (selected _ _ _)
  · exact .pure settled

theorem settled_element (ctx : Context) {array : Resolved} (index : Resolved) (outer : Dim)
    (settled : array.type.row.Settled) :
    Yields (element ctx array index outer) (·.type.Settled) := by
  unfold element
  dsimp only
  split
  · exact .pure settled
  · split
    · exact reported _ _ _
    · split
      · exact settled_literalElement ctx index outer settled
      · repeat' split
        all_goals first | exact .pure settled | exact reported _ _ _

theorem settled_sliced (node : Node) {array : Operand} (span : SliceSpan)
    (settled : array.type.Settled) (isArray : array.type.dims?.isSome = true) :
    Yields (sliced node array span) (·.type.Settled) := by
  unfold sliced
  split
  · next element dims type =>
      rw [type] at settled
      exact .pure (Ty.concrete_array settled.known settled.coherent _).toSettled
  · next element dims type =>
      rw [type] at settled
      split
      · exact refused _ _
      · apply Yields.pure
        rw [type_selectRows]
        exact Ty.settled_comptimeArray settled.coherent _
  · next notArray notComptimeArray =>
      cases type : array.type with
      | array element dims => exact absurd type (notArray _ _)
      | comptimeArray element dims => exact absurd type (notComptimeArray _ _)
      | scalar tag => rw [type] at isArray; cases isArray
      | range element form => rw [type] at isArray; cases isArray
      | comptimeRange element form => rw [type] at isArray; cases isArray

theorem settled_slice (ctx : Context) (node : Node) {array : Resolved} (index : Resolved)
    (form : RangeForm) (outer : Dim) (settled : array.type.Settled)
    (isArray : array.type.dims?.isSome = true) :
    Yields (slice ctx node array index form outer) (·.type.Settled) := by
  unfold slice
  apply (passes_validateRangeIndex _ _).bind
  rintro valid rfl
  split
  · next failed => cases failed
  · extract_lets spanned
    have fitting : ∀ fits, fits = true → Yields (spanned fits) (·.type.Settled) := by
      rintro fits rfl
      unfold spanned
      split
      · next failed => cases failed
      · split
        · exact refused _ _
        · exact settled_sliced node _ settled isArray
    split
    · exact (passes_checkBoundsFit _ _ _).bind fitting
    · exact fitting true rfl

theorem settled_indexing (ctx : Context) (node : Node) {array : Resolved} (index : Resolved)
    (settled : array.type.Settled) :
    Yields (indexing ctx node array index) (·.type.Settled) := by
  unfold indexing
  split
  · next unknown => exact absurd unknown settled.not_unknown
  · split
    · exact refused _ _
    · next dims found =>
        have isArray : array.type.dims?.isSome = true := by rw [found]; rfl
        split
        · exact settled_slice _ _ _ _ _ settled isArray
        · exact settled_element _ _ _ (settled.row isArray)

theorem settled_property {left : Operand} (name : Ident) (settled : left.type.Settled) :
    Yields (property left name) (·.type.Settled) := by
  unfold property
  split
  · next unknown => exact absurd unknown settled.not_unknown
  · split
    · exact .pure (Ty.settled_scalar Tag.noConfusion)
    · exact .pure (Ty.settled_scalar Tag.noConfusion)
    · exact refused _ _

/-! ## Branches -/

theorem settled_joinBranch {policy : BranchPolicy} {joined result : Operand}
    {branch : Resolved} (joinedSettled : joined.type.Settled)
    (branchSettled : branch.type.Settled)
    (ended : joinBranch policy joined branch = .ok result) : result.type.Settled := by
  rcases joinBranch_cases ended with ⟨type, rfl, rfl | resolved⟩
  · exact Ty.settled_scalar Tag.noConfusion
  · exact joinedSettled.resolve branchSettled resolved

theorem settled_joinFrom {policy : BranchPolicy} {joined result : Option Operand}
    {branches : List Resolved} (notEmpty : joined.isSome = true ∨ branches ≠ [])
    (joinedSettled : ∀ operand, joined = some operand → operand.type.Settled)
    (settled : ∀ branch ∈ branches, branch.type.Settled)
    (ended : joinFrom policy joined branches = .ok result) :
    ∃ operand, result = some operand ∧ operand.type.Settled := by
  induction branches generalizing joined with
  | nil =>
      cases ended
      rcases notEmpty with isSome | notNil
      · rcases Option.isSome_iff_exists.mp isSome with ⟨operand, found⟩
        exact ⟨operand, found, joinedSettled operand found⟩
      · exact absurd rfl notNil
  | cons branch branches induction =>
      rw [List.forall_mem_cons] at settled
      unfold joinFrom at ended
      split at ended
      · next unknown => exact absurd unknown settled.1.not_unknown
      · split at ended
        · apply induction (.inl rfl) _ settled.2 ended
          rintro operand ⟨⟩
          exact settled.1
        · next earlier =>
            split at ended
            · next next joinedNext =>
                apply induction (.inl rfl) _ settled.2 ended
                rintro operand ⟨⟩
                exact settled_joinBranch (joinedSettled _ rfl) settled.1 joinedNext
            · cases ended

theorem settled_joinBranches (ctx : Context) {branches : List Resolved}
    (notEmpty : branches ≠ []) (settled : ∀ branch ∈ branches, branch.type.Settled) :
    Yields (joinBranches ctx branches) (·.type.Settled) := by
  have joinable : ∀ {result}, joinFrom ctx.policy none branches = .ok result →
      ∃ operand, result = some operand ∧ operand.type.Settled :=
    settled_joinFrom (.inr notEmpty) (fun _ absent => nomatch absent) settled
  unfold joinBranches
  split
  · exact reported _ _ _
  · next ended =>
      rcases joinable ended with ⟨operand, ⟨⟩, _⟩
  · next joined ended =>
      rcases joinable ended with ⟨operand, ⟨⟩, joinedSettled⟩
      extract_lets ended
      have finished : Yields (ended ()) (·.type.Settled) := by
        unfold ended
        split
        · exact .pure (settled _ List.mem_cons_self)
        · exact .pure joinedSettled
      split
      · exact .guarded finished
      · exact finished

/-! ## Annotations -/

theorem concrete_namedType (node : Node) (name : String) :
    Yields (namedType node name) Ty.Concrete := by
  unfold namedType
  split
  · next tag parsed =>
      have spellable := (Option.filter_eq_some_iff.mp parsed).2
      apply Yields.pure
      cases tag <;> cases spellable <;> exact Ty.concrete_scalar Tag.noConfusion rfl
  · exact reported _ _ _

theorem concrete_rangeType (node : Node) {element : Ty} (concrete : element.Concrete) :
    Yields (rangeType node element) Ty.Concrete := by
  unfold rangeType
  split
  · next unknown => exact absurd unknown concrete.not_unknown
  · split
    · next type formed =>
        rcases Ty.range?_eq_ok_iff.mp formed with ⟨allowed, rfl⟩
        simp only [Ty.WellFormed, Ty.isRangeElement, Bool.and_eq_true,
          Bool.not_eq_true'] at allowed
        exact .pure (Ty.concrete_range (Tag.ne_unknown_of_isNumeric allowed.1) allowed.2 _)
    · exact reported _ _ _

theorem concrete_of_array? {element : Tag} {dims : List Dim} {type : Ty}
    (formed : Ty.array? element dims = .ok type) : type.Concrete := by
  rcases Ty.array?_eq_ok_iff.mp formed with ⟨axes, _, ⟨allowed, _⟩, rfl⟩
  unfold Ty.isArrayElement Tag.isConcrete at allowed
  simp only [Bool.and_eq_true, bne_iff_ne, Bool.not_eq_true'] at allowed
  exact Ty.concrete_array allowed.1.1 allowed.1.2 axes

theorem concrete_enclose (enclosing : Option Enclosing) (position : Position) {element : Ty}
    (concrete : element.Concrete) : Yields (enclose enclosing position element) Ty.Concrete := by
  unfold enclose
  split
  · exact .pure concrete
  · split
    · next unknown => exact absurd unknown concrete.not_unknown
    · split
      · exact reported _ _ _
      · split
        · next formed => exact .pure (concrete_of_array? formed)
        · exact reported _ _ _

theorem exists_readDims (node : Node) (dims : List (Option DimExpr)) :
    Yields (readDims node dims) fun read => read.isSome = true := by
  induction dims with
  | nil => exact .pure rfl
  | cons dim dims induction =>
      cases dim with
      | none => exact .stop _
      | some dim =>
          unfold readDims
          split
          · apply induction.bind
            intro read isSome
            apply Yields.pure
            rw [Option.isSome_map]
            exact isSome
          · split
            · exact reported _ _ _
            · apply induction.bind
              intro read isSome
              apply Yields.pure
              rw [Option.isSome_map]
              exact isSome

theorem concrete_resolveIn (type : TypeExpr) (enclosing : Option Enclosing) :
    Yields (type.resolveIn enclosing) Ty.Concrete := by
  induction type generalizing enclosing with
  | missing => exact .stop _
  | named node name =>
      apply (concrete_namedType _ _).bind
      exact fun element concrete => concrete_enclose _ _ concrete
  | array node dims element induction =>
      unfold TypeExpr.resolveIn
      dsimp only
      split
      · exact .stop _
      · apply (exists_readDims _ _).bind
        intro read isSome
        split
        · cases isSome
        · split
          · exact induction _
          · exact induction _
  | range node element induction =>
      unfold TypeExpr.resolveIn
      dsimp only
      split
      · exact .stop _
      · apply (induction none).bind
        intro resolved concrete
        apply (concrete_rangeType _ concrete).bind
        exact fun range concreteRange => concrete_enclose _ _ concreteRange

theorem concrete_declaredType (name : String) (type : TypeExpr) :
    Yields (declaredType name type) Discipline.clean.AskedIfAny := by
  unfold declaredType
  split
  · exact .pure askedIfAny_none
  · apply (concrete_resolveIn type none).bind
    intro resolved concrete
    split
    · exact reported _ _ _
    · exact .pure (askedIfAny_some concrete)

/-! ## Signatures -/

theorem concrete_parameterType (name : String) (type : TypeExpr) :
    Yields (parameterType name type) Ty.Concrete := by
  apply (concrete_resolveIn type none).bind
  intro resolved concrete
  split
  · exact reported _ _ _
  · exact .pure concrete

theorem concrete_readParameters (node : Node) (function : String) {read : List Parameter}
    (parameters : List (Option ParameterExpr))
    (readConcrete : ∀ parameter ∈ read, ∃ type, parameter.type = some type ∧ type.Concrete) :
    Yields (readParameters node function read parameters) fun result =>
      ∀ parameter ∈ result, ∃ type, parameter.type = some type ∧ type.Concrete := by
  induction parameters generalizing read with
  | nil => exact .pure readConcrete
  | cons parameter parameters induction =>
      cases parameter with
      | none => exact .stop _
      | some parameter =>
          unfold readParameters
          dsimp only
          split
          · exact .stop _
          · split
            · exact .stop _
            · apply (concrete_parameterType _ _).bind
              intro type concrete
              split
              · exact reported _ _ _
              · apply induction
                intro other member
                rcases List.mem_append.mp member with earlier | last
                · exact readConcrete other earlier
                · rcases List.mem_singleton.mp last with rfl
                  exact ⟨type, rfl, concrete⟩

theorem settled_readSignature (node : Node) (name : Option Ident)
    (parameters : List (Option ParameterExpr)) (result : TypeExpr) (body : Body) :
    Yields (readSignature node name parameters result body) Signature.Settled := by
  unfold readSignature
  split
  · exact .stop _
  · next name =>
      dsimp only
      split
      · exact .stop _
      · apply (concrete_readParameters _ _ _ (List.forall_mem_nil _)).bind
        intro read readConcrete
        split
        · exact .pure ⟨readConcrete, Ty.concrete_scalar Tag.noConfusion rfl⟩
        · apply (concrete_resolveIn result none).bind
          exact fun type concrete => .pure ⟨readConcrete, concrete⟩

/-! ## Bindings -/

theorem settledAs_boundSymbol (isMutable : Bool) (name : String) {type : Ty} (value : Operand)
    (settled : type.Settled) (mutable : isMutable = true → type.isComptime = false) :
    (boundSymbol isMutable name type value).SettledAs type := by
  unfold boundSymbol
  split
  · exact ⟨rfl, settled, mutable⟩
  · exact ⟨rfl, settled, mutable⟩

theorem settled_inferred (ctx : Context) (isMutable : Bool) (name : Ident) {value : Resolved}
    (settled : value.type.Settled) :
    Yields (bindingType ctx isMutable name none value) fun type =>
      ∃ known, (boundSymbol isMutable name.name type value.operand).SettledAs known := by
  unfold bindingType
  dsimp only
  split
  · exact reported _ _ _
  · split
    · exact reported _ _ _
    · next acceptable =>
        apply Yields.pure
        refine ⟨_, settledAs_boundSymbol _ _ _ settled ?_⟩
        intro isTrue
        rw [isTrue, Bool.true_and, Bool.not_eq_true] at acceptable
        exact acceptable

theorem settled_ofSymbol (position : Position) {symbol : Symbol} {type : Ty}
    (settled : symbol.SettledAs type) :
    (Operand.ofSymbol position symbol).type.Settled := by
  have typed : (Operand.ofSymbol position symbol).type = symbol.type.getD .unknown := by
    unfold Operand.ofSymbol
    dsimp only
    split <;> rfl
  rw [typed, settled.typed]
  exact settled.settled

/-! ## What places ask for -/

theorem concrete_elementTarget {target : Option Ty}
    (asked : Discipline.clean.AskedIfAny target) :
    Discipline.clean.AskedIfAny (elementTarget target) := by
  unfold elementTarget
  split
  · exact askedIfAny_some ((asked _ rfl).row rfl)
  · exact askedIfAny_none

theorem concrete_boundHint {target : Option Ty}
    (asked : Discipline.clean.AskedIfAny target) :
    Discipline.clean.AskedIfAny (boundHint (rangeHint target)) := by
  unfold boundHint
  split
  · exact askedIfAny_none
  · next known =>
      apply askedIfAny_some
      refine Ty.concrete_scalar known ?_
      unfold rangeHint
      split
      · next element form found =>
          rcases Option.bind_eq_some_iff.mp found with ⟨type, rfl, parts⟩
          have concrete := asked type rfl
          have coherent := concrete.coherent.trans concrete.notComptime
          cases type <;> cases parts <;> exact coherent
      · rfl

end Clean

open Clean in
theorem Discipline.lawful_clean : Discipline.clean.Lawful where
  notedOperand settled := ⟨_, rfl, settled⟩
  notedSymbol := by
    rintro symbol ⟨type, settled⟩
    exact ⟨type, settled.typed, settled.settled⟩
  notedAsked concrete := ⟨_, rfl, concrete.toSettled⟩
  unknown faulted := absurd faulted not_faulted
  integer node text := by
    unfold integerLiteral
    split
    · exact .pure (Ty.settled_scalar Tag.noConfusion)
    · exact .stop _
  float node text := by
    unfold floatLiteral
    split
    · exact .pure (Ty.settled_scalar Tag.noConfusion)
    · exact .stop _
  bool := Ty.settled_scalar Tag.noConfusion
  string := Ty.settled_scalar Tag.noConfusion
  void := Ty.settled_scalar Tag.noConfusion
  name position := by
    rintro ⟨type, settled⟩
    exact settled_ofSymbol position settled
  prefixed node operator := settled_prefixed node operator
  infixed ctx node operator op left right asked :=
    settled_infixed ctx node operator op _ left right
  converted ctx node _ _ value target :=
    (settled_converted ctx node value target).mono fun _ settled _ => settled
  array ctx node _ := settled_arrayLiteral ctx node
  rangeStart := settled_startParts
  rangeBound part := settled_addBound part
  range ctx node step _ good _ asked := settled_rangeLiteral ctx node step _ _ _ good
  indexing ctx node array index := settled_indexing ctx node _ array
  property name := settled_property name
  joined ctx _ _ some _ settled :=
    (settled_joinBranches ctx some settled).mono fun _ joined _ => joined
  answered concrete := concrete.toSettled
  askedBool := Ty.concrete_scalar Tag.noConfusion rfl
  askedIndex isRange := by
    cases isRange with
    | false => exact Ty.concrete_scalar Tag.noConfusion rfl
    | true => exact Ty.concrete_range Tag.noConfusion rfl _
  askedElement := concrete_elementTarget
  askedBound := concrete_boundHint
  askedConversion _ := concrete_resolveIn _ none
  annotatedDeclaration name _ := concrete_declaredType name _
  askedAnnotation := id
  signature node name body _ _ := settled_readSignature node name _ _ body
  parameter := by
    intro signature parameter settled member
    rcases settled.parameters parameter member with ⟨type, typed, concrete⟩
    exact ⟨type, typed, concrete.toSettled, fun _ => concrete.notComptime⟩
  askedArgument := by
    intro signature parameter settled member type typed
    rcases settled.parameters parameter member with ⟨known, typedAs, concrete⟩
    rw [typedAs] at typed
    cases typed
    exact concrete
  askedResult settled := settled.result
  filled ctx label settled concrete :=
    (fills_fill ctx label settled concrete).mono fun _ fills _ => fills
  annotated ctx isMutable name label settled concrete := by
    apply (fills_fill ctx label settled concrete).mono
    intro type fills
    have result := fills.concrete
    exact ⟨type, settledAs_boundSymbol _ _ _ result.toSettled fun _ => result.notComptime⟩
  inferred ctx isMutable name := settled_inferred ctx isMutable name
  untyped name isMutable faulted := absurd faulted not_faulted
  uninitialized name concrete := ⟨_, rfl, concrete.toSettled, fun _ => concrete.notComptime⟩
  immutable name faulted := absurd faulted not_faulted
  askedAssignment := by
    rintro symbol ⟨known, settled⟩ changeable type typed
    rw [settled.typed] at typed
    cases typed
    rcases changeable with mutable | faulted
    · exact settled.settled.concrete (settled.mutable mutable)
    · exact absurd faulted not_faulted
  initialized := by
    rintro symbol ⟨type, settled⟩
    exact ⟨type, settled.typed, settled.settled, settled.mutable⟩

end ComptimeTyping
