import ComptimeTyping.Proofs.Literals
import ComptimeTyping.Proofs.TypeRule

/-! A float range with a start and an end has a step. The element of a range may turn into a
float long after the range was written. Where a comptime range takes on a type the rule is
checked again; it is not where a concrete range is converted, nor where branches are joined to a
comptime range. Apart from these two, no range gets around the rule. -/

namespace ComptimeTyping

open Analysis

/-! ## The rule -/

/-- A range of floats that has both ends has a step. -/
def RangeForm.Advances (form : RangeForm) (element : Tag) : Prop :=
  element.isFloat = true → form.hasStart = true → form.hasEnd = true → form.hasStep = true

def Ty.Stepped (type : Ty) : Prop :=
  ∀ element form, type.rangeParts? = some (element, form) → form.Advances element

namespace Ty

def isFloatRange (type : Ty) : Bool :=
  type.rangeParts?.any fun parts => parts.1.isFloat

/-- A range with both ends and no step. -/
def lacksStep (type : Ty) : Bool :=
  type.rangeParts?.any fun parts => parts.2.isBounded && !parts.2.hasStep

def isComptimeRange : Ty → Bool
  | .comptimeRange _ _ => true
  | _ => false

theorem stepped_of_rangeParts? {type : Ty} (none : type.rangeParts? = none) : type.Stepped := by
  intro element form found
  rw [none] at found
  cases found

theorem stepped_range {element : Tag} {form : RangeForm} (advances : form.Advances element) :
    (Ty.range element form).Stepped := by
  rintro _ _ ⟨⟩
  exact advances

theorem stepped_comptimeRange_iff {element : Tag} {form : RangeForm} :
    (Ty.comptimeRange element form).Stepped ↔ form.Advances element := by
  simp [Stepped, rangeParts?]

/-- What breaks the rule is a float range without a step. -/
theorem not_advances {type : Ty} {element : Tag} {form : RangeForm}
    (found : type.rangeParts? = some (element, form)) {other : Tag}
    (fails : ¬form.Advances other) : type.lacksStep = true ∧ other.isFloat = true := by
  simp only [RangeForm.Advances, Classical.not_imp, Bool.not_eq_true] at fails
  rcases fails with ⟨float, start, stop, step⟩
  simp [lacksStep, found, RangeForm.isBounded, float, start, stop, step]

end Ty

/-! ## Where the rule is not checked again -/

/-- A concrete range without a step is not converted to floats. -/
def Ty.ConvertsStepped (source result : Ty) : Prop :=
  source.isComptime = false → source.lacksStep = true → result.isFloatRange = false

/-- Where the joint type of branches is a comptime range, none of floats follows a first one
without a step. -/
def Ty.JoinsStepped (joint first other : Ty) : Prop :=
  joint.isComptimeRange = true → first.lacksStep = true → other.isFloatRange = false

/-- By the types that a state has noted, ranges are converted and joined only where they need
not be checked again. -/
def Coverage.rechecked (state : State) : Coverage where
  type _ := True
  array _ := True
  range _ := True
  conversion node value := ∀ source result, state.Noted value source →
    state.Noted node result → source.ConvertsStepped result
  join node nodes := ∀ first others, nodes = first :: others → ∀ other ∈ others,
    ∀ joint type branch, state.Noted node joint → state.Noted first type →
      state.Noted other branch → joint.JoinsStepped type branch

/-- Up to the end of an analysis that reports nothing. -/
def TypeRule.stepped (final : State) : TypeRule where
  tolerates state := state.GrowsTo final ∧ final.reports = []
  earlier grows tolerated := ⟨grows.trans tolerated.1, tolerated.2⟩
  keeps := Ty.Stepped
  asks type := type.Stepped ∧ type.isComptimeRange = false

namespace FloatSteps

open Discipline

variable {α : Type} {final : State}

/-- What holds if nothing is reported. -/
theorem of_clean {computation : Analysis α} {good : α → Prop}
    (yields : Clean.Yields computation good) :
    (TypeRule.stepped final).Yields computation good := by
  constructor
  intro before after value run tolerated
  have quiet : after.reports <+: [] := tolerated.2 ▸ tolerated.1.reports
  exact yields.result run (List.prefix_nil.mp quiet)

theorem noted_of_sees {node : Node} {type : Ty}
    (sees : (TypeRule.stepped final).discipline.Sees node type) : final.Noted node type := by
  rcases sees with ⟨state, tolerated, noted⟩
  exact noted.mono tolerated.1

theorem not_faulted : ¬(TypeRule.stepped final).Faulted := by
  rintro ⟨state, tolerated, told⟩
  have quiet : state.reports <+: [] := tolerated.2 ▸ tolerated.1.reports
  exact told (List.prefix_nil.mp quiet)

/-! ## Coercion -/

/-- Two tags agree on a float exactly if one of them is a float. -/
theorem isFloat_of_resolve {left right tag : Tag} (resolved : left.resolve right false = .ok tag) :
    tag.isFloat = true ↔ left.isFloat = true ∨ right.isFloat = true := by
  cases left <;> cases right <;> cases resolved <;> decide

theorem resolve_cases {left right type : Ty} {explicit : Bool}
    (resolved : left.resolve right explicit = .ok type) :
    type.rangeParts? = none ∨ left.resolveRanges right explicit = .ok type := by
  simp only [Ty.resolve] at resolved
  split at resolved
  · cases resolved
    exact .inl rfl
  · split at resolved
    · rcases Ty.exists_of_map_eq_ok resolved with ⟨tag, _, rfl⟩
      exact .inl rfl
    · simp only [Ty.resolveComptimeArrays] at resolved
      split at resolved <;> cases resolved
      exact .inl rfl
    · rcases Ty.exists_of_assignArray resolved with ⟨axes, rfl⟩
      exact .inl rfl
    · rcases Ty.exists_of_assignArray resolved with ⟨axes, rfl⟩
      exact .inl rfl
    · rcases Ty.exists_of_assignArray resolved with ⟨axes, rfl⟩
      exact .inl rfl
    · exact .inr resolved

/-- A range that fills a range keeps its own form. Unless it is comptime or converted, it keeps
its element as well. -/
theorem exists_of_assignRange {source type : Ty} {element : Tag} {form : RangeForm}
    {explicit : Bool} (filled : source.assignRange element form explicit = .ok type) :
    ∃ other kept, source.rangeParts? = some (other, kept) ∧ type = .range element kept ∧
      (explicit = false → source.isComptime = false → other = element) := by
  cases source with
  | comptimeRange other kept =>
      simp only [Ty.assignRange] at filled
      repeat' split at filled
      all_goals cases filled
      all_goals
        refine ⟨other, kept, rfl, rfl, fun _ comptime => ?_⟩
        cases comptime
  | range other kept =>
      simp only [Ty.assignRange] at filled
      split at filled
      · next same =>
          cases filled
          exact ⟨other, kept, rfl, by rw [same], fun _ _ => same⟩
      · repeat' split at filled
        all_goals cases filled
        next explicitly => exact ⟨other, kept, rfl, rfl, fun implicit => by simp_all⟩
  | scalar | array | comptimeArray => cases filled

/-- What fills a slot is what was asked for, no range, or a range that fills a range. -/
theorem assign_cases {source target type : Ty} {explicit : Bool}
    (notOpen : target.isComptimeRange = false)
    (filled : source.assign target explicit = .ok type) :
    type = target ∨ type.rangeParts? = none ∨ ∃ element form,
      source.assignRange element form explicit = .ok type := by
  simp only [Ty.assign] at filled
  split at filled
  · cases filled
    exact .inl rfl
  · split at filled
    · split at filled
      · exact .inl (Ty.eq_of_assignScalar filled)
      · cases filled
    · rcases Ty.exists_of_assignArray filled with ⟨axes, rfl⟩
      exact .inr (.inl rfl)
    · split at filled
      · rcases resolve_cases filled with none | ranged
        · exact .inr (.inl none)
        · cases ranged
      · cases filled
    · exact .inr (.inr ⟨_, _, filled⟩)
    · cases notOpen

theorem convert_cases {source target type : Ty} (converted : source.convert target = .ok type) :
    type = target ∨ source.assign target true = .ok type := by
  simp only [Ty.convert] at converted
  repeat' split at converted
  all_goals first
    | cases converted
      exact .inl rfl
    | exact .inr converted
    | cases converted

/-! ## Ranges -/

theorem advances_bare (element : Tag) : RangeForm.bare.Advances element :=
  fun _ start => nomatch start

theorem asks_of_rangeParts? {type : Ty} (none : type.rangeParts? = none) :
    (TypeRule.stepped final).asks type := by
  refine ⟨Ty.stepped_of_rangeParts? none, ?_⟩
  cases type with
  | comptimeRange => cases none
  | scalar | array | comptimeArray | range => rfl

theorem asks_range {element : Tag} {form : RangeForm} (advances : form.Advances element) :
    (TypeRule.stepped final).asks (.range element form) :=
  ⟨Ty.stepped_range advances, rfl⟩

theorem advances_requireFloatStep (position : Position) (element : Tag) (form : RangeForm) :
    Clean.Yields (requireFloatStep position element form) fun _ => form.Advances element := by
  simp only [requireFloatStep]
  split
  · exact Clean.reported _ _ _
  · next holds =>
      apply Yields.pure
      intro float start stop
      simpa [RangeForm.isBounded, float, start, stop] using holds

theorem stepped_rangeOf {tag : Tag} {form : RangeForm} (bounds : Bounds)
    (advances : form.Advances tag) : (rangeOf tag form bounds).type.Stepped := by
  simp only [rangeOf]
  split
  · exact Ty.stepped_comptimeRange_iff.mpr advances
  · exact Ty.stepped_range advances

theorem stepped_rangeLiteral (ctx : Context) (node : Node) (step : Position) {form : RangeForm}
    (hint : Tag) {parts : RangeParts} {bounds : Bounds} (read : BoundsRead form parts bounds) :
    Clean.Yields (rangeLiteral ctx node step form hint parts bounds) (·.type.Stepped) := by
  have unknown : Operand.unknown.type.Stepped := Ty.stepped_of_rangeParts? rfl
  simp only [rangeLiteral]
  split
  · exact .pure unknown
  · next valid =>
      split
      · next untagged =>
          -- Without bounds there is no start.
          have missing := (read.untagged (by simpa using valid) untagged).1
          refine .pure (stepped_rangeOf bounds ?_)
          intro _ start
          rw [missing] at start
          cases start
      · apply Yields.after
        intro adapted
        split
        · exact .pure unknown
        · next element =>
            split
            · exact Clean.refused _ _
            · apply (advances_requireFloatStep _ element form).bind
              intro passed advances
              split
              · exact .pure (stepped_rangeOf bounds advances)
              · exact .pure unknown

/-! ## Slots and conversions -/

theorem advances_checkContents (ctx : Context) (site : Position) (source : Resolved)
    (element : Tag) (form : RangeForm) :
    Clean.Yields (checkContents ctx site source (.range element form)) fun _ =>
      form.Advances element := by
  have checked : Clean.Yields (discard (requireFloatStep site element form)) fun _ =>
      form.Advances element :=
    (advances_requireFloatStep site element form).bind fun _ advances => .pure advances
  simp only [checkContents]
  split
  · exact .after fun _ => checked
  · exact checked

/-- A comptime range is checked when it fills a slot; any other one keeps its element. -/
theorem asks_fill (ctx : Context) {source : Resolved} {target : Ty} (label : String)
    (stepped : source.type.Stepped) (asked : (TypeRule.stepped final).asks target) :
    Clean.Yields (fill ctx source target label) (TypeRule.stepped final).asks := by
  refine .fill asked fun filled => ?_
  rcases assign_cases asked.2 filled with rfl | none | ⟨element, form, ranged⟩
  · exact .inl asked
  · exact .inl (asks_of_rangeParts? none)
  · rcases exists_of_assignRange ranged with ⟨other, kept, found, rfl, same⟩
    cases comptime : source.type.isComptime with
    | true =>
        have checked := advances_checkContents ctx source.position source element kept
        exact .inr ⟨rfl, checked.mono fun _ => asks_range⟩
    | false =>
        rw [same rfl comptime] at found
        exact .inl (asks_range (stepped _ _ found))

/-- A conversion checks a comptime range, but not a concrete one. -/
theorem stepped_converted (ctx : Context) (node : Node) {value : Resolved} {target : Ty}
    (asked : (TypeRule.stepped final).asks target) :
    Clean.Yields (converted ctx node value target) fun operand =>
      value.type.ConvertsStepped operand.type → operand.type.Stepped := by
  refine .converted (fun _ => asked.1) fun converts => ?_
  have filled := (convert_cases converts).imp_right (assign_cases asked.2)
  rcases filled with rfl | rfl | none | ⟨element, form, ranged⟩
  · exact .inl fun _ => asked.1
  · exact .inl fun _ => asked.1
  · exact .inl fun _ => Ty.stepped_of_rangeParts? none
  · rcases exists_of_assignRange ranged with ⟨other, kept, found, rfl, _⟩
    cases comptime : value.type.isComptime with
    | true =>
        have checked := advances_checkContents ctx node.position value element kept
        exact .inr ⟨rfl, checked.mono fun _ advances _ => Ty.stepped_range advances⟩
    | false =>
        refine .inl fun convertsStepped => Ty.stepped_range ?_
        by_contra fails
        rcases Ty.not_advances found fails with ⟨lacking, float⟩
        have notFloat : element.isFloat = false := convertsStepped comptime lacking
        rw [float] at notFloat
        cases notFloat

/-! ## Branches -/

/-- What branches are joined to. A comptime range is not checked. -/
structure JoinedTo (type : Ty) : Prop where
  settled : type.Settled
  stepped : type.isComptimeRange = false → type.Stepped

theorem JoinedTo.of_range {element : Tag} {form : RangeForm}
    (settled : (Ty.range element form).Settled) (advances : form.Advances element) :
    JoinedTo (.range element form) :=
  ⟨settled, fun _ => Ty.stepped_range advances⟩

/-- A concrete range that is joined keeps both its element and its form. -/
theorem joinedTo_resolveRanges {joined branch type : Ty} (before : JoinedTo joined)
    (settled : branch.Settled) (stepped : branch.Stepped)
    (resolved : joined.resolveRanges branch false = .ok type) : JoinedTo type := by
  have typeSettled := before.settled.resolveRanges settled resolved
  have coherent := before.settled.coherent
  simp only [Ty.resolveRanges] at resolved
  split at resolved
  · rcases Ty.exists_of_map_eq_ok resolved with ⟨tag, _, rfl⟩
    exact ⟨typeSettled, fun comptime => by cases comptime⟩
  · rcases Ty.exists_of_map_eq_ok resolved with ⟨tag, agreed, rfl⟩
    rcases (Literals.eq_of_resolve agreed).2 settled.coherent with rfl
    exact .of_range typeSettled (stepped _ _ rfl)
  · rcases Ty.exists_of_map_eq_ok resolved with ⟨tag, agreed, rfl⟩
    rcases (Literals.eq_of_resolve agreed).1 coherent with rfl
    exact .of_range typeSettled (before.stepped rfl _ _ rfl)
  · rcases Ty.exists_of_map_eq_ok resolved with ⟨tag, agreed, rfl⟩
    rcases (Literals.eq_of_resolve agreed).1 coherent with rfl
    exact .of_range typeSettled (before.stepped rfl _ _ rfl)
  · cases resolved

theorem joinedTo_joinBranch {policy : BranchPolicy} {joined result : Operand}
    {branch : Resolved} (before : JoinedTo joined.type) (settled : branch.type.Settled)
    (stepped : branch.type.Stepped) (ended : joinBranch policy joined branch = .ok result) :
    JoinedTo result.type := by
  rcases joinBranch_cases ended with ⟨type, rfl, rfl | resolved⟩
  · exact ⟨Ty.settled_scalar nofun, fun _ => Ty.stepped_of_rangeParts? rfl⟩
  · rcases resolve_cases resolved with none | ranged
    · exact ⟨before.settled.resolve settled resolved, fun _ => Ty.stepped_of_rangeParts? none⟩
    · exact joinedTo_resolveRanges before settled stepped ranged

/-- A comptime range is joined of comptime ranges. Its form is that of the first one, and its
element is a float if one of theirs is. -/
theorem exists_of_joinBranch {policy : BranchPolicy} {joined result : Operand}
    {branch : Resolved} {element : Tag} {form : RangeForm}
    (ended : joinBranch policy joined branch = .ok result)
    (isOpen : result.type = .comptimeRange element form) :
    ∃ other, joined.type = .comptimeRange other form ∧
      (element.isFloat = true ↔ other.isFloat = true ∨ branch.type.isFloatRange = true) := by
  rcases joinBranch_cases ended with ⟨type, rfl, rfl | resolved⟩
  · cases isOpen
  · obtain rfl : type = .comptimeRange element form := isOpen
    rcases resolve_cases resolved with none | ranged
    · cases none
    · simp only [Ty.resolveRanges] at ranged
      split at ranged
      · next other kept added _ joinedType branchType =>
          rcases Ty.exists_of_map_eq_ok ranged with ⟨tag, agreed, same⟩
          cases same
          refine ⟨other, joinedType, ?_⟩
          simp [isFloat_of_resolve agreed, branchType, Ty.isFloatRange, Ty.rangeParts?]
      · rcases Ty.exists_of_map_eq_ok ranged with ⟨_, _, ⟨⟩⟩
      · rcases Ty.exists_of_map_eq_ok ranged with ⟨_, _, ⟨⟩⟩
      · rcases Ty.exists_of_map_eq_ok ranged with ⟨_, _, ⟨⟩⟩
      · cases ranged

theorem exists_of_joinFrom {policy : BranchPolicy} {joined result : Operand}
    {branches : List Resolved} {element : Tag} {form : RangeForm}
    (ended : joinFrom policy (some joined) branches = .ok (some result))
    (isOpen : result.type = .comptimeRange element form) :
    ∃ other, joined.type = .comptimeRange other form ∧
      (element.isFloat = true ↔ other.isFloat = true ∨
        ∃ branch ∈ branches, branch.type.isFloatRange = true) := by
  induction branches generalizing joined with
  | nil =>
      cases ended
      exact ⟨element, isOpen, by simp⟩
  | cons branch branches induction =>
      simp only [joinFrom] at ended
      split at ended
      · next unknown =>
          rcases induction ended with ⟨other, same, float⟩
          have notFloat : branch.type.isFloatRange = false := by
            rw [show branch.type = .unknown from eq_of_beq unknown]
            rfl
          exact ⟨other, same, by simp [float, notFloat]⟩
      · split at ended
        · next step =>
            rcases induction ended with ⟨other, same, float⟩
            rcases exists_of_joinBranch step same with ⟨first, sameFirst, floatFirst⟩
            exact ⟨first, sameFirst, by simp [float, floatFirst, or_assoc]⟩
        · cases ended

/-- The element of a range changes, and `floats` is all that can make a float of it anew. -/
theorem advances_iff {form : RangeForm} {tag element : Tag} {floats : Prop}
    (advances : form.Advances tag)
    (float : element.isFloat = true ↔ tag.isFloat = true ∨ floats) :
    form.Advances element ↔ ((form.isBounded && !form.hasStep) = true → ¬floats) := by
  simp only [RangeForm.Advances, RangeForm.isBounded, float, Bool.and_eq_true, Bool.not_eq_true'] at *
  cases step : form.hasStep with
  | true => simp
  | false =>
      simp only [step, Bool.false_eq_true, and_true] at advances ⊢
      tauto

/-- What branches are joined to breaks the rule exactly if it is a comptime range and one of
floats follows a first one without a step. -/
theorem stepped_iff_of_joinFrom {policy : BranchPolicy} {first : Resolved}
    {others : List Resolved} {result : Operand}
    (settled : ∀ branch ∈ first :: others, branch.type.Settled)
    (stepped : ∀ branch ∈ first :: others, branch.type.Stepped)
    (ended : joinFrom policy none (first :: others) = .ok (some result)) :
    result.type.Stepped ↔ ∀ other ∈ others, result.type.JoinsStepped first.type other.type := by
  rw [List.forall_mem_cons] at settled stepped
  have known : ¬first.isUnknown = true := settled.1.not_unknown
  rw [joinFrom, if_neg known] at ended
  have keeps : ∀ branch ∈ others, ∀ joined result : Operand, JoinedTo joined.type →
      joinBranch policy joined branch = .ok result → JoinedTo result.type :=
    fun branch member _ _ before => joinedTo_joinBranch before (settled.2 branch member)
      (stepped.2 branch member)
  have joined := forall_joinFrom_some keeps ⟨settled.1, fun _ => stepped.1⟩ ended result rfl
  cases same : result.type with
  | comptimeRange element form =>
      rcases exists_of_joinFrom ended same with ⟨tag, firstType, float⟩
      have firstParts : first.type.rangeParts? = some (tag, form) :=
        congrArg Ty.rangeParts? firstType
      rw [Ty.stepped_comptimeRange_iff, advances_iff (stepped.1 _ _ firstParts) float]
      simp only [Ty.JoinsStepped, Ty.isComptimeRange, Ty.lacksStep, firstParts, Option.any_some,
        not_exists, not_and, Bool.not_eq_true, true_imp_iff]
      exact ⟨fun none other member lacking => none lacking other member,
        fun none lacking other member => none other member lacking⟩
  | scalar | array | comptimeArray | range =>
      rw [same] at joined
      exact iff_of_true (joined.stepped rfl) fun _ _ comptime => by cases comptime

theorem stepped_joinBranches (ctx : Context) {first : Resolved} {others : List Resolved}
    (settled : ∀ branch ∈ first :: others, branch.type.Settled)
    (stepped : ∀ branch ∈ first :: others, branch.type.Stepped) :
    Clean.Yields (joinBranches ctx (first :: others)) fun operand =>
      (∀ other ∈ others, operand.type.JoinsStepped first.type other.type) →
        operand.type.Stepped := by
  refine .joinBranches (fun _ => Ty.stepped_of_rangeParts? rfl) ?_ fun {joined} ended => ?_
  · rintro branch ⟨⟩ _
    exact stepped _ List.mem_cons_self
  · exact (stepped_iff_of_joinFrom settled stepped ended).mpr

/-! ## Types without a range -/

theorem flat_arrayLiteral (ctx : Context) (node : Node) (elements : List Resolved)
    (target : Option Ty) :
    Clean.Yields (arrayLiteral ctx node elements target) (·.type.rangeParts? = none) := by
  cases elements with
  | nil =>
      simp only [arrayLiteral, emptyArray]
      split
      · split
        · exact .pure rfl
        · exact .after fun _ => .pure rfl
      · exact Clean.refused _ _
  | cons first others =>
      simp only [arrayLiteral]
      split
      · exact .pure rfl
      · split
        · simp only [vector]
          repeat' split
          all_goals first | exact .pure rfl | exact .after fun _ => .pure rfl
        · split
          · simp only [rows]
            repeat' split
            all_goals first | exact .pure rfl | exact Clean.refused _ _
          · exact Clean.refused _ _

theorem flat_slice (ctx : Context) (node : Node) (array index : Resolved) (form : RangeForm)
    (outer : Dim) :
    Clean.Yields (slice ctx node array index form outer) (·.type.rangeParts? = none) := by
  have cut : ∀ span, Clean.Yields (sliced node array.operand span)
      (·.type.rangeParts? = none) := by
    intro span
    simp only [sliced]
    split
    · exact .pure rfl
    · split
      · exact Clean.refused _ _
      · apply Yields.pure
        rw [Clean.type_selectRows]
        rfl
    · exact .pure rfl
  exact .slice rfl fun _ => cut _

theorem flat_row (type : Ty) : type.row.rangeParts? = none := by
  cases type with
  | array element dims =>
      rcases dims with ⟨outer, _ | ⟨next, inner⟩⟩ <;> rfl
  | comptimeArray element dims =>
      rcases dims with ⟨outer, _ | ⟨next, inner⟩⟩ <;> rfl
  | scalar | range | comptimeRange => rfl

/-! ## Written types -/

theorem asks_resolveIn (type : TypeExpr) (enclosing : Option Enclosing) :
    Clean.Yields (type.resolveIn enclosing) (TypeRule.stepped final).asks :=
  .resolveIn (asks_of_rangeParts? rfl) (fun _ _ => asks_of_rangeParts? rfl)
    (fun _ _ => asks_of_rangeParts? rfl) (fun element => asks_range (advances_bare element))
    type enclosing

end FloatSteps

open FloatSteps in
theorem TypeRule.laws_stepped {final : State}
    (settled : ∀ node type, final.Noted node type → type.Settled) :
    (TypeRule.stepped final).Laws (.rechecked final) where
  keeps_of_asks asked := asked.1
  lasts := by
    rintro type stepped (concrete | faulted)
    · refine ⟨stepped, ?_⟩
      cases type with
      | comptimeRange => cases concrete
      | scalar | array | comptimeArray | range => rfl
    · exact absurd faulted not_faulted
  scalar _ := asks_of_rangeParts? rfl
  indexRange := asks_range (advances_bare _)
  row _ := asks_of_rangeParts? (flat_row _)
  written _ := of_clean (asks_resolveIn _ _)
  array ctx node _ _ _ :=
    of_clean ((flat_arrayLiteral ctx node _ _).mono fun _ => Ty.stepped_of_rangeParts?)
  range ctx node step _ _ read _ := of_clean (stepped_rangeLiteral ctx node step _ read)
  sliced ctx node _ _ _ _ :=
    of_clean ((flat_slice ctx node _ _ _ _).mono fun _ => Ty.stepped_of_rangeParts?)
  filled ctx label stepped asked := of_clean (asks_fill ctx label stepped asked)
  converted ctx node checked seen _ asked := by
    refine (of_clean (stepped_converted ctx node asked)).mono ?_
    exact fun operand stepped sees =>
      stepped (checked _ _ (noted_of_sees seen) (noted_of_sees sees))
  joined {branches} ctx node checked notEmpty seen stepped := by
    cases branches with
    | nil => exact absurd rfl notEmpty
    | cons first others =>
        have noted : ∀ branch ∈ first :: others, final.Noted branch.node branch.type :=
          fun branch member => noted_of_sees (seen branch member)
        have allSettled : ∀ branch ∈ first :: others, branch.type.Settled :=
          fun branch member => settled _ _ (noted branch member)
        refine (of_clean (stepped_joinBranches ctx allSettled stepped)).mono ?_
        intro operand joins sees
        apply joins
        intro branch member
        rw [List.forall_mem_cons] at noted
        exact checked _ _ rfl _ (List.mem_map_of_mem member) _ _ _ (noted_of_sees sees) noted.1
          (noted.2 branch member)

/-- A program that reports nothing leaves no float range that has both ends and no step, unless
it makes a float range out of a concrete range without a step, or joins one to a comptime range
behind a first one without a step. -/
theorem Program.float_ranges_stepped {policy : BranchPolicy} {width : PointerWidth}
    {program : Program} {state : State}
    (run : (program.analyze (.start policy width) .full).run (.ofTable .empty) = .ok () state)
    (quiet : state.reports = []) (checked : program.Within (.rechecked state)) :
    state.EveryType Ty.Stepped := by
  have clean := Program.holds_of_analyze Discipline.lawful_clean run quiet
  have settled : ∀ node type, state.Noted node type → type.Settled := by
    intro node type noted
    rcases clean.types _ noted with ⟨_, ⟨⟩, typeSettled⟩
    exact typeSettled
  have every := TypeRule.everyType (TypeRule.laws_stepped settled) checked policy width .full
  rw [run] at every
  exact every ⟨.refl _, quiet⟩

namespace Sample

/-- A comptime range with a step that takes on a float element twice, in a slot and in a
branch, and a range without a step that is converted, but not to floats. -/
def stepping : Program where
  file := ""
  statements := .ofList [
    .declaration (node 0) false (some (name 1 "steps")) .missing
      (.range (node 2) (.int (node 3) "0") (.int (node 4) "10") (.int (node 5) "2") false),
    .declaration (node 6) false (some (name 7 "floats"))
      (.range (node 8) (.named (node 9) "f32")) (.ident (name 10 "steps")),
    .declaration (node 11) false (some (name 12 "whole"))
      (.range (node 13) (.named (node 14) "i32"))
      (.range (node 15) (.int (node 16) "0") (.int (node 17) "10") .missing false),
    .expression (node 18) (.conversion (node 19) (.ident (name 20 "whole"))
      (.range (node 21) (.named (node 22) "i64"))),
    .expression (node 23) (.conditional (node 24) (.bool (node 25) true)
      (.block (node 26) (.ofList [.yielding (node 27) (.ident (name 28 "steps"))]))
      (.block (node 29) (.ofList [.yielding (node 30) (.range (node 31)
        (.float (node 32) "0.5") (.float (node 33) "2.5") (.float (node 34) "0.5") false)])))]

def steppingState : State :=
  ((stepping.analyze (.start .strict .bits64) .full).run (.ofTable .empty)).state

theorem within_stepping : stepping.Within (.rechecked steppingState) := by
  have notFloat : ∀ entry ∈ steppingState.types, entry.1 = 19 →
      ∀ type ∈ entry.2, type.isFloatRange = false := by decide
  have hasStep : ∀ entry ∈ steppingState.types, entry.1 = 26 →
      ∀ type ∈ entry.2, type.lacksStep = false := by decide
  have converts : (Coverage.rechecked steppingState).conversion (node 19) (node 20) :=
    fun _ result _ noted _ _ => notFloat _ noted rfl result rfl
  have joins : (Coverage.rechecked steppingState).join (node 24) [node 26, node 29] := by
    rintro _ _ ⟨⟩ _ _ _ type _ _ noted _ _ lacking
    rw [hasStep _ noted rfl type rfl] at lacking
    cases lacking
  have single : ∀ own value, (Coverage.rechecked steppingState).join own [value] := by
    rintro _ _ _ _ ⟨⟩
    nofun
  refine ⟨⟨trivial, trivial, trivial, trivial, trivial⟩, ⟨trivial, trivial⟩,
    ⟨trivial, trivial, trivial, trivial, trivial⟩, ⟨trivial, converts, trivial⟩, ?_, trivial⟩
  exact ⟨fun _ => joins, trivial, ⟨single _ _, trivial, trivial⟩, single _ _,
    ⟨trivial, trivial, trivial, trivial⟩, trivial⟩

end Sample

theorem Program.float_ranges_stepped_sample :
    (Sample.stepping.analyze (.start .strict .bits64) .full).run (.ofTable .empty)
      = .ok () Sample.steppingState ∧
    Sample.steppingState.reports = [] ∧
    Sample.stepping.Within (.rechecked Sample.steppingState) ∧
    (10, Ty.range .f32 ⟨true, true, true, false⟩) ∈ Sample.steppingState.slots ∧
    (Ty.range .f32 ⟨true, true, true, false⟩).Stepped := by
  have run : (Sample.stepping.analyze (.start .strict .bits64) .full).run (.ofTable .empty)
      = .ok () Sample.steppingState := rfl
  have slot : (10, Ty.range .f32 ⟨true, true, true, false⟩) ∈ Sample.steppingState.slots := by
    decide
  have stepped := float_ranges_stepped run rfl Sample.within_stepping
  exact ⟨run, rfl, Sample.within_stepping, slot, stepped.slots _ slot⟩

namespace Sample

/-- A range of integers without a step, converted to floats. -/
def unstepped : Program where
  file := ""
  statements := .ofList [
    .declaration (node 0) false (some (name 1 "whole"))
      (.range (node 2) (.named (node 3) "i32"))
      (.range (node 4) (.int (node 5) "0") (.int (node 6) "10") .missing false),
    .declaration (node 7) false (some (name 8 "floats")) .missing
      (.conversion (node 9) (.ident (name 10 "whole"))
        (.range (node 11) (.named (node 12) "f64")))]

def unsteppedState : State :=
  ((unstepped.analyze (.start .strict .bits64) .full).run (.ofTable .empty)).state

/-- A comptime range of integers without a step in the first branch, one of floats in the
other. -/
def mixedRanges : Program where
  file := ""
  statements := .ofList [
    .expression (node 0) (.conditional (node 1) (.bool (node 2) true)
      (.block (node 3) (.ofList [.yielding (node 4) (.range (node 5)
        (.int (node 6) "1") (.int (node 7) "5") .missing false)]))
      (.block (node 8) (.ofList [.yielding (node 9) (.range (node 10)
        (.float (node 11) "1.5") (.float (node 12) "2.5") (.float (node 13) "0.5") false)])))]

def mixedRangesState : State :=
  ((mixedRanges.analyze (.start .strict .bits64) .full).run (.ofTable .empty)).state

end Sample

/-- The conversion of a concrete range is not checked. -/
theorem Program.converted_range_lacks_step :
    (Sample.unstepped.analyze (.start .strict .bits64) .full).run (.ofTable .empty)
      = .ok () Sample.unsteppedState ∧
    Sample.unsteppedState.reports = [] ∧
    Sample.unsteppedState.Noted (Sample.node 9) (.range .f64 ⟨true, true, false, false⟩) ∧
    ¬(Ty.range .f64 ⟨true, true, false, false⟩).Stepped := by
  refine ⟨rfl, rfl, .tail _ (.head _), ?_⟩
  intro stepped
  cases stepped _ _ rfl rfl rfl rfl

-- Neither is what branches are joined to.
example : Sample.mixedRangesState.reports = [] ∧
    (1, some (Ty.comptimeRange .comptimeFloat ⟨true, true, false, false⟩)) ∈
      Sample.mixedRangesState.types := by
  decide

end ComptimeTyping
