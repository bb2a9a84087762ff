import Mathlib.Data.List.TakeWhile
import ComptimeTyping.Proofs.TagOrder

/-! What the branch policy decides. It speaks about branches that stay comptime and differ in
kind. The branches are joined one by one and the policy is asked at once, so under the strict one
it matters which branches come before the first concrete one. Branches that pass it are joined to
the same type under either policy and in any order. -/

namespace ComptimeTyping

open Analysis

namespace BranchPolicies

/-! ## Branches -/

/-- The branches whose type is known. -/
def known (branches : List Resolved) : List Resolved :=
  branches.filter fun branch => !branch.isUnknown

/-- The known branches before the first concrete one. -/
def leading (branches : List Resolved) : List Resolved :=
  (known branches).takeWhile fun branch => branch.type.isComptime

/-- Both comptime kinds occur among the branches. -/
def Mixed (branches : List Resolved) : Prop :=
  .comptimeInt ∈ branches.map Resolved.type ∧ .comptimeFloat ∈ branches.map Resolved.type

instance (branches : List Resolved) : Decidable (Mixed branches) :=
  inferInstanceAs (Decidable (_ ∧ _))

variable {branch : Resolved} {branches others : List Resolved}

theorem known_cons_of_unknown (unknown : branch.isUnknown = true) :
    known (branch :: branches) = known branches := by
  simp [known, unknown]

theorem known_cons (isKnown : ¬branch.isUnknown = true) :
    known (branch :: branches) = branch :: known branches := by
  simp [known, isKnown]

theorem mem_known : branch ∈ known branches ↔ branch ∈ branches ∧ ¬branch.isUnknown = true := by
  simp [known]

theorem leading_cons_of_unknown (unknown : branch.isUnknown = true) :
    leading (branch :: branches) = leading branches := by
  rw [leading, known_cons_of_unknown unknown, leading]

theorem leading_cons (isKnown : ¬branch.isUnknown = true) :
    leading (branch :: branches)
      = if branch.type.isComptime then branch :: leading branches else [] := by
  rw [leading, known_cons isKnown, List.takeWhile_cons, leading]

/-! ## One more branch -/

/-- A known scalar, as what is joined and what it is joined with are. -/
structure IsTag (type : Ty) (tag : Tag) : Prop where
  scalar : type = .scalar tag
  known : tag ≠ .unknown

theorem exists_isTag {type : Ty} (scalar : type.isScalar = true) (isKnown : ¬type.isUnknown = true) :
    ∃ tag, IsTag type tag := by
  obtain ⟨tag, rfl⟩ := Ty.exists_of_isScalar scalar
  refine ⟨tag, rfl, ?_⟩
  rintro rfl
  exact isKnown rfl

variable {joined : Operand} {tag other next : Tag}

/-- What known scalars agree on is known as well. -/
theorem isTag_of_resolve {type : Ty} (isTag : IsTag type tag)
    (agreed : tag.resolve other false = .ok next) :
    IsTag (Operand.typed (.scalar next)).type next := by
  refine ⟨rfl, ?_⟩
  rintro rfl
  apply isTag.known
  have adapts := (Tag.adapts_of_resolve agreed).1
  cases tag <;> first | rfl | cases adapts

/-- Branches that combine implicitly are joined to what their tags agree on. -/
theorem joinBranch_defer (isTag : IsTag joined.type tag) (isOther : IsTag branch.type other) :
    joinBranch .defer joined branch =
      match tag.resolve other false with
      | .ok next => .ok (.typed (.scalar next))
      | .error failure => .error (branch.position, .coercion "branch value" failure) := by
  have unmixed : joined.type.resolve branch.type false =
      (tag.resolve other false).map Ty.scalar := by
    rw [isTag.scalar, isOther.scalar]
    simp [Ty.resolve, Ty.isUnknown, isTag.known, isOther.known]
  cases mixed : mixesComptime joined.type branch.type with
  | false =>
      rw [joinBranch, mixed, unmixed]
      cases tag.resolve other false <;> rfl
  | true =>
      rw [joinBranch, mixed]
      rw [isTag.scalar, isOther.scalar] at mixed
      cases tag <;> cases other <;> first | rfl | cases mixed

theorem mixesComptime_eq (isTag : IsTag joined.type tag) (isOther : IsTag branch.type other) :
    mixesComptime joined.type branch.type =
      (tag.isComptime && other.isComptime && tag != other) := by
  rw [isTag.scalar, isOther.scalar]
  rfl

/-- The policy is asked only where two comptime kinds meet. -/
theorem joinBranch_strict (apart : mixesComptime joined.type branch.type = false) :
    joinBranch .strict joined branch = joinBranch .defer joined branch := by
  simp [joinBranch, apart]

/-! ## All branches -/

/-- Branches that combine implicitly are joined to the least tag that all of them may stand for.
Without one there are two that do not agree. -/
theorem joinFrom_defer_some (scalars : ∀ branch ∈ branches, branch.type.isScalar = true)
    (isTag : IsTag joined.type tag) :
    (∃ joint least, joinFrom .defer (some joined) branches = .ok (some joint) ∧
        IsTag joint.type least ∧ IsLUB (insert tag (elementTags (known branches))) least) ∨
      (∃ position failure left right,
        joinFrom .defer (some joined) branches
          = .error (position, .coercion "branch value" failure) ∧
        Tag.resolve left right false = .error failure) ∧
      ∀ least, ¬IsLUB (insert tag (elementTags (known branches))) least := by
  induction branches generalizing joined tag with
  | nil =>
      refine .inl ⟨joined, tag, rfl, isTag, ?_⟩
      simp [known]
  | cons branch branches induction =>
      rw [List.forall_mem_cons] at scalars
      by_cases isKnown : branch.isUnknown = true
      · simpa only [joinFrom, if_pos isKnown, known_cons_of_unknown isKnown] using
          induction scalars.2 isTag
      · obtain ⟨other, isOther⟩ := exists_isTag scalars.1 isKnown
        have element : branch.type.elementTag = other := by rw [isOther.scalar]; rfl
        simp only [joinFrom, if_neg isKnown, known_cons isKnown, elementTags_cons, element,
          joinBranch_defer isTag isOther]
        cases agreed : tag.resolve other false with
        | ok next =>
            simpa only [Tag.isLUB_insert_of_resolve agreed] using
              induction scalars.2 (isTag_of_resolve isTag agreed)
        | error failure =>
            exact .inr ⟨⟨_, _, _, _, rfl, agreed⟩, fun _ => Tag.not_isLUB_of_resolve agreed⟩

/-- Behind a concrete branch the policy is not asked. -/
theorem joinFrom_strict_concrete (scalars : ∀ branch ∈ branches, branch.type.isScalar = true)
    (isTag : IsTag joined.type tag) (concrete : tag.isComptime = false) :
    joinFrom .strict (some joined) branches = joinFrom .defer (some joined) branches := by
  induction branches generalizing joined with
  | nil => rfl
  | cons branch branches induction =>
      rw [List.forall_mem_cons] at scalars
      by_cases isKnown : branch.isUnknown = true
      · simpa only [joinFrom, if_pos isKnown] using induction scalars.2 isTag
      · obtain ⟨other, isOther⟩ := exists_isTag scalars.1 isKnown
        have apart : mixesComptime joined.type branch.type = false := by
          simp [mixesComptime_eq isTag isOther, concrete]
        simp only [joinFrom, if_neg isKnown, joinBranch_strict apart, joinBranch_defer isTag isOther]
        cases agreed : tag.resolve other false with
        | ok next =>
            obtain rfl := (Tag.adapts_of_resolve agreed).1.eq_of_concrete concrete
            exact induction scalars.2 (isTag_of_resolve isTag agreed)
        | error failure => rfl

/-- The policy is asked no more from a concrete branch on. -/
theorem joinFrom_strict_settled (scalars : ∀ branch ∈ branches, branch.type.isScalar = true)
    (isTag : IsTag joined.type tag) (isOther : IsTag branch.type other)
    (isKnown : ¬branch.isUnknown = true) (concrete : other.isComptime = false) :
    joinFrom .strict (some joined) (branch :: branches) =
      joinFrom .defer (some joined) (branch :: branches) := by
  have apart : mixesComptime joined.type branch.type = false := by
    simp [mixesComptime_eq isTag isOther, concrete]
  simp only [joinFrom, if_neg isKnown, joinBranch_strict apart, joinBranch_defer isTag isOther]
  cases agreed : tag.resolve other false with
  | ok next =>
      obtain rfl := (Tag.adapts_of_resolve agreed).2.eq_of_concrete concrete
      exact joinFrom_strict_concrete scalars (isTag_of_resolve isTag agreed) concrete
  | error failure => rfl

/-- Behind a branch of the same kind the others are joined as before. -/
theorem joinFrom_cons_same (policy : BranchPolicy) (isTag : IsTag joined.type tag)
    (isOther : IsTag branch.type tag) (isKnown : ¬branch.isUnknown = true) :
    joinFrom policy (some joined) (branch :: branches) =
      joinFrom policy (some (.typed (.scalar tag))) branches := by
  have apart : mixesComptime joined.type branch.type = false := by
    simp [mixesComptime_eq isTag isOther]
  have agreed : tag.resolve tag false = .ok tag := Tag.Adapts.refl tag
  have joins : joinBranch policy joined branch = .ok (.typed (.scalar tag)) := by
    cases policy with
    | strict => rw [joinBranch_strict apart, joinBranch_defer isTag isOther, agreed]
    | defer => rw [joinBranch_defer isTag isOther, agreed]
  simp only [joinFrom, if_neg isKnown, joins]

/-- Behind a comptime branch the strict policy finds the first leading branch of the other kind. -/
theorem joinFrom_strict_comptime (scalars : ∀ branch ∈ branches, branch.type.isScalar = true)
    (isTag : IsTag joined.type tag) (comptime : tag.isComptime = true) :
    (∀ branch ∈ leading branches, branch.type = .scalar tag) ∧
        joinFrom .strict (some joined) branches = joinFrom .defer (some joined) branches ∨
      (∃ branch ∈ leading branches, branch.type ≠ .scalar tag) ∧
        ∃ branch ∈ branches, mixesComptime (.scalar tag) branch.type = true ∧
          joinFrom .strict (some joined) branches
            = .error (branch.position, .branchesDisagree (.scalar tag) branch.type) := by
  induction branches generalizing joined with
  | nil => exact .inl ⟨by simp [leading, known], rfl⟩
  | cons branch branches induction =>
      rw [List.forall_mem_cons] at scalars
      by_cases isKnown : branch.isUnknown = true
      · simp only [joinFrom, if_pos isKnown, leading_cons_of_unknown isKnown]
        rcases induction scalars.2 isTag with same | ⟨other, later, member, disagree⟩
        · exact .inl same
        · exact .inr ⟨other, later, .tail _ member, disagree⟩
      · obtain ⟨other, isOther⟩ := exists_isTag scalars.1 isKnown
        have branchKind : branch.type.isComptime = other.isComptime := by
          rw [isOther.scalar]
          rfl
        rw [leading_cons isKnown, branchKind]
        cases kind : other.isComptime with
        | false =>
            exact .inl ⟨by simp, joinFrom_strict_settled scalars.2 isTag isOther isKnown kind⟩
        | true =>
            rw [if_pos rfl]
            by_cases same : tag = other
            · subst same
              simp only [joinFrom_cons_same _ isTag isOther isKnown]
              have isSame : IsTag (Operand.typed (.scalar tag)).type tag := ⟨rfl, isTag.known⟩
              rcases induction scalars.2 isSame with
                ⟨alike, equal⟩ | ⟨⟨later, member, differs⟩, found, foundMember, disagree⟩
              · exact .inl ⟨List.forall_mem_cons.mpr ⟨isOther.scalar, alike⟩, equal⟩
              · exact .inr ⟨⟨later, .tail _ member, differs⟩, found, .tail _ foundMember, disagree⟩
            · have mixed : mixesComptime (.scalar tag) branch.type = true := by
                simp [← isTag.scalar, mixesComptime_eq isTag isOther, comptime, kind, same]
              have differs : branch.type ≠ .scalar tag := by
                rw [isOther.scalar]
                simpa using Ne.symm same
              refine .inr ⟨⟨branch, .head _, differs⟩, branch, .head _, mixed, ?_⟩
              simp only [joinFrom, if_neg isKnown, joinBranch, isTag.scalar, mixed, if_true]

theorem mem_leading (member : branch ∈ leading branches) :
    branch ∈ branches ∧ branch.type.isComptime = true := by
  have isKnown := (List.takeWhile_sublist _).mem member
  have comptime := List.mem_takeWhile_imp member
  exact ⟨(mem_known.mp isKnown).1, comptime⟩

theorem eq_of_comptime {type : Ty} (scalar : type.isScalar = true)
    (comptime : type.isComptime = true) : type = .comptimeInt ∨ type = .comptimeFloat := by
  obtain ⟨tag, rfl⟩ := Ty.exists_of_isScalar scalar
  cases tag <;> first | exact .inl rfl | exact .inr rfl | cases comptime

/-- Behind a comptime branch both kinds occur exactly if another kind does. -/
theorem mixed_cons_iff (scalars : ∀ branch ∈ branches, branch.type.isScalar = true)
    (isTag : IsTag branch.type tag) (comptime : branch.type.isComptime = true) :
    Mixed (branch :: leading branches) ↔
      ∃ other ∈ leading branches, other.type ≠ .scalar tag := by
  rw [← isTag.scalar]
  have kinds : ∀ other ∈ leading branches, other.type = .comptimeInt ∨
      other.type = .comptimeFloat := by
    intro other member
    have given := mem_leading member
    exact eq_of_comptime (scalars other given.1) given.2
  have kind := eq_of_comptime (isTag.scalar ▸ rfl) comptime
  simp only [Mixed, List.map_cons, List.mem_cons, List.mem_map]
  grind

/-- Under the strict policy the branches disagree if both kinds lead. Otherwise they are joined
as under the other one. -/
theorem joinFrom_strict (scalars : ∀ branch ∈ branches, branch.type.isScalar = true) :
    ¬Mixed (leading branches) ∧
        joinFrom .strict none branches = joinFrom .defer none branches ∨
      Mixed (leading branches) ∧
        ∃ branch ∈ branches, ∃ first, mixesComptime first branch.type = true ∧
          joinFrom .strict none branches
            = .error (branch.position, .branchesDisagree first branch.type) := by
  induction branches with
  | nil => exact .inl ⟨by decide, rfl⟩
  | cons branch branches induction =>
      rw [List.forall_mem_cons] at scalars
      by_cases isKnown : branch.isUnknown = true
      · simp only [joinFrom, if_pos isKnown, leading_cons_of_unknown isKnown]
        rcases induction scalars.2 with same | ⟨mixed, found, member, disagree⟩
        · exact .inl same
        · exact .inr ⟨mixed, found, .tail _ member, disagree⟩
      · obtain ⟨tag, isTag⟩ := exists_isTag scalars.1 isKnown
        simp only [joinFrom, if_neg isKnown, leading_cons isKnown]
        cases kind : branch.type.isComptime with
        | false =>
            rw [if_neg Bool.false_ne_true]
            refine .inl ⟨by decide, joinFrom_strict_concrete scalars.2 isTag ?_⟩
            rwa [isTag.scalar] at kind
        | true =>
            rw [if_pos rfl, mixed_cons_iff scalars.2 isTag kind]
            have comptime : tag.isComptime = true := by rwa [isTag.scalar] at kind
            rcases joinFrom_strict_comptime scalars.2 isTag comptime with
              ⟨alike, equal⟩ | ⟨differs, found, member, mixed, disagree⟩
            · exact .inl ⟨by simpa using alike, equal⟩
            · exact .inr ⟨differs, found, .tail _ member, _, mixed, disagree⟩

/-- What the branches that combine implicitly are joined to: nothing if all are unknown, else the
least tag that all known ones may stand for. -/
theorem joinFrom_defer (scalars : ∀ branch ∈ branches, branch.type.isScalar = true) :
    joinFrom .defer none branches = .ok none ∧ known branches = [] ∨
      (∃ joint least, joinFrom .defer none branches = .ok (some joint) ∧
        IsTag joint.type least ∧ IsLUB (elementTags (known branches)) least) ∨
      (∃ position failure left right,
        joinFrom .defer none branches = .error (position, .coercion "branch value" failure) ∧
        Tag.resolve left right false = .error failure) ∧
      ∀ least, ¬IsLUB (elementTags (known branches)) least := by
  induction branches with
  | nil => exact .inl ⟨rfl, rfl⟩
  | cons branch branches induction =>
      rw [List.forall_mem_cons] at scalars
      by_cases isKnown : branch.isUnknown = true
      · simpa only [joinFrom, if_pos isKnown, known_cons_of_unknown isKnown] using
          induction scalars.2
      · obtain ⟨tag, isTag⟩ := exists_isTag scalars.1 isKnown
        have element : branch.type.elementTag = tag := by rw [isTag.scalar]; rfl
        simp only [joinFrom, if_neg isKnown, known_cons isKnown, elementTags_cons, element]
        exact .inr (joinFrom_defer_some scalars.2 isTag)

/-! ## Reports -/

/-- The words for two comptime kinds that disagree. -/
def Disagreement (diagnostic : Diagnostic) : Prop :=
  ∃ first second position, mixesComptime first second = true ∧
    diagnostic = (Finding.branchesDisagree first second).placed position

/-- What was reported from one state to another, of which some condition holds. -/
def ReportsSome (before after : State) (condition : Diagnostic → Prop) : Prop :=
  ∃ reports, after.reports = before.reports ++ reports ∧ ∃ report ∈ reports, condition report

/-- A coercion fails with other words. -/
theorem note_ne_of_resolve {left right : Tag} {failure : CoercionFailure} (first second : Ty)
    (failed : left.resolve right false = .error failure) :
    failure.note ≠ (Finding.branchesDisagree first second).note := by
  change failure.note ≠ (Finding.branchesDisagree .unknown .unknown).note
  cases left <;> cases right <;> cases failed <;> decide

variable {ctx : Context} {operand : Operand} {before after : State}

/-- Nothing but overflows. -/
def Overflows (before after : State) : Prop :=
  ∃ reports, after.reports = before.reports ++ reports ∧ ∀ report ∈ reports, report.code = .overflow

theorem Overflows.refl (state : State) : Overflows state state :=
  ⟨[], by simp, by simp⟩

theorem Overflows.trans {middle : State} (first : Overflows before middle)
    (second : Overflows middle after) : Overflows before after := by
  obtain ⟨reports, equal, overflow⟩ := first
  obtain ⟨more, moreEqual, moreOverflow⟩ := second
  refine ⟨reports ++ more, by rw [moreEqual, equal, List.append_assoc], ?_⟩
  intro report member
  rcases List.mem_append.mp member with member | member
  · exact overflow report member
  · exact moreOverflow report member

theorem overflows_checkFits {position : Position} {value : Option Constant} {passed : Bool}
    (run : (checkFits ctx position value tag).run before = .ok passed after) :
    Overflows before after := by
  unfold checkFits at run
  split at run
  · cases run
    exact .refl _
  · split at run
    · cases run
      exact ⟨[_], rfl, by simp [Finding.placed, Finding.overflow]⟩
    · cases run
      exact .refl _

theorem overflows_checkBranchesFit
    (run : (checkBranchesFit ctx tag branches).run before = .ok () after) :
    Overflows before after := by
  induction branches generalizing before with
  | nil =>
      cases run
      exact .refl _
  | cons branch branches induction =>
      unfold checkBranchesFit at run
      split at run
      · obtain ⟨_, middle, checked, rest⟩ := run_bind_eq_ok.mp run
        obtain ⟨_, _, fits, ⟨⟩⟩ := run_bind_eq_ok.mp checked
        exact (overflows_checkFits fits).trans (induction rest)
      · exact induction run

theorem overflows_checkJoint {joint : Ty}
    (run : (Joining.checkJoint ctx branches joint).run before = .ok () after) :
    Overflows before after := by
  unfold Joining.checkJoint at run
  split at run
  · split at run
    · exact overflows_checkBranchesFit run
    · cases run
      exact .refl _
  · cases run
    exact .refl _

theorem not_disagreement_of_overflows (overflows : Overflows before after) :
    ¬ReportsSome before after Disagreement := by
  intro disagreement
  obtain ⟨reports, equal, report, member, first, second, position, _, same⟩ := disagreement
  obtain ⟨others, othersEqual, overflow⟩ := overflows
  rw [equal, List.append_cancel_left_eq] at othersEqual
  have code := overflow report (othersEqual ▸ member)
  rw [same] at code
  cases code

/-! ## Runs -/

/-- Where both kinds lead under the strict policy, the disagreement is reported. -/
theorem disagreement_of_mixed {first : Ty} (mixed : mixesComptime first branch.type = true)
    (disagree : joinFrom ctx.policy none branches
      = .error (branch.position, .branchesDisagree first branch.type))
    (run : (joinBranches ctx branches).run before = .ok operand after) :
    ReportsSome before after Disagreement := by
  simp only [joinBranches, disagree] at run
  cases run
  exact ⟨[_], rfl, _, .head _, first, branch.type, branch.position, mixed, rfl⟩

/-- Branches that pass the policy are joined like those that combine implicitly. -/
structure Passes (policy : BranchPolicy) (branches : List Resolved) : Prop where
  scalars : ∀ branch ∈ branches, branch.type.isScalar = true
  joined : joinFrom policy none branches = joinFrom .defer none branches

theorem passes_of_not_mixed {policy : BranchPolicy}
    (scalars : ∀ branch ∈ branches, branch.type.isScalar = true)
    (unmixed : policy = .strict → ¬Mixed (leading branches)) : Passes policy branches := by
  refine ⟨scalars, ?_⟩
  cases policy with
  | defer => rfl
  | strict =>
      rcases joinFrom_strict scalars with ⟨_, same⟩ | ⟨mixed, _⟩
      · exact same
      · exact absurd mixed (unmixed rfl)

theorem no_disagreement_of_passes (passes : Passes ctx.policy branches)
    (run : (joinBranches ctx branches).run before = .ok operand after) :
    ¬ReportsSome before after Disagreement := by
  rcases joinFrom_defer passes.scalars with
    ⟨ended, _⟩ | ⟨joint, least, ended, _⟩ | ⟨⟨position, failure, left, right, ended, failed⟩, _⟩
  · simp only [joinBranches, passes.joined, ended] at run
    cases run
    exact not_disagreement_of_overflows (.refl _)
  · rw [Joining.joinBranches_of_joined (passes.joined.trans ended)] at run
    obtain ⟨_, middle, checked, ⟨⟩⟩ := run_bind_eq_ok.mp run
    exact not_disagreement_of_overflows (overflows_checkJoint checked)
  · simp only [joinBranches, passes.joined, ended] at run
    cases run
    intro disagreement
    obtain ⟨reports, equal, report, member, first, second, place, _, same⟩ := disagreement
    obtain rfl := List.append_cancel_left equal
    rw [List.mem_singleton.mp member] at same
    exact note_ne_of_resolve first second failed (congrArg Diagnostic.note same)

/-- The comptime branches fit the tag that they take on. -/
def Fit (width : PointerWidth) (tag : Tag) (branches : List Resolved) : Prop :=
  ∀ branch ∈ branches, branch.type.isComptime = true →
    ∀ constant ∈ branch.operand.value, constant.fits tag width = true

/-- What branches with a concrete one among them come to: the least tag that all of them may
stand for, if the comptime ones fit it. -/
inductive Comes (width : PointerWidth) (branches : List Resolved) (type : Ty) (accepted : Prop) :
    Prop
  | joined (least : Tag) (isLeast : IsLUB (elementTags (known branches)) least)
      (scalar : type = .scalar least) (fits : accepted ↔ Fit width least branches)
  | refused (none : ∀ least, ¬IsLUB (elementTags (known branches)) least)
      (unknown : type = .unknown) (rejected : ¬accepted)

theorem comes_of_passes (passes : Passes ctx.policy branches) (member : branch ∈ branches)
    (isKnown : ¬branch.isUnknown = true) (concrete : branch.type.isComptime = false)
    (run : (joinBranches ctx branches).run before = .ok operand after) :
    Comes ctx.width branches operand.type (after.reports = before.reports) := by
  have isMember := mem_known.mpr ⟨member, isKnown⟩
  rcases joinFrom_defer passes.scalars with
    ⟨_, empty⟩ | ⟨joint, least, ended, isTag, isLeast⟩ | ⟨⟨position, failure, _, _, ended, _⟩, none⟩
  · rw [empty] at isMember
    cases isMember
  · obtain ⟨tag, isConcrete⟩ := exists_isTag (passes.scalars branch member) isKnown
    have below : tag ≤ least := by
      apply isLeast.1
      exact ⟨branch, isMember, by rw [isConcrete.scalar]; rfl⟩
    have settled : least.isComptime = false := by
      rw [isConcrete.scalar] at concrete
      rwa [Tag.eq_of_le_of_concrete below concrete]
    rw [Joining.joinBranches_of_joined (passes.joined.trans ended)] at run
    obtain ⟨_, middle, checked, ⟨⟩⟩ := run_bind_eq_ok.mp run
    refine .joined least isLeast isTag.scalar ?_
    have jointKnown : ¬operand.type.isUnknown = true := by
      rw [isTag.scalar]
      simpa [Ty.isUnknown] using isTag.known
    have jointConcrete : operand.type.isComptime = false := by
      rw [isTag.scalar]
      exact settled
    rw [Joining.silent_checkJoint jointKnown jointConcrete checked, isTag.scalar]
    exact ⟨fun fits => fits rfl, fun fits _ => fits⟩
  · simp only [joinBranches, passes.joined, ended] at run
    cases run
    exact .refused none rfl (by simp)

theorem known_perm (same : branches.Perm others) : (known branches).Perm (known others) :=
  same.filter _

theorem Comes.same {width : PointerWidth} {type other : Ty} {accepted otherAccepted : Prop}
    (comes : Comes width branches type accepted) (again : Comes width others other otherAccepted)
    (same : branches.Perm others) : type = other ∧ (accepted ↔ otherAccepted) := by
  have tags := elementTags_perm (known_perm same)
  cases comes with
  | joined least isLeast scalar fits =>
      rw [tags] at isLeast
      cases again with
      | joined other isOther otherScalar otherFits =>
          obtain rfl := isLeast.unique isOther
          rw [scalar, otherScalar, fits, otherFits]
          simp [Fit, same.mem_iff]
      | refused none _ _ => exact absurd isLeast (none least)
  | refused none unknown rejected =>
      rw [tags] at none
      cases again with
      | joined other isOther _ _ => exact absurd isOther (none other)
      | refused _ otherUnknown otherRejected =>
          exact ⟨unknown.trans otherUnknown.symm, iff_of_false rejected otherRejected⟩

/-- If nothing concrete follows, all known branches lead. -/
theorem leading_of_comptime
    (comptime : ∀ branch ∈ branches, ¬branch.isUnknown = true → branch.type.isComptime = true) :
    leading branches = known branches := by
  rw [leading, List.takeWhile_eq_self_iff]
  intro branch member
  have given := mem_known.mp member
  exact comptime branch given.1 given.2

end BranchPolicies

open BranchPolicies in
/-- Joining scalars always ends. It reports that comptime branches disagree exactly if the policy
is strict and both kinds come before the first concrete branch. If no concrete branch follows on
both kinds, this is to say that no branch is concrete and both kinds occur, and with a concrete
branch neither the policy nor the order of the branches matters: they have the same type, and the
same branches are accepted. -/
theorem branch_policy_decides {branches : List Resolved}
    (scalars : ∀ branch ∈ branches, branch.type.isScalar = true) (ctx : Context)
    (before : State) :
    ∃ operand after, (unifyBranches ctx branches none).run before = .ok operand after ∧
      (ReportsSome before after Disagreement ↔
        ctx.policy = .strict ∧ Mixed (leading branches)) ∧
      ((Mixed (leading branches) →
          ∀ branch ∈ branches, ¬branch.isUnknown = true → branch.type.isComptime = true) →
        (ReportsSome before after Disagreement ↔
          ctx.policy = .strict ∧
            (∀ branch ∈ branches, ¬branch.isUnknown = true → branch.type.isComptime = true) ∧
            Mixed (known branches))) ∧
      ∀ branch ∈ branches, ¬branch.isUnknown = true → branch.type.isComptime = false →
        (ctx.policy = .strict → ¬Mixed (leading branches)) →
        ∀ (other : Context) (others : List Resolved) (start : State), other.width = ctx.width →
          branches.Perm others → (other.policy = .strict → ¬Mixed (leading others)) →
          ∃ result finish, (unifyBranches other others none).run start = .ok result finish ∧
            operand.type = result.type ∧
            (after.reports = before.reports ↔ finish.reports = start.reports) := by
  obtain ⟨operand, after, run⟩ := (reporting_joinBranches ctx branches).exists_run before
  have reported : ReportsSome before after Disagreement ↔
      ctx.policy = .strict ∧ Mixed (leading branches) := by
    by_cases passed : ctx.policy = .strict → ¬Mixed (leading branches)
    · apply iff_of_false (no_disagreement_of_passes (passes_of_not_mixed scalars passed) run)
      intro ⟨strict, mixed⟩
      exact passed strict mixed
    · simp only [Classical.not_imp, not_not] at passed
      refine iff_of_true ?_ passed
      rcases joinFrom_strict scalars with ⟨unmixed, _⟩ | ⟨_, branch, _, first, mixed, disagree⟩
      · exact absurd passed.2 unmixed
      · rw [← passed.1] at disagree
        exact disagreement_of_mixed mixed disagree run
  refine ⟨operand, after, run, reported, ?_, ?_⟩
  · intro early
    rw [reported]
    constructor
    · intro ⟨strict, mixed⟩
      have comptime := early mixed
      exact ⟨strict, comptime, leading_of_comptime comptime ▸ mixed⟩
    · intro ⟨strict, comptime, mixed⟩
      exact ⟨strict, leading_of_comptime comptime ▸ mixed⟩
  · intro branch member isKnown concrete passed other others start sameWidth same otherPassed
    obtain ⟨result, finish, rerun⟩ := (reporting_joinBranches other others).exists_run start
    have otherScalars : ∀ branch ∈ others, branch.type.isScalar = true := by
      intro branch member
      exact scalars branch (same.mem_iff.mpr member)
    have comes := comes_of_passes (passes_of_not_mixed scalars passed) member isKnown concrete run
    have again := comes_of_passes (passes_of_not_mixed otherScalars otherPassed)
      (same.mem_iff.mp member) isKnown concrete rerun
    rw [sameWidth] at again
    obtain ⟨sameType, sameVerdict⟩ := comes.same again same
    exact ⟨result, finish, rerun, sameType, sameVerdict⟩

namespace Sample

/-- A float variable, an integer literal and a float literal. -/
def concreteFirst : List Resolved :=
  [⟨node 0, .typed (.scalar .f64)⟩, ⟨node 1, .typed .comptimeInt⟩, ⟨node 2, .typed .comptimeFloat⟩]

/-- The same branches, the variable last. -/
def concreteLast : List Resolved :=
  [⟨node 1, .typed .comptimeInt⟩, ⟨node 2, .typed .comptimeFloat⟩, ⟨node 0, .typed (.scalar .f64)⟩]

end Sample

theorem branch_policy_decides_sample :
    (∀ branch ∈ Sample.concreteFirst, branch.type.isScalar = true) ∧
    (unifyBranches (.start .strict .bits64) Sample.concreteFirst none).run (.ofTable .empty)
      = .ok (.typed (.scalar .f64)) (.ofTable .empty) ∧
    ∃ result finish,
      (unifyBranches (.start .defer .bits64) Sample.concreteLast none).run (.ofTable .empty)
        = .ok result finish ∧
      .scalar .f64 = result.type ∧ finish.reports = [] := by
  have scalars : ∀ branch ∈ Sample.concreteFirst, branch.type.isScalar = true := by decide
  obtain ⟨operand, after, run, _, _, agree⟩ :=
    branch_policy_decides scalars (.start .strict .bits64) (.ofTable .empty)
  cases run
  have moved : Sample.concreteFirst.Perm Sample.concreteLast := by decide
  obtain ⟨result, finish, rerun, sameType, accepted⟩ :=
    agree ⟨Sample.node 0, .typed (.scalar .f64)⟩ (.head _) (by decide) rfl (fun _ => by decide)
      (.start .defer .bits64) Sample.concreteLast (.ofTable .empty) rfl moved nofun
  exact ⟨scalars, rfl, result, finish, rerun, sameType, accepted.mp rfl⟩

/-- A concrete branch comes too late: the strict policy has reported that the comptime ones before
it disagree, though all of them are accepted in another order and under the other policy. -/
theorem late_branch_disagrees :
    (∀ branch ∈ Sample.concreteLast, branch.type.isScalar = true) ∧
    (∃ branch ∈ Sample.concreteLast, ¬branch.isUnknown = true ∧ branch.type.isComptime = false) ∧
    (unifyBranches (.start .defer .bits64) Sample.concreteLast none).run (.ofTable .empty)
      = .ok (.typed (.scalar .f64)) (.ofTable .empty) ∧
    ∃ after,
      (unifyBranches (.start .strict .bits64) Sample.concreteLast none).run (.ofTable .empty)
        = .ok .unknown after ∧
      BranchPolicies.ReportsSome (.ofTable .empty) after BranchPolicies.Disagreement := by
  refine ⟨by decide, by decide, rfl, _, rfl, ?_⟩
  exact ⟨_, rfl, _, .head _, .comptimeInt, .comptimeFloat, (Sample.node 2).position, rfl, rfl⟩

end ComptimeTyping
