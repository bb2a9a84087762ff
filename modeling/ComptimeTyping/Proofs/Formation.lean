import ComptimeTyping.Proofs.Literals
import ComptimeTyping.Proofs.TypeRule

/-! Every type keeps the contract of its kind, wherever it comes from and whatever was
reported. The one thing that can break it is the length of a slice with a step, which may wrap
around; in a program without steps no length does. -/

namespace ComptimeTyping

open Analysis

/-! ## Programs without steps -/

/-- Every size that is written in a type is a word. -/
def TypeExpr.FitsWords : TypeExpr → Prop
  | .missing | .named _ _ => True
  | .array _ dims element =>
      (∀ dim ∈ dims, ∀ written ∈ dim, ∀ size ∈ written.size, size ≤ Word.greatest) ∧
        element.FitsWords
  | .range _ element => element.FitsWords

/-- No range has a step. A word counts every axis, as it does in whatever a machine of such
words can hold. -/
def Coverage.stepless : Coverage where
  type := TypeExpr.FitsWords
  array items := (items : Int) ≤ Word.greatest
  range form := form.hasStep = false
  conversion _ _ := True
  join _ _ := True

/-! ## Formed types -/

/-- A wildcard, or a length of at least one that a word counts. -/
def Dim.Counted : Dim → Prop
  | .wildcard => True
  | .fixed size => 0 < size ∧ size ≤ Word.greatest

/-- The contract of a type, with lengths that are words and ranges that have no step. -/
def Ty.Formed : Ty → Prop
  | .scalar _ => True
  | .array element dims => isArrayElement element = true ∧ ∀ dim ∈ dims.toList, dim.Counted
  | .comptimeArray element dims =>
      element.isComptime = true ∧ ∀ size ∈ dims.toList, (Dim.fixed size).Counted
  | .range element form => isRangeElement element = true ∧ form.hasStep = false
  | .comptimeRange element form => element.isComptime = true ∧ form.hasStep = false

/-- Whatever is reported. -/
def TypeRule.formed : TypeRule where
  tolerates _ := True
  earlier _ _ := trivial
  keeps := Ty.Formed
  asks := Ty.Formed

theorem Dim.Counted.isAllowed {dim : Dim} (counted : dim.Counted) : dim.isAllowed = true := by
  cases dim with
  | wildcard => rfl
  | fixed size => exact decide_eq_true counted.1

theorem Dim.counted_ofInt {size : Int} (counted : (Dim.fixed size).Counted) :
    Dim.ofInt size = .fixed size := by
  have positive := counted.1
  unfold Dim.ofInt
  rw [if_neg (by omega)]

namespace Ty.Formed

variable {type : Ty}

theorem wellFormed (formed : type.Formed) : type.WellFormed := by
  cases type with
  | scalar => trivial
  | array => exact ⟨formed.1, fun dim member => (formed.2 dim member).isAllowed⟩
  | comptimeArray => exact ⟨formed.1, fun size member => (formed.2 size member).1⟩
  | range => exact formed.1
  | comptimeRange => exact formed.1

theorem dims (formed : type.Formed) {axes : Axes Dim} (found : type.dims? = some axes) :
    ∀ dim ∈ axes.toList, dim.Counted := by
  cases type with
  | array element dims =>
      cases found
      exact formed.2
  | comptimeArray element dims =>
      cases found
      rw [Axes.toList_map, List.forall_mem_map]
      intro size member
      have counted := formed.2 size member
      rw [Dim.counted_ofInt counted]
      exact counted
  | scalar | range | comptimeRange => cases found

theorem settled (formed : type.Formed) (known : ¬type.isUnknown = true) : type.Settled :=
  formed.wellFormed.settled known

theorem row (formed : type.Formed) : type.row.Formed := by
  cases type with
  | array element dims =>
      rcases dims with ⟨outer, _ | ⟨next, inner⟩⟩
      · trivial
      · exact ⟨formed.1, (List.forall_mem_cons.mp formed.2).2⟩
  | comptimeArray element dims =>
      rcases dims with ⟨outer, _ | ⟨next, inner⟩⟩
      · trivial
      · exact ⟨formed.1, (List.forall_mem_cons.mp formed.2).2⟩
  | scalar | range | comptimeRange => trivial

end Ty.Formed

namespace Formation

open Discipline

variable {α : Type}

/-! ## Types that agree -/

theorem isNumeric_of_isComptime {tag : Tag} (comptime : tag.isComptime = true) :
    tag.isNumeric = true := by
  cases tag <;> first | rfl | cases comptime

theorem isRangeElement_iff {tag : Tag} :
    Ty.isRangeElement tag = true ↔ tag.isNumeric = true ∧ tag.isComptime = false := by
  simp [Ty.isRangeElement]

/-- Two numbers of which one is concrete agree on a concrete number. -/
theorem isRangeElement_resolve {left right tag : Tag} {explicit : Bool}
    (leftNumeric : left.isNumeric = true) (rightNumeric : right.isNumeric = true)
    (concrete : left.isComptime = false ∨ right.isComptime = false)
    (resolved : left.resolve right explicit = .ok tag) : Ty.isRangeElement tag = true := by
  refine isRangeElement_iff.mpr ⟨Tag.isNumeric_resolve leftNumeric rightNumeric resolved, ?_⟩
  rw [Tag.isComptime_resolve resolved, Bool.and_eq_false_iff]
  exact concrete

section Agreement

variable {left right source target type : Ty} {explicit : Bool}

theorem formed_assignArray {element : Tag} {dims : Axes Dim} (formed : source.Formed)
    (allowed : Ty.isArrayElement element = true)
    (filled : source.assignArray element dims explicit = .ok type) : type.Formed := by
  cases source with
  | comptimeArray sourceElement sourceDims =>
      simp only [Ty.assignArray] at filled
      repeat' split at filled
      all_goals cases filled
      exact ⟨allowed, formed.dims rfl⟩
  | array sourceElement sourceDims =>
      simp only [Ty.assignArray] at filled
      split at filled
      · cases filled
      · next fits =>
          rw [Shape.fillWildcards_of_checkConcrete fits] at filled
          split at filled
          · cases filled
            exact ⟨allowed, formed.2⟩
          · cases filled
  | scalar | range | comptimeRange => cases filled

theorem formed_resolveRanges (leftFormed : left.Formed) (rightFormed : right.Formed)
    (joined : left.resolveRanges right explicit = .ok type) : type.Formed := by
  simp only [Ty.resolveRanges] at joined
  split at joined
  · rcases Ty.exists_of_map_eq_ok joined with ⟨tag, resolved, rfl⟩
    refine ⟨?_, leftFormed.2⟩
    rw [Tag.isComptime_resolve resolved, leftFormed.1, rightFormed.1]
    rfl
  · rcases Ty.exists_of_map_eq_ok joined with ⟨tag, resolved, rfl⟩
    have concrete := isRangeElement_iff.mp rightFormed.1
    exact ⟨isRangeElement_resolve (isNumeric_of_isComptime leftFormed.1) concrete.1
      (.inr concrete.2) resolved, rightFormed.2⟩
  · rcases Ty.exists_of_map_eq_ok joined with ⟨tag, resolved, rfl⟩
    have concrete := isRangeElement_iff.mp leftFormed.1
    exact ⟨isRangeElement_resolve concrete.1 (isRangeElement_iff.mp rightFormed.1).1
      (.inl concrete.2) resolved, leftFormed.2⟩
  · rcases Ty.exists_of_map_eq_ok joined with ⟨tag, resolved, rfl⟩
    have concrete := isRangeElement_iff.mp leftFormed.1
    exact ⟨isRangeElement_resolve concrete.1 (isNumeric_of_isComptime rightFormed.1)
      (.inl concrete.2) resolved, leftFormed.2⟩
  · cases joined

theorem formed_resolve (leftFormed : left.Formed) (rightFormed : right.Formed)
    (joined : left.resolve right explicit = .ok type) : type.Formed := by
  simp only [Ty.resolve] at joined
  split at joined
  · cases joined
    trivial
  · split at joined
    · simp only [Except.map] at joined
      split at joined <;> cases joined
      trivial
    · simp only [Ty.resolveComptimeArrays] at joined
      split at joined <;> cases joined
      exact ⟨Tag.isComptime_promote _ _, leftFormed.2⟩
    · exact formed_assignArray leftFormed rightFormed.1 joined
    · exact formed_assignArray rightFormed leftFormed.1 joined
    · exact formed_assignArray leftFormed rightFormed.1 joined
    · exact formed_resolveRanges leftFormed rightFormed joined

theorem formed_assignRange {element : Tag} {form : RangeForm} (formed : source.Formed)
    (allowed : Ty.isRangeElement element = true)
    (filled : source.assignRange element form explicit = .ok type) : type.Formed := by
  cases source with
  | comptimeRange sourceElement sourceForm =>
      simp only [Ty.assignRange] at filled
      repeat' split at filled
      all_goals cases filled
      all_goals exact ⟨allowed, formed.2⟩
  | range sourceElement sourceForm =>
      simp only [Ty.assignRange] at filled
      repeat' split at filled
      all_goals cases filled
      · exact formed
      · exact ⟨allowed, formed.2⟩
  | scalar | array | comptimeArray => cases filled

theorem formed_assign (sourceFormed : source.Formed) (targetFormed : target.Formed)
    (filled : source.assign target explicit = .ok type) : type.Formed := by
  simp only [Ty.assign] at filled
  split at filled
  · cases filled
    exact targetFormed
  · split at filled
    · split at filled
      · rw [Ty.eq_of_assignScalar filled]
        trivial
      · cases filled
    · exact formed_assignArray sourceFormed targetFormed.1 filled
    · split at filled
      · exact formed_resolve sourceFormed targetFormed filled
      · cases filled
    · exact formed_assignRange sourceFormed targetFormed.1 filled
    · exact formed_resolve sourceFormed targetFormed filled

theorem formed_convert (sourceFormed : source.Formed) (targetFormed : target.Formed)
    (converted : source.convert target = .ok type) : type.Formed := by
  simp only [Ty.convert] at converted
  repeat' split at converted
  all_goals first
    | cases converted
      exact targetFormed
    | exact formed_assign sourceFormed targetFormed converted
    | cases converted

end Agreement

abbrev Yields (computation : Analysis α) (good : α → Prop) : Prop :=
  TypeRule.formed.Yields computation good

abbrev Gives (computation : Analysis Operand) : Prop :=
  TypeRule.formed.Gives computation

theorem refused (position : Position) (finding : Finding) : Gives (refuse position finding) :=
  .after fun _ => .pure trivial

/-! ## Slots and conversions -/

theorem formed_fill (ctx : Context) {source : Resolved} {target : Ty} (label : String)
    (sourceFormed : source.type.Formed) (targetFormed : target.Formed) :
    Yields (fill ctx source target label) Ty.Formed := by
  exact .fill targetFormed fun filled => .inl (formed_assign sourceFormed targetFormed filled)

theorem formed_converted (ctx : Context) (node : Node) {value : Resolved} {target : Ty}
    (valueFormed : value.type.Formed) (targetFormed : target.Formed) :
    Gives (converted ctx node value target) := by
  exact .converted targetFormed fun converts =>
    .inl (formed_convert valueFormed targetFormed converts)

/-! ## Arrays -/

theorem formed_vector (ctx : Context) (node : Node) {first : Tag} {elements : List Resolved}
    (target : Option Ty) (notEmpty : elements ≠ [])
    (counted : (elements.length : Int) ≤ Word.greatest) (known : first ≠ .unknown)
    (settled : ∀ element ∈ elements.tail, element.type.Settled) :
    Gives (vector ctx node first elements target) := by
  have length : (Dim.fixed elements.length).Counted :=
    ⟨Int.natCast_pos.mpr (List.length_pos_iff.mpr notEmpty), counted⟩
  simp only [vector]
  split
  · exact refused _ _
  · next tag joined =>
      split
      · exact refused _ _
      · next notVoid =>
          split
          · next comptime =>
              have formed : (Ty.comptimeArray tag ⟨elements.length, []⟩).Formed :=
                ⟨comptime, List.forall_mem_singleton.mpr length⟩
              split
              · exact .after fun _ => .pure formed
              · exact .pure formed
          · next notComptime =>
              have tagKnown := Clean.known_joinScalars known settled joined
              have allowed : Ty.isArrayElement tag = true := by
                simp [Ty.isArrayElement, Tag.isConcrete, tagKnown, notVoid, notComptime]
              exact .after fun _ => .pure ⟨allowed, List.forall_mem_singleton.mpr length⟩

/-- Where rows agree on a concrete element, it is the element of one of them. -/
theorem isArrayElement_of_joinRowTags {dims : List Dim} {first : Resolved} {tag : Tag}
    {index : Nat} {others : List Resolved} (firstArray : first.type.isArray = true)
    (formed : ∀ row ∈ first :: others, row.type.Formed)
    (joined : joinRowTags dims first.type.elementTag index others = .ok tag)
    (concrete : tag.isComptime = false) : Ty.isArrayElement tag = true := by
  have source : ∃ row ∈ first :: others, tag = row.type.elementTag := by
    rcases Literals.eq_of_joinRowTags joined with ⟨ofFirst, ofOthers⟩
    cases firstComptime : first.type.elementTag.isComptime with
    | false => exact ⟨first, List.mem_cons_self, ofFirst firstComptime⟩
    | true =>
        by_contra none
        have comptime := Literals.comptime_of_joinRowTags joined firstComptime ?_
        · rw [concrete] at comptime
          cases comptime
        · intro row member
          rw [← Bool.not_eq_false]
          intro rowConcrete
          exact none ⟨row, List.mem_cons_of_mem _ member, ofOthers row member rowConcrete⟩
  rcases source with ⟨row, member, rfl⟩
  have arrays : ∀ row ∈ first :: others, row.type.isArray = true :=
    List.forall_mem_cons.mpr ⟨firstArray, Literals.arrays_of_joinRowTags joined⟩
  have array := arrays row member
  have rowFormed := formed row member
  cases type : row.type with
  | array element axes =>
      rw [type] at rowFormed
      exact rowFormed.1
  | comptimeArray element axes =>
      rw [type] at rowFormed concrete
      rw [show (Ty.comptimeArray element axes).elementTag.isComptime = true from rowFormed.1]
        at concrete
      cases concrete
  | scalar | range | comptimeRange =>
      rw [type] at array
      cases array

theorem formed_rows {first : Resolved} {others : List Resolved} {dims : Axes Dim}
    (found : first.type.dims? = some dims)
    (counted : ((first :: others).length : Int) ≤ Word.greatest)
    (formed : ∀ row ∈ first :: others, row.type.Formed)
    (settled : ∀ row ∈ first :: others, row.type.Settled) :
    Gives (rows dims (first :: others) first.type.elementTag) := by
  have length : (Dim.fixed (first :: others).length).Counted :=
    ⟨Int.natCast_pos.mpr (Nat.zero_lt_succ _), counted⟩
  have firstFormed := formed first List.mem_cons_self
  rw [List.forall_mem_cons] at settled
  simp only [rows]
  split
  · exact refused _ _
  · next tag joined =>
      split
      · next both =>
          simp only [List.all_cons, Bool.and_eq_true] at both
          apply Yields.pure
          cases type : first.type with
          | comptimeArray element axes =>
              rw [type] at found firstFormed
              cases found
              refine ⟨both.2, ?_⟩
              rw [Axes.toList_cons, List.forall_mem_cons, ← Coherence.dims_of_map rfl]
              exact ⟨length, firstFormed.2⟩
          | array =>
              rw [type] at both
              cases both.1.1
          | scalar | range | comptimeRange =>
              rw [type] at found
              cases found
      · next mixed =>
          have notComptime : tag.isComptime = false := by
            rw [← Bool.not_eq_true]
            intro comptime
            rcases Clean.known_joinRowTags settled.1.known settled.2 joined with ⟨_, all⟩
            rcases all comptime with ⟨firstComptime, rest⟩
            rw [settled.1.coherent] at firstComptime
            apply mixed
            rw [Bool.and_eq_true, List.all_eq_true]
            exact ⟨List.forall_mem_cons.mpr ⟨firstComptime, rest⟩, comptime⟩
          have array : first.type.isArray = true := by
            rw [Ty.isArray, found]
            rfl
          exact .pure ⟨isArrayElement_of_joinRowTags array formed joined notComptime,
            List.forall_mem_cons.mpr ⟨length, firstFormed.dims found⟩⟩

theorem formed_arrayLiteral (ctx : Context) (node : Node) {elements : List Resolved}
    {target : Option Ty} (counted : (elements.length : Int) ≤ Word.greatest)
    (formed : ∀ element ∈ elements, element.type.Formed)
    (asked : ∀ type ∈ target, type.Formed) :
    Gives (arrayLiteral ctx node elements target) := by
  cases elements with
  | nil =>
      simp only [arrayLiteral, emptyArray]
      split
      · split
        · exact .pure (asked _ rfl)
        · exact .after fun _ => .pure (asked _ rfl)
      · exact refused _ _
  | cons first others =>
      simp only [arrayLiteral]
      split
      · exact .pure trivial
      · next known =>
          have settled : ∀ element ∈ first :: others, element.type.Settled := by
            intro element member
            apply (formed element member).settled
            intro unknown
            exact known (List.any_eq_true.mpr ⟨element, member, unknown⟩)
          split
          · next tag type =>
              rw [List.forall_mem_cons] at settled
              have firstKnown := settled.1.known
              rw [type] at firstKnown
              exact formed_vector _ _ _ (List.cons_ne_nil _ _) counted firstKnown settled.2
          · split
            · next found => exact formed_rows found counted formed settled
            · exact refused _ _

/-! ## Ranges -/

theorem formed_rangeOf {tag : Tag} {form : RangeForm} (bounds : Bounds)
    (numeric : tag.isNumeric = true) (stepless : form.hasStep = false) :
    (rangeOf tag form bounds).type.Formed := by
  simp only [rangeOf]
  split
  · next comptime => exact ⟨comptime, stepless⟩
  · next concrete =>
      rw [Bool.not_eq_true] at concrete
      exact ⟨isRangeElement_iff.mpr ⟨numeric, concrete⟩, stepless⟩

theorem numeric_adaptRange (ctx : Context) (hint : Tag) {tag : Tag} (bounds : Bounds)
    (numeric : tag.isNumeric = true) :
    Yields (adaptRange ctx hint tag bounds) fun element =>
      ∀ known ∈ element, known.isNumeric = true := by
  simp only [adaptRange]
  split
  · next allowed =>
      apply Yields.after
      intro fits
      split
      · apply Yields.pure
        rintro _ ⟨⟩
        exact (Tag.isNumeric_of_canAdapt (Bool.and_eq_true_iff.mp allowed).2).2
      · exact .pure nofun
  · apply Yields.pure
    rintro _ ⟨⟩
    exact numeric

theorem formed_rangeLiteral (ctx : Context) (node : Node) (step : Position) {form : RangeForm}
    (hint : Tag) {parts : RangeParts} (bounds : Bounds) (stepless : form.hasStep = false)
    (numeric : ∀ tag ∈ parts.tag, tag.isNumeric = true) :
    Gives (rangeLiteral ctx node step form hint parts bounds) := by
  simp only [rangeLiteral]
  split
  · exact .pure trivial
  · split
    · refine .pure (formed_rangeOf _ ?_ stepless)
      split
      · next concrete =>
          rw [Bool.and_eq_true] at concrete
          exact concrete.2
      · rfl
    · next tag found =>
        apply (numeric_adaptRange ctx hint bounds (numeric tag found)).bind
        intro element elementNumeric
        split
        · exact .pure trivial
        · next known =>
            split
            · exact refused _ _
            · apply Yields.after
              intro hasStep
              split
              · exact .pure (formed_rangeOf _ (elementNumeric known rfl) stepless)
              · exact .pure trivial

/-! ## Slices -/

theorem wrap_le (value : Int) : Word.wrap value ≤ Word.greatest := by
  have bound : Word.wrap value < (0x10000000000000000 + 1) / 2 := Int.bmod_lt (by decide)
  unfold Word.greatest
  omega

/-- What is known of the end of a slice is a word. -/
theorem sliceEnd_le {form : RangeForm} {bounds : Bounds} {outer : Dim} {stop : Int}
    (counted : outer.Counted) (found : sliceEnd? form bounds outer = some stop) :
    stop ≤ Word.greatest := by
  simp only [sliceEnd?] at found
  split at found
  · split at found
    · next value known =>
        rcases Option.bind_eq_some_iff.mp known with ⟨constant, _, word⟩
        split at found
        · cases found
        · cases found
          split
          · exact wrap_le _
          · exact (of_decide_eq_true (Checked.eq_of_word? word).2).2
    · cases found
  · split at found
    · cases found
    · cases found
      exact counted.2

/-- Without a step, the rows of a slice are counted exactly. -/
theorem sliceCount_one {start stop : Int} (notNegative : 0 ≤ start) (nonempty : start < stop)
    (word : stop ≤ Word.greatest) : sliceCount start stop 1 = stop - start := by
  unfold sliceCount
  rw [Int.add_sub_cancel, Checked.wrap_of_le (by omega) (by omega), Int.tdiv_one]

theorem counted_sliceSpan {position : Position} {form : RangeForm} {bounds : Option Bounds}
    {outer : Dim} {span : SliceSpan} (stepless : form.hasStep = false)
    (counted : outer.Counted) (found : sliceSpan position form bounds outer = .ok span) :
    span.length.Counted := by
  cases bounds with
  | none =>
      simp only [sliceSpan] at found
      split at found
      · cases found
        trivial
      · cases found
        exact counted
  | some bounds =>
      simp only [sliceSpan] at found
      split at found
      · next start stop step started stopped stepped =>
          have single : step = 1 := by
            simp only [sliceStep?, stepless] at stepped
            cases stepped
            rfl
          subst single
          have notNegative := Checked.sliceStart_nonneg started
          have word := sliceEnd_le counted stopped
          simp only [boundedSpan] at found
          repeat' split at found
          all_goals cases found
          next nonempty =>
            have rows := sliceCount_one notNegative (Int.not_le.mp nonempty) word
            have exact : (Dim.fixed (sliceCount start stop 1)).Counted := by
              rw [rows]
              constructor <;> omega
            rw [Dim.counted_ofInt exact]
            exact exact
      · cases found
        trivial

theorem formed_sliced (node : Node) {array : Operand} {span : SliceSpan}
    (formed : array.type.Formed) (counted : span.length.Counted) :
    Gives (sliced node array span) := by
  simp only [sliced]
  cases type : array.type with
  | array element dims =>
      rw [type] at formed
      exact .pure ⟨formed.1, List.forall_mem_cons.mpr
        ⟨counted, (List.forall_mem_cons.mp formed.2).2⟩⟩
  | comptimeArray element dims =>
      rw [type] at formed
      cases length : span.length with
      | wildcard => exact refused _ _
      | fixed size =>
          rw [length] at counted
          apply Yields.pure
          rw [Clean.type_selectRows]
          exact ⟨formed.1, List.forall_mem_cons.mpr
            ⟨counted, (List.forall_mem_cons.mp formed.2).2⟩⟩
  | scalar | range | comptimeRange => exact .pure trivial

theorem formed_slice (ctx : Context) (node : Node) {array index : Resolved} {axes : Axes Dim}
    {element : Tag} {form : RangeForm} (arrayFormed : array.type.Formed)
    (indexFormed : index.type.Formed) (found : array.type.dims? = some axes)
    (ranged : index.type.rangeParts? = some (element, form)) :
    Gives (slice ctx node array index form axes.outer) := by
  have counted : axes.outer.Counted := arrayFormed.dims found _ List.mem_cons_self
  have stepless : form.hasStep = false := by
    cases type : index.type with
    | range | comptimeRange =>
        rw [type] at ranged indexFormed
        cases ranged
        exact indexFormed.2
    | scalar | array | comptimeArray =>
        rw [type] at ranged
        cases ranged
  exact .slice trivial fun spans =>
    formed_sliced node arrayFormed (counted_sliceSpan stepless counted spans)

/-! ## Branches -/

theorem formed_joinBranch {policy : BranchPolicy} {joined result : Operand}
    {branch : Resolved} (joinedFormed : joined.type.Formed) (formed : branch.type.Formed)
    (ended : joinBranch policy joined branch = .ok result) : result.type.Formed := by
  rcases joinBranch_cases ended with ⟨type, rfl, rfl | resolved⟩
  · trivial
  · exact formed_resolve joinedFormed formed resolved

theorem formed_joinBranches (ctx : Context) {branches : List Resolved}
    (formed : ∀ branch ∈ branches, branch.type.Formed) :
    Gives (joinBranches ctx branches) := by
  have keeps : ∀ branch ∈ branches, ∀ joined result : Operand, joined.type.Formed →
      joinBranch ctx.policy joined branch = .ok result → result.type.Formed :=
    fun branch member _ _ before => formed_joinBranch before (formed branch member)
  refine .joinBranches trivial ?_ fun ended => forall_joinFrom_none keeps formed ended _ rfl
  rintro branch rfl
  exact formed branch List.mem_cons_self

/-! ## Written types -/

theorem counted_readDims (node : Node) {dims : List (Option DimExpr)}
    (fits : ∀ dim ∈ dims, ∀ written ∈ dim, ∀ size ∈ written.size, size ≤ Word.greatest) :
    Yields (readDims node dims) fun read => ∀ axes ∈ read, ∀ dim ∈ axes, dim.Counted := by
  induction dims with
  | nil =>
      apply Yields.pure
      rintro _ ⟨⟩
      exact List.forall_mem_nil _
  | cons dim dims induction =>
      rw [List.forall_mem_cons] at fits
      cases dim with
      | none => exact .stop _
      | some dim =>
          have added : ∀ outer : Dim, outer.Counted →
              Yields (return (← readDims node dims).map (outer :: ·)) fun read =>
                ∀ axes ∈ read, ∀ dim ∈ axes, dim.Counted := by
            intro outer counted
            apply (induction fits.2).bind
            intro read readCounted
            apply Yields.pure
            intro axes member
            rcases Option.map_eq_some_iff.mp member with ⟨inner, found, rfl⟩
            exact List.forall_mem_cons.mpr ⟨counted, readCounted inner found⟩
          simp only [readDims]
          split
          · exact added .wildcard trivial
          · next size written =>
              split
              · refine .after fun _ => .pure ?_
                rintro _ ⟨⟩
              · next positive =>
                  exact added (.fixed size)
                    ⟨Int.not_le.mp positive, fits.1 dim rfl size written⟩

theorem formed_of_array? {element : Tag} {dims : List Dim} {type : Ty}
    (counted : ∀ dim ∈ dims, dim.Counted) (array : Ty.array? element dims = .ok type) :
    type.Formed := by
  rcases Ty.array?_eq_ok_iff.mp array with ⟨axes, rfl, ⟨allowed, _⟩, rfl⟩
  exact ⟨allowed, counted⟩

theorem formed_enclose {enclosing : Option Enclosing} (position : Position) {element : Ty}
    (formed : element.Formed)
    (counted : ∀ outer ∈ enclosing, ∀ dim ∈ outer.dims, dim.Counted) :
    Yields (enclose enclosing position element) Ty.Formed := by
  cases enclosing with
  | none => exact .pure formed
  | some outer =>
      simp only [enclose]
      split
      · exact .pure trivial
      · split
        · exact .after fun _ => .pure trivial
        · split
          · next array => exact .pure (formed_of_array? (counted outer rfl) array)
          · exact .after fun _ => .pure trivial

theorem formed_rangeType (node : Node) (element : Ty) :
    Yields (rangeType node element) Ty.Formed := by
  simp only [rangeType]
  split
  · exact .pure trivial
  · split
    · next range =>
        rcases Ty.range?_eq_ok_iff.mp range with ⟨allowed, rfl⟩
        exact .pure ⟨allowed, rfl⟩
    · exact .after fun _ => .pure trivial

theorem formed_resolveIn {type : TypeExpr} {enclosing : Option Enclosing}
    (fits : type.FitsWords) (counted : ∀ outer ∈ enclosing, ∀ dim ∈ outer.dims, dim.Counted) :
    Yields (type.resolveIn enclosing) Ty.Formed := by
  induction type generalizing enclosing with
  | missing => exact .stop _
  | named node name =>
      have scalar : Yields (namedType node name) Ty.Formed := by
        simp only [namedType]
        split
        · exact .pure trivial
        · exact .after fun _ => .pure trivial
      exact scalar.bind fun element formed => formed_enclose _ formed counted
  | array node dims element induction =>
      simp only [TypeExpr.resolveIn]
      split
      · exact .stop _
      · apply (counted_readDims node fits.1).bind
        intro read readCounted
        split
        · exact .pure trivial
        · next axes =>
            have inner := readCounted axes rfl
            split
            · apply induction fits.2
              rintro _ ⟨⟩
              exact inner
            · next outer =>
                apply induction fits.2
                rintro _ ⟨⟩
                exact List.forall_mem_append.mpr ⟨counted outer rfl, inner⟩
  | range node element induction =>
      simp only [TypeExpr.resolveIn]
      split
      · exact .stop _
      · apply (induction fits (by simp)).bind
        intro resolved _
        apply (formed_rangeType node resolved).bind
        exact fun range formed => formed_enclose _ formed counted

end Formation

open Formation in
theorem TypeRule.laws_formed : TypeRule.formed.Laws .stepless where
  keeps_of_asks formed := formed
  lasts formed _ := formed
  scalar _ := trivial
  indexRange := ⟨rfl, rfl⟩
  row formed := formed.row
  written fits := formed_resolveIn fits (by simp)
  array ctx node counted formed asked := formed_arrayLiteral ctx node counted formed asked
  range ctx node step stepless numeric _ _ :=
    formed_rangeLiteral ctx node step _ _ stepless numeric
  sliced ctx node array index found ranged := formed_slice ctx node array index found ranged
  filled ctx label source target := formed_fill ctx label source target
  converted ctx node _ _ value target :=
    (formed_converted ctx node value target).mono fun _ formed _ => formed
  joined ctx _ _ _ _ formed := (formed_joinBranches ctx formed).mono fun _ joined _ => joined

/-- In a program without steps, analyzed from an empty table with any outcome, every type that
is noted, fills a slot, or belongs to a binding or a signature keeps the contract of its kind. -/
theorem Program.types_wellFormed {program : Program} (stepless : program.Within .stepless)
    (policy : BranchPolicy) (width : PointerWidth) (mode : AnalysisMode) :
    ((program.analyze (.start policy width) mode).run (.ofTable .empty)).state.EveryType
      Ty.WellFormed :=
  (TypeRule.everyType TypeRule.laws_formed stepless policy width mode trivial).mono
    fun _ => Ty.Formed.wellFormed

namespace Sample

/-- Three rows of which a slice leaves out the first, and another slice that reaches beyond. -/
def slicing : Program where
  file := ""
  statements := .ofList [
    .declaration (node 0) false (some (name 1 "grid"))
      (.array (node 2) [some ⟨.nowhere, none⟩, some ⟨.nowhere, some 1⟩] (.named (node 3) "i64"))
      (.array (node 4) (.ofList [
        .array (node 5) (.ofList [.int (node 6) "1"]),
        .array (node 7) (.ofList [.int (node 8) "2"]),
        .array (node 9) (.ofList [.int (node 10) "3"])])),
    .expression (node 11) (.index (node 12) (.ident (name 13 "grid"))
      (.range (node 14) (.int (node 15) "1") .missing .missing false)),
    .expression (node 16) (.index (node 17) (.ident (name 18 "grid"))
      (.range (node 19) (.int (node 20) "2") (.int (node 21) "5") .missing false))]

def slicingState : State :=
  ((slicing.analyze (.start .strict .bits64) .full).run (.ofTable .empty)).state

end Sample

theorem Program.types_wellFormed_sample :
    Sample.slicing.Within .stepless ∧
    (12, some (.array .i64 ⟨.fixed 2, [.fixed 1]⟩)) ∈ Sample.slicingState.types ∧
    Sample.slicingState.reports.length = 1 ∧
    (Ty.array .i64 ⟨.fixed 2, [.fixed 1]⟩).WellFormed := by
  have stepless : Sample.slicing.Within .stepless := by
    simp [Sample.slicing, Program.Within, Stmts.ofList, Stmts.Within, Stmt.Within, Expr.Within,
      Exprs.ofList, Exprs.Within, Coverage.stepless, TypeExpr.FitsWords, Exprs.length,
      Exprs.toList, Expr.isMissing, Word.greatest]
  have noted : (12, some (.array .i64 ⟨.fixed 2, [.fixed 1]⟩)) ∈ Sample.slicingState.types := by
    decide
  have formed := types_wellFormed stepless .strict .bits64 .full
  exact ⟨stepless, noted, rfl, formed.noted _ noted _ rfl⟩

end ComptimeTyping
