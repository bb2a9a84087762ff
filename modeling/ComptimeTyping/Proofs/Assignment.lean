import ComptimeTyping.Proofs.Coercion

/-! What may fill a slot, as one rule for each kind of type. A slot that holds a value takes
it once more, a value may go through another slot on its way, and a conversion marker allows
more without changing what was allowed. -/

namespace ComptimeTyping

/-! ## Tags -/

namespace Tag

/-- A tag that is not comptime stands only for itself. -/
theorem eq_of_accepts {source target : Tag} (concrete : source.isComptime = false)
    (accepts : source = target ∨ source.canAdapt target = true ∨
      false = true ∧ source.isNumeric = true ∧ target.isNumeric = true) : source = target := by
  rcases accepts with same | adapts | ⟨⟨⟩, _⟩
  · exact same
  · cases source <;> cases concrete <;> cases adapts

theorem promote_promote (left right : Tag) :
    (left.promote right).promote right = left.promote right := by
  unfold promote
  split <;> simp_all

theorem promote_self {tag : Tag} (comptime : tag.isComptime = true) : tag.promote tag = tag := by
  cases tag <;> cases comptime <;> rfl

/-- Different tags are assigned under a marker if a conversion takes one to the other. -/
theorem converts_of_accepts {source target : Tag} (concrete : target.isComptime = false)
    (accepts : source.canAdapt target = true ∨
      true = true ∧ source.isNumeric = true ∧ target.isNumeric = true) :
    source.isNumeric = true ∧ target.isNumeric = true ∧ target.isConcrete = true := by
  have numeric : source.isNumeric = true ∧ target.isNumeric = true := by
    rcases accepts with adapts | marked
    · exact isNumeric_of_canAdapt adapts
    · exact marked.2
  refine ⟨numeric.1, numeric.2, ?_⟩
  cases target <;> cases numeric.2 <;> cases concrete <;> rfl

variable {left right tag : Tag} {explicit : Bool}

theorem resolve_self (tag : Tag) : tag.resolve tag explicit = .ok tag :=
  if_pos rfl

/-- What two tags agree on agrees with the second one again. -/
theorem resolve_again (resolved : left.resolve right explicit = .ok tag) :
    tag.resolve right explicit = .ok tag := by
  cases explicit <;> cases left <;> cases right <;> cases resolved <;> rfl

theorem resolve_explicit (resolved : left.resolve right false = .ok tag) :
    left.resolve right true = .ok tag := by
  cases left <;> cases right <;> cases resolved <;> rfl

end Tag

/-! ## The rules -/

namespace Ty

/-- A value of the first type may fill a slot of the second one, which then holds the third. -/
inductive Enters (explicit : Bool) : Ty → Ty → Ty → Prop
  /-- What was already reported fills every slot. -/
  | unknown {source target : Ty} (missing : source.isUnknown = true ∨ target.isUnknown = true) :
      Enters explicit source target target
  | scalar {source target : Tag}
      (accepts : source = target ∨ source.canAdapt target = true ∨
        explicit = true ∧ source.isNumeric = true ∧ target.isNumeric = true) :
      Enters explicit (.scalar source) (.scalar target) (.scalar target)
  /-- A literal has all of its lengths. -/
  | literal {source target : Tag} {sizes : Axes Int} {dims : Axes Dim}
      (fits : Shape.check sizes.toList dims.toList = none)
      (accepts : source.canAdapt target = true ∨ explicit = true ∧ target.isNumeric = true) :
      Enters explicit (.comptimeArray source sizes) (.array target dims)
        (.array target (sizes.map Dim.ofInt))
  | array {source target : Tag} {axes dims : Axes Dim}
      (fits : Shape.checkConcrete axes.toList dims.toList = none)
      (accepts : source = target ∨
        explicit = true ∧ source.isNumeric = true ∧ target.isNumeric = true) :
      Enters explicit (.array source axes) (.array target dims) (.array target axes)
  | literals {source target : Tag} {sizes others : Axes Int}
      (fits : Shape.check sizes.toList (others.toList.map Dim.ofInt) = none) :
      Enters explicit (.comptimeArray source sizes) (.comptimeArray target others)
        (.comptimeArray (source.promote target) sizes)
  /-- No marker makes a float range one of indices. -/
  | literalRange {source target : Tag} {form wanted : RangeForm}
      (accepts : source.canAdapt target = true ∨
        explicit = true ∧ (source.isFloat = true → target ≠ .usize)) :
      Enters explicit (.comptimeRange source form) (.range target wanted) (.range target form)
  | range {source target : Tag} {form wanted : RangeForm}
      (accepts : source = target ∨
        explicit = true ∧ (source.isFloat = true → target ≠ .usize)) :
      Enters explicit (.range source form) (.range target wanted) (.range target form)
  | literalRanges {source target tag : Tag} {form wanted : RangeForm}
      (agrees : source.resolve target explicit = .ok tag) :
      Enters explicit (.comptimeRange source form) (.comptimeRange target wanted)
        (.comptimeRange tag form)
  /-- No program has a slot of this kind. -/
  | openRange {source target tag : Tag} {form wanted : RangeForm}
      (agrees : source.resolve target explicit = .ok tag) :
      Enters explicit (.range source form) (.comptimeRange target wanted) (.range tag form)

variable {source target type : Ty} {explicit : Bool}

theorem assignScalar_eq_ok_iff {source target : Tag} :
    assignScalar source target explicit = .ok type ↔
      type = .scalar target ∧ (source = target ∨ source.canAdapt target = true ∨
        explicit = true ∧ source.isNumeric = true ∧ target.isNumeric = true) := by
  constructor
  · intro filled
    refine ⟨eq_of_assignScalar filled, ?_⟩
    cases explicit <;> cases source <;> cases target <;> cases filled <;> decide
  · rintro ⟨rfl, accepts⟩
    cases explicit <;> cases source <;> cases target <;> first | rfl | revert accepts; decide

theorem enters_of_assignArray {element : Tag} {dims : Axes Dim}
    (filled : source.assignArray element dims explicit = .ok type) :
    Enters explicit source (.array element dims) type := by
  cases source with
  | comptimeArray other sizes =>
      simp only [assignArray] at filled
      split at filled
      · cases filled
      · next fits =>
          split at filled
          · next accepts =>
              cases filled
              simp only [Bool.or_eq_true, Bool.and_eq_true] at accepts
              exact .literal fits accepts
          · cases filled
  | array other axes =>
      simp only [assignArray] at filled
      split at filled
      · cases filled
      · next fits =>
          split at filled
          · next accepts =>
              cases filled
              rw [Shape.fillWildcards_of_checkConcrete fits]
              simp only [Bool.and_eq_true] at accepts
              exact .array fits accepts
          · cases filled
  | scalar | range | comptimeRange => cases filled

theorem enters_of_assignRange {element : Tag} {form : RangeForm}
    (filled : source.assignRange element form explicit = .ok type) :
    Enters explicit source (.range element form) type := by
  cases source with
  | comptimeRange other kept =>
      simp only [assignRange] at filled
      split at filled
      · next adapts =>
          cases filled
          exact .literalRange (.inl adapts)
      · split at filled
        · cases filled
        · next notIndex =>
            split at filled
            · next marked =>
                cases filled
                exact .literalRange (.inr ⟨marked, not_and.mp notIndex⟩)
            · cases filled
  | range other kept =>
      simp only [assignRange] at filled
      split at filled
      · next same =>
          cases filled
          subst same
          exact .range (.inl rfl)
      · split at filled
        · cases filled
        · next notIndex =>
            split at filled
            · next marked =>
                cases filled
                exact .range (.inr ⟨marked, not_and.mp notIndex⟩)
            · cases filled
  | scalar | array | comptimeArray => cases filled

theorem enters_of_assign (filled : source.assign target explicit = .ok type) :
    Enters explicit source target type := by
  simp only [assign] at filled
  split at filled
  · next missing =>
      cases filled
      exact .unknown (Bool.or_eq_true _ _ ▸ missing)
  · next known =>
      cases target with
      | scalar tag =>
          cases source with
          | scalar other =>
              rcases assignScalar_eq_ok_iff.mp filled with ⟨rfl, accepts⟩
              exact .scalar accepts
          | array | comptimeArray | range | comptimeRange => cases filled
      | array element dims => exact enters_of_assignArray filled
      | comptimeArray element sizes =>
          cases source with
          | comptimeArray other others =>
              simp only [resolve, if_neg known, resolveComptimeArrays] at filled
              split at filled
              · cases filled
              · next fits =>
                  cases filled
                  exact .literals fits
          | scalar | array | range | comptimeRange => cases filled
      | range element form => exact enters_of_assignRange filled
      | comptimeRange element form =>
          simp only [resolve, if_neg known] at filled
          cases source with
          | comptimeRange other kept =>
              rcases exists_of_map_eq_ok filled with ⟨tag, agrees, rfl⟩
              exact .literalRanges agrees
          | range other kept =>
              rcases exists_of_map_eq_ok filled with ⟨tag, agrees, rfl⟩
              exact .openRange agrees
          | scalar | array | comptimeArray => cases filled

theorem Enters.assign (enters : Enters explicit source target type) :
    source.assign target explicit = .ok type := by
  cases enters with
  | unknown missing => exact if_pos (Bool.or_eq_true _ _ ▸ missing)
  | @scalar source target accepts =>
      have filled := assignScalar_eq_ok_iff.mpr ⟨rfl, accepts⟩
      simp only [Ty.assign, filled]
      exact ite_self _
  | literal fits accepts => simp [Ty.assign, isUnknown, assignArray, fits, accepts]
  | array fits accepts =>
      have kept := Shape.fillWildcards_of_checkConcrete fits
      simp [Ty.assign, isUnknown, assignArray, fits, kept, accepts]
  | literals fits => simp [Ty.assign, isUnknown, resolve, resolveComptimeArrays, fits]
  | literalRange accepts =>
      rcases accepts with adapts | ⟨rfl, notIndex⟩
      · simp [Ty.assign, isUnknown, assignRange, adapts]
      · simp [Ty.assign, isUnknown, assignRange, -not_and, not_and.mpr notIndex]
  | @range source target form wanted accepts =>
      rcases accepts with rfl | ⟨rfl, notIndex⟩
      · simp [Ty.assign, isUnknown, assignRange]
      · by_cases same : source = target
        · simp [Ty.assign, isUnknown, assignRange, same]
        · simp [Ty.assign, isUnknown, assignRange, same, -not_and, not_and.mpr notIndex]
  | literalRanges agrees => simp [Ty.assign, isUnknown, resolve, resolveRanges, agrees, Except.map]
  | openRange agrees => simp [Ty.assign, isUnknown, resolve, resolveRanges, agrees, Except.map]

/-- The rules are exactly what assignment allows. -/
theorem enters_iff :
    Enters explicit source target type ↔ source.assign target explicit = .ok type :=
  ⟨Enters.assign, enters_of_assign⟩

/-! ## Through one slot and another -/

/-- A type fills a slot of its own. Only a literal has to have a comptime element for that. -/
theorem enters_self
    (comptime : ∀ element sizes, target = .comptimeArray element sizes → element.isComptime = true) :
    Enters explicit target target target := by
  cases target with
  | scalar tag => exact .scalar (.inl rfl)
  | array element dims => exact .array (Shape.checkConcrete_self _) (.inl rfl)
  | comptimeArray element sizes =>
      have fits := Shape.check_self sizes.toList
      have entered : Enters explicit (.comptimeArray element sizes) (.comptimeArray element sizes)
          (.comptimeArray (element.promote element) sizes) := .literals fits
      rwa [Tag.promote_self (comptime element sizes rfl)] at entered
  | range element form => exact .range (.inl rfl)
  | comptimeRange element form => exact .literalRanges (Tag.resolve_self element)

namespace Enters

/-- What a slot holds fills it again. Only where nothing is known of the source does the type of
the slot matter, and only that of a literal. -/
theorem again (enters : Enters explicit source target type)
    (comptime : source.isUnknown = true → ∀ element sizes,
      target = .comptimeArray element sizes → element.isComptime = true) :
    Enters explicit type target type := by
  cases enters with
  | unknown missing =>
      rcases missing with sourceMissing | targetMissing
      · exact enters_self (comptime sourceMissing)
      · exact .unknown (.inr targetMissing)
  | scalar accepts => exact .scalar (.inl rfl)
  | literal fits accepts => exact .array (by simpa [Shape.check_eq] using fits) (.inl rfl)
  | array fits accepts => exact .array fits (.inl rfl)
  | @literals left right sizes others fits =>
      have entered : Enters explicit (.comptimeArray (left.promote right) sizes)
          (.comptimeArray right others)
          (.comptimeArray ((left.promote right).promote right) sizes) := .literals fits
      rwa [Tag.promote_promote] at entered
  | literalRange accepts => exact .range (.inl rfl)
  | range accepts => exact .range (.inl rfl)
  | literalRanges agrees => exact .literalRanges (Tag.resolve_again agrees)
  | openRange agrees => exact .openRange (Tag.resolve_again agrees)

/-- A slot that was known before is known when it is filled. -/
theorem unknown_of_unknown (enters : Enters explicit source target type)
    (missing : type.isUnknown = true) : target.isUnknown = true := by
  cases enters with
  | unknown | scalar => exact missing
  | literal | array | literals | literalRange | range | literalRanges | openRange =>
      simp [isUnknown] at missing

/-- A known value that fills a slot by way of a slot of a concrete type fills it at once. -/
theorem trans {middle first last : Ty}
    (known : ¬(source.isUnknown = true ∨ middle.isUnknown = true))
    (middleConcrete : middle.isComptime = false) (targetConcrete : target.isComptime = false)
    (enters : Enters false source middle first) (rest : Enters false first target last) :
    Enters false source target last := by
  cases rest with
  | unknown missing =>
      rcases missing with firstMissing | targetMissing
      · exact absurd (.inr (enters.unknown_of_unknown firstMissing)) known
      · exact .unknown (.inr targetMissing)
  | scalar restAccepts =>
      cases enters with
      | unknown missing => exact absurd missing known
      | scalar accepts =>
          obtain rfl := Tag.eq_of_accepts middleConcrete restAccepts
          exact .scalar accepts
  | array restFits restAccepts =>
      obtain rfl := restAccepts.resolve_right fun marked => nomatch marked.1
      cases enters with
      | unknown missing => exact absurd missing known
      | literal fits accepts =>
          exact .literal (by simpa [Shape.check_eq] using restFits) accepts
      | array fits accepts => exact .array restFits accepts
  | range restAccepts =>
      obtain rfl := restAccepts.resolve_right fun marked => nomatch marked.1
      cases enters with
      | unknown missing => exact absurd missing known
      | literalRange accepts => exact .literalRange accepts
      | range accepts => exact .range accepts
      | openRange => cases middleConcrete
  | literal =>
      cases enters with
      | unknown missing => exact absurd missing known
      | literals => cases middleConcrete
  | literalRange =>
      cases enters with
      | unknown missing => exact absurd missing known
      | literalRanges => cases middleConcrete
  | literals | literalRanges | openRange => cases targetConcrete

/-- A marker takes nothing away. -/
theorem marked (enters : Enters false source target type) :
    Enters true source target type := by
  cases enters with
  | unknown missing => exact .unknown missing
  | scalar accepts =>
      exact .scalar (accepts.imp_right (.imp_right fun marked => nomatch marked.1))
  | literal fits accepts => exact .literal fits (accepts.imp_right fun marked => nomatch marked.1)
  | array fits accepts => exact .array fits (accepts.imp_right fun marked => nomatch marked.1)
  | literals fits => exact .literals fits
  | literalRange accepts =>
      exact .literalRange (accepts.imp_right fun marked => nomatch marked.1)
  | range accepts => exact .range (accepts.imp_right fun marked => nomatch marked.1)
  | literalRanges agrees => exact .literalRanges (Tag.resolve_explicit agrees)
  | openRange agrees => exact .openRange (Tag.resolve_explicit agrees)

end Enters

/-- What a slot holds fills it again without a change. After a value that is not known the slot
holds its own type, so that of a literal must then have a comptime element, as all literals do. A
known value that fills a slot by way of a slot of a concrete type fills it at once, and an array
ends up with the same axes and a range with the same form. -/
theorem slots_compose :
    (∀ {source target type : Ty} {explicit : Bool},
      (source.isUnknown = true → ∀ element sizes,
        target = .comptimeArray element sizes → element.isComptime = true) →
      source.assign target explicit = .ok type → type.assign target explicit = .ok type) ∧
    (∀ {source middle target first last : Ty},
      ¬(source.isUnknown = true ∨ middle.isUnknown = true) →
      middle.isComptime = false → target.isComptime = false →
      source.assign middle false = .ok first → first.assign target false = .ok last →
      source.assign target false = .ok last) := by
  constructor
  · intro source target type explicit comptime filled
    rw [← enters_iff] at filled ⊢
    exact filled.again comptime
  · intro source middle target first last known middleConcrete targetConcrete filled rest
    rw [← enters_iff] at filled rest ⊢
    exact filled.trans known middleConcrete targetConcrete rest

/-- The literal `[[1, 2, 3], [4, 5, 6]]` on its way through `[_][3]f64` into `[2][_]f64`, what it
is converted to there once more, and a slot for two literals after a value that is not known. -/
theorem slots_compose_sample :
    (Ty.comptimeArray .comptimeInt ⟨2, [3]⟩).assign (.array .f64 ⟨.wildcard, [.fixed 3]⟩) false
      = .ok (.array .f64 ⟨.fixed 2, [.fixed 3]⟩) ∧
    (Ty.array .f64 ⟨.fixed 2, [.fixed 3]⟩).assign (.array .f64 ⟨.fixed 2, [.wildcard]⟩) false
      = .ok (.array .f64 ⟨.fixed 2, [.fixed 3]⟩) ∧
    (Ty.comptimeArray .comptimeInt ⟨2, [3]⟩).assign (.array .f64 ⟨.fixed 2, [.wildcard]⟩) false
      = .ok (.array .f64 ⟨.fixed 2, [.fixed 3]⟩) ∧
    (Ty.array .f64 ⟨.fixed 2, [.fixed 3]⟩).assign (.array .i32 ⟨.wildcard, [.wildcard]⟩) true
      = .ok (.array .i32 ⟨.fixed 2, [.fixed 3]⟩) ∧
    (Ty.array .i32 ⟨.fixed 2, [.fixed 3]⟩).assign (.array .i32 ⟨.wildcard, [.wildcard]⟩) true
      = .ok (.array .i32 ⟨.fixed 2, [.fixed 3]⟩) ∧
    (Ty.comptimeArray .comptimeInt ⟨2, []⟩).assign (.comptimeArray .comptimeInt ⟨2, []⟩) false
      = .ok (.comptimeArray .comptimeInt ⟨2, []⟩) := by
  have first : (Ty.comptimeArray .comptimeInt ⟨2, [3]⟩).assign
      (.array .f64 ⟨.wildcard, [.fixed 3]⟩) false = .ok (.array .f64 ⟨.fixed 2, [.fixed 3]⟩) := rfl
  have second : (Ty.array .f64 ⟨.fixed 2, [.fixed 3]⟩).assign
      (.array .f64 ⟨.fixed 2, [.wildcard]⟩) false = .ok (.array .f64 ⟨.fixed 2, [.fixed 3]⟩) := rfl
  have converted : (Ty.array .f64 ⟨.fixed 2, [.fixed 3]⟩).assign
      (.array .i32 ⟨.wildcard, [.wildcard]⟩) true = .ok (.array .i32 ⟨.fixed 2, [.fixed 3]⟩) := rfl
  have missing : (Ty.scalar .unknown).assign (.comptimeArray .comptimeInt ⟨2, []⟩) false
      = .ok (.comptimeArray .comptimeInt ⟨2, []⟩) := rfl
  refine ⟨first, second, slots_compose.2 (by decide) rfl rfl first second, converted,
    slots_compose.1 (fun known => absurd known (by decide)) converted, slots_compose.1 ?_ missing⟩
  rintro _ element sizes ⟨⟩
  rfl

/-! ## Markers -/

theorem assignArray_marked {element : Tag} {dims : Axes Dim}
    (filled : source.assignArray element dims false = .ok type) :
    source.assignArray element dims true = .ok type := by
  have assigned := enters_iff.mp (enters_of_assignArray filled).marked
  cases source with
  | array | comptimeArray => simpa [assign, isUnknown] using assigned
  | scalar | range | comptimeRange => cases filled

theorem resolveRanges_marked {left right : Ty}
    (joined : left.resolveRanges right false = .ok type) :
    left.resolveRanges right true = .ok type := by
  simp only [resolveRanges] at joined ⊢
  split at joined
  case h_5 => cases joined
  all_goals
    rcases exists_of_map_eq_ok joined with ⟨tag, agrees, rfl⟩
    rw [Tag.resolve_explicit agrees]
    rfl

/-- What two operands agree on by themselves they agree on under a marker. -/
theorem resolve_marked {left right : Ty} (joined : left.resolve right false = .ok type) :
    left.resolve right true = .ok type := by
  simp only [resolve] at joined ⊢
  split at joined
  · next missing => rwa [if_pos missing]
  · next known =>
      rw [if_neg known]
      split at joined
      · rcases exists_of_map_eq_ok joined with ⟨tag, agrees, rfl⟩
        rw [Tag.resolve_explicit agrees]
        rfl
      · exact joined
      · exact assignArray_marked joined
      · exact assignArray_marked joined
      · exact assignArray_marked joined
      · exact resolveRanges_marked joined

theorem assign_of_convert (converted : source.convert target = .ok type) :
    source.assign target true = .ok type := by
  simp only [convert] at converted
  split at converted
  · next missing =>
      cases converted
      exact if_pos missing
  · split at converted
    · split at converted
      · split at converted
        · next same =>
            cases converted
            exact (Enters.scalar (.inl same)).assign
        · split at converted
          · next numeric =>
              cases converted
              exact (Enters.scalar (.inr (.inr ⟨rfl, numeric.1, numeric.2.1⟩))).assign
          · cases converted
      · cases converted
    · split at converted
      · split at converted
        · cases converted
        · exact converted
      · cases converted
    · split at converted
      · exact converted
      · cases converted
    · cases converted

theorem convert_of_assign (concrete : target.isComptime = false)
    (filled : source.assign target true = .ok type) : source.convert target = .ok type := by
  cases enters_of_assign filled with
  | unknown missing => exact if_pos (Bool.or_eq_true _ _ ▸ missing)
  | @scalar other tag accepts =>
      simp only [convert]
      split
      · rfl
      · split
        · rfl
        · next different =>
            exact if_pos (Tag.converts_of_accepts concrete (accepts.resolve_left different))
  | @literal other element sizes dims fits accepts =>
      have numeric : element.isNumeric = true := by
        rcases accepts with adapts | marked
        · exact (Tag.isNumeric_of_canAdapt adapts).2
        · exact marked.2
      simpa [convert, isUnknown, isArray, dims?, numeric] using filled
  | @array other element axes dims fits accepts =>
      have convertible : ¬(¬element.isNumeric = true ∧ other ≠ element) := by
        rintro ⟨notNumeric, different⟩
        exact notNumeric (accepts.resolve_left different).2.2
      simp only [convert]
      split
      · simp_all [isUnknown]
      · exact (if_neg convertible).trans filled
  | literalRange | range => simpa [convert, isUnknown, rangeParts?] using filled
  | literals | literalRanges | openRange => cases concrete

theorem convert_eq_ok_iff (concrete : target.isComptime = false) :
    source.convert target = .ok type ↔ source.assign target true = .ok type :=
  ⟨assign_of_convert, convert_of_assign concrete⟩

/-- A conversion does what a marker allows a slot to do. A marker never takes anything away or
changes a result, so whatever fills a slot by itself may also be converted to its type. -/
theorem marker_only_adds :
    (∀ {source target type : Ty}, target.isComptime = false →
      (source.convert target = .ok type ↔ source.assign target true = .ok type)) ∧
    (∀ {source target type : Ty}, source.assign target false = .ok type →
      source.assign target true = .ok type) ∧
    (∀ {left right type : Ty}, left.resolve right false = .ok type →
      left.resolve right true = .ok type) ∧
    (∀ {source target type : Ty}, target.isComptime = false →
      source.assign target false = .ok type → source.convert target = .ok type) := by
  have marked : ∀ {source target type : Ty}, source.assign target false = .ok type →
      source.assign target true = .ok type :=
    fun filled => enters_iff.mp (enters_iff.mpr filled).marked
  exact ⟨convert_eq_ok_iff, marked, resolve_marked,
    fun concrete filled => convert_of_assign concrete (marked filled)⟩

/-- A range literal as an `i64` range, and a float range that no marker makes one of indices. -/
theorem marker_only_adds_sample :
    (Ty.comptimeRange .comptimeInt ⟨true, true, false, true⟩).assign (.range .i64 .bare) false
      = .ok (.range .i64 ⟨true, true, false, true⟩) ∧
    (Ty.comptimeRange .comptimeInt ⟨true, true, false, true⟩).convert (.range .i64 .bare)
      = .ok (.range .i64 ⟨true, true, false, true⟩) ∧
    (Ty.comptimeRange .comptimeInt ⟨true, true, false, true⟩).resolve (.range .i64 .bare) true
      = .ok (.range .i64 .bare) ∧
    ∀ type, (Ty.range .f64 .bare).convert (.range .usize .bare) ≠ .ok type := by
  have filled : (Ty.comptimeRange .comptimeInt ⟨true, true, false, true⟩).assign
      (.range .i64 .bare) false = .ok (.range .i64 ⟨true, true, false, true⟩) := rfl
  rcases marker_only_adds with ⟨conversion, _, agreement, converted⟩
  refine ⟨filled, converted rfl filled, agreement rfl, fun type converts => ?_⟩
  have assigned := (conversion rfl).mp converts
  cases assigned

end Ty

end ComptimeTyping
