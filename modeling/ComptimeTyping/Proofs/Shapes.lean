import ComptimeTyping.Proofs.Coercion

/-! What the comparison of two shapes says. It finds exactly the axes at fault, in ascending
order and with both sizes, and its advice works: the shape that it suggests takes the same
source. -/

namespace ComptimeTyping

/-! ## Numbers that stand for axes -/

namespace Dim

theorem ofInt_eq_wildcard {size : Int} : ofInt size = .wildcard ↔ size = -1 := by
  simp [ofInt]

theorem ofInt_eq_fixed_iff {size wanted : Int} :
    ofInt size = .fixed wanted ↔ size = wanted ∧ wanted ≠ -1 := by
  by_cases isOpen : size = -1
  · simp [ofInt, isOpen, eq_comm]
  · simp only [ofInt, isOpen, if_false, fixed.injEq]
    constructor
    · intro same
      exact ⟨same, same ▸ isOpen⟩
    · exact And.left

theorem ofInt_inj {left right : Int} : ofInt left = ofInt right ↔ left = right := by
  constructor
  · intro same
    rw [← toInt_ofInt left, same, toInt_ofInt]
  · exact congrArg ofInt

end Dim

namespace Shape

/-! ## The axes at fault -/

/-- The axis of a source does not fit that of a target: no wildcard, and another size. -/
structure Faulty (source target : List Int) (axis : Nat) (size wanted : Int) : Prop where
  source : source[axis]? = some size
  target : target[axis]? = some wanted
  isFixed : wanted ≠ -1
  differs : size ≠ wanted

/-- The mismatches are those of all axes at fault, in ascending order. -/
structure Lists (source target : List Int) (mismatches : List AxisMismatch) : Prop where
  ascending : mismatches.Pairwise (·.axis < ·.axis)
  exact : ∀ mismatch, mismatch ∈ mismatches ↔
    ∃ size wanted, Faulty source target mismatch.axis size wanted ∧
      mismatch.source = .ofInt size ∧ mismatch.target = wanted

theorem mem_mismatchesFrom {first : Nat} {source target : List Dim} {mismatch : AxisMismatch} :
    mismatch ∈ mismatchesFrom first source target ↔
      ∃ axis, mismatch.axis = first + axis ∧ source[axis]? = some mismatch.source ∧
        target[axis]? = some (.fixed mismatch.target) ∧
        mismatch.source ≠ .fixed mismatch.target := by
  induction source generalizing first target with
  | nil => simp [mismatchesFrom]
  | cons dim source induction =>
      cases target with
      | nil => simp [mismatchesFrom]
      | cons wanted target =>
          -- The axis is the first one or one behind it.
          rw [← Nat.or_exists_add_one]
          have later := @induction (first + 1) target
          simp only [Nat.add_assoc, Nat.add_comm 1] at later
          simp only [List.getElem?_cons_zero, List.getElem?_cons_succ, ← later, Nat.add_zero]
          cases mismatch with
          | mk axis found expected =>
              cases wanted with
              | wildcard => simp [mismatchesFrom]
              | fixed size =>
                  by_cases same : dim = .fixed size
                  · simp only [mismatchesFrom, if_pos same, Option.some.injEq,
                      Dim.fixed.injEq]
                    grind
                  · simp only [mismatchesFrom, if_neg same, List.mem_cons,
                      AxisMismatch.mk.injEq, Option.some.injEq, Dim.fixed.injEq]
                    grind

theorem ascending_mismatchesFrom (first : Nat) (source target : List Dim) :
    (mismatchesFrom first source target).Pairwise (·.axis < ·.axis) := by
  induction source generalizing first target with
  | nil => simp [mismatchesFrom]
  | cons dim source induction =>
      cases target with
      | nil => simp [mismatchesFrom]
      | cons wanted target =>
          have later := induction (first + 1) target
          cases wanted with
          | wildcard => simpa [mismatchesFrom] using later
          | fixed size =>
              by_cases same : dim = .fixed size
              · simpa [mismatchesFrom, same] using later
              · simp only [mismatchesFrom, if_neg same, List.pairwise_cons]
                constructor
                · intro mismatch member
                  obtain ⟨axis, place, _⟩ := mem_mismatchesFrom.mp member
                  show first < mismatch.axis
                  omega
                · exact later

theorem lists_mismatchesFrom (source target : List Int) :
    Lists source target
      (mismatchesFrom 0 (source.map Dim.ofInt) (target.map Dim.ofInt)) := by
  constructor
  · exact ascending_mismatchesFrom _ _ _
  · intro mismatch
    simp only [mem_mismatchesFrom, Nat.zero_add, exists_eq_left', List.getElem?_map,
      Option.map_eq_some_iff]
    constructor
    · rintro ⟨⟨size, found, isSize⟩, ⟨wanted, asked, isWanted⟩, differs⟩
      obtain ⟨rfl, isFixed⟩ := Dim.ofInt_eq_fixed_iff.mp isWanted
      rw [← isSize, ← isWanted, Ne, Dim.ofInt_inj] at differs
      exact ⟨size, _, ⟨found, asked, isFixed, differs⟩, isSize.symm, rfl⟩
    · rintro ⟨size, wanted, faulty, isSize, rfl⟩
      have isWanted := Dim.ofInt_eq_fixed_iff.mpr ⟨rfl, faulty.isFixed⟩
      refine ⟨⟨size, faulty.source, isSize.symm⟩, ⟨_, faulty.target, isWanted⟩, ?_⟩
      rw [isSize, ← isWanted, Ne, Dim.ofInt_inj]
      exact faulty.differs

/-! ## The verdict -/

/-- The ranks differ, or they agree and there are axes at fault. -/
theorem checkConcrete_eq_some {source target : List Dim} {mismatch : ShapeMismatch}
    (found : checkConcrete source target = some mismatch) :
    source.length ≠ target.length ∧ mismatch = .rank source target ∨
      source.length = target.length ∧
        mismatch = .axes source target (mismatchesFrom 0 source target) ∧
        mismatchesFrom 0 source target ≠ [] := by
  simp only [checkConcrete] at found
  split at found
  · next sameRank =>
      split at found
      · cases found
      · next listed =>
          cases found
          exact .inr ⟨sameRank, rfl, listed⟩
  · next otherRank =>
      cases found
      exact .inl ⟨otherRank, rfl⟩

/-- A target admits a source of numbers axis by axis. -/
theorem admits_map_ofInt {source target : List Int} :
    Admits (target.map Dim.ofInt) (source.map Dim.ofInt) ↔
      List.Forall₂ (fun wanted size => wanted = -1 ∨ wanted = size) target source := by
  simp only [Admits, List.forall₂_map_left_iff, List.forall₂_map_right_iff, Dim.Admits,
    Dim.ofInt_eq_wildcard, Dim.ofInt_inj]

/-- A shape of wildcards admits every shape of its rank. -/
theorem admits_wildcards (source : List Dim) :
    Admits (source.map fun _ => .wildcard) source := by
  simp only [Admits, List.forall₂_map_left_iff]
  exact List.forall₂_same.mpr fun _ _ => .inl rfl

end Shape

/-! ## The advice -/

namespace ShapeMismatch

open Shape

theorem getElem?_relaxed (mismatch : ShapeMismatch) (axis : Nat) :
    mismatch.relaxed[axis]? = mismatch.target[axis]?.map fun dim =>
      if ∃ fault ∈ mismatch.mismatches, fault.axis = axis then .wildcard else dim := by
  simp [relaxed, List.getElem?_mapIdx]

/-- Where the axes at fault are left open, the source fits. -/
theorem admits_relaxed {mismatch : ShapeMismatch}
    (sameRank : mismatch.source.length = mismatch.target.length)
    (listed : mismatch.mismatches = mismatchesFrom 0 mismatch.source mismatch.target) :
    Admits mismatch.relaxed mismatch.source := by
  rw [Admits, List.forall₂_iff_get]
  constructor
  · simpa [relaxed] using sameRank.symm
  · intro axis inRelaxed inSource
    have inTarget : axis < mismatch.target.length := by omega
    have relaxedAxis := mismatch.getElem?_relaxed axis
    rw [List.getElem?_eq_getElem inRelaxed, List.getElem?_eq_getElem inTarget, Option.map_some,
      Option.some.injEq] at relaxedAxis
    rw [List.get_eq_getElem, List.get_eq_getElem, relaxedAxis]
    by_cases faulty : ∃ fault ∈ mismatch.mismatches, fault.axis = axis
    · exact .inl (if_pos faulty)
    · rw [if_neg faulty]
      by_contra unfit
      simp only [Dim.Admits, not_or] at unfit
      cases asked : mismatch.target[axis] with
      | wildcard => exact unfit.1 asked
      | fixed size =>
          have found : ⟨axis, mismatch.source[axis], size⟩ ∈ mismatch.mismatches := by
            rw [listed, mem_mismatchesFrom]
            refine ⟨axis, by simp, by simp, by simp [inTarget, asked], ?_⟩
            rw [← asked]
            exact Ne.symm unfit.2
          exact faulty ⟨_, found, rfl⟩

theorem admits_suggestion {source target : List Dim} {mismatch : ShapeMismatch}
    (found : checkConcrete source target = some mismatch) :
    Admits mismatch.suggestion source := by
  rcases checkConcrete_eq_some found with ⟨_, rfl⟩ | ⟨sameRank, rfl, _⟩
  · exact admits_wildcards source
  · exact admits_relaxed sameRank rfl

/-- The suggestion leaves open exactly the axes at fault. -/
theorem relaxed_of_lists {source target : List Int} (mismatch : ShapeMismatch)
    (sameRank : source.length = target.length)
    (asked : mismatch.target = target.map Dim.ofInt)
    (lists : Lists source target mismatch.mismatches) :
    mismatch.relaxed = target.mapIdx fun axis wanted =>
      if wanted ≠ -1 ∧ source[axis]? ≠ some wanted then .wildcard else .ofInt wanted := by
  apply List.ext_getElem?
  intro axis
  rw [getElem?_relaxed, asked, List.getElem?_map, List.getElem?_mapIdx]
  cases found : target[axis]? with
  | none => rfl
  | some wanted =>
      have inSource : axis < source.length := by
        rw [sameRank]
        exact (List.getElem?_eq_some_iff.mp found).1
      have faulty : (∃ fault ∈ mismatch.mismatches, fault.axis = axis) ↔
          wanted ≠ -1 ∧ source[axis]? ≠ some wanted := by
        rw [List.getElem?_eq_getElem inSource, Ne, Ne, Option.some.injEq]
        constructor
        · rintro ⟨fault, member, rfl⟩
          obtain ⟨size, other, faulty, _⟩ := (lists.exact fault).mp member
          have sameSize := faulty.source
          have sameWanted := faulty.target
          rw [List.getElem?_eq_getElem inSource, Option.some.injEq] at sameSize
          rw [found, Option.some.injEq] at sameWanted
          subst sameSize sameWanted
          exact ⟨faulty.isFixed, faulty.differs⟩
        · intro ⟨isFixed, differs⟩
          refine ⟨⟨axis, .ofInt source[axis], wanted⟩, (lists.exact _).mpr ?_, rfl⟩
          exact ⟨source[axis], wanted, ⟨by simp, found, isFixed, differs⟩, rfl, rfl⟩
      simp only [Option.map_some, faulty]

/-- The text of the advice spells out the suggested shape. -/
theorem exists_help_eq (mismatch : ShapeMismatch) :
    ∃ before after,
      mismatch.help = before ++ Dim.renderAll mismatch.suggestion ++ after := by
  unfold help
  cases mismatch with
  | rank source target => exact ⟨_, _, rfl⟩
  | axes source target mismatches => exact ⟨_, _, String.append_assoc ..⟩

end ShapeMismatch

/-- Of numbers that stand for axes, a source fits a target exactly if they have the same rank
and each target axis is a wildcard or the same number. Otherwise the ranks differ and no axis
is named, or the axes at fault are, in ascending order and with both sizes. The numbers of a
literal and those of a concrete type are compared alike. The advice is the target with the axes
at fault left open, or a shape of wildcards, and the source fits it. -/
theorem Shape.checked_exactly (source target : List Int) :
    (check source (target.map Dim.ofInt) = none ↔
      List.Forall₂ (fun wanted size => wanted = -1 ∨ wanted = size) target source) ∧
    checkConcrete (source.map Dim.ofInt) (target.map Dim.ofInt)
      = check source (target.map Dim.ofInt) ∧
    ∀ mismatch, check source (target.map Dim.ofInt) = some mismatch →
      mismatch.source = source.map Dim.ofInt ∧
      mismatch.target = target.map Dim.ofInt ∧
      (mismatch.isRank = true ∧ source.length ≠ target.length ∧ mismatch.mismatches = [] ∧
          mismatch.suggestion = List.replicate source.length .wildcard ∨
        mismatch.isRank = false ∧ source.length = target.length ∧ mismatch.mismatches ≠ [] ∧
          Lists source target mismatch.mismatches ∧
          mismatch.suggestion = target.mapIdx fun axis wanted =>
            if wanted ≠ -1 ∧ source[axis]? ≠ some wanted then .wildcard else .ofInt wanted) ∧
      check source mismatch.suggestion = none ∧
      checkConcrete (source.map Dim.ofInt) mismatch.suggestion = none ∧
      ∃ before after,
        mismatch.help = before ++ Dim.renderAll mismatch.suggestion ++ after := by
  refine ⟨?_, (check_eq _ _).symm, ?_⟩
  · rw [check_eq, checkConcrete_eq_none, admits_map_ofInt]
  · intro mismatch found
    rw [check_eq] at found ⊢
    have fits := checkConcrete_eq_none.mpr (ShapeMismatch.admits_suggestion found)
    have advised := mismatch.exists_help_eq
    rcases checkConcrete_eq_some found with ⟨otherRank, rfl⟩ | ⟨sameRank, rfl, listed⟩
    · rw [List.length_map, List.length_map] at otherRank
      have wildcards : (source.map Dim.ofInt).map (fun _ => Dim.wildcard)
          = List.replicate source.length .wildcard := by
        rw [List.map_const', List.length_map]
      exact ⟨rfl, rfl, .inl ⟨rfl, otherRank, rfl, wildcards⟩, fits, fits, advised⟩
    · rw [List.length_map, List.length_map] at sameRank
      have lists := lists_mismatchesFrom source target
      have relaxed := ShapeMismatch.relaxed_of_lists (.axes (source.map Dim.ofInt)
        (target.map Dim.ofInt) (mismatchesFrom 0 (source.map Dim.ofInt) (target.map Dim.ofInt)))
        sameRank rfl lists
      exact ⟨rfl, rfl, .inr ⟨rfl, sameRank, listed, lists, relaxed⟩, fits, fits, advised⟩

/-- Two of three axes are at fault, one of them because its length is not known. -/
example :
    (Shape.checkConcrete [.fixed 2, .wildcard, .fixed 4] [.fixed 3, .fixed 5, .fixed 4]).map
      ShapeMismatch.suggestion = some [.wildcard, .wildcard, .fixed 4] := by
  decide

end ComptimeTyping
