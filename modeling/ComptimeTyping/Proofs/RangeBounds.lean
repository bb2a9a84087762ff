import ComptimeTyping.Proofs.Checks
import ComptimeTyping.Proofs.Coherence
import ComptimeTyping.Proofs.Literals
import ComptimeTyping.Proofs.Once

/-! The bounds of a range and its element. Comptime bounds that take on the element that is
asked for are checked against it. Beside a concrete bound they take on its type unchecked. -/

namespace ComptimeTyping

open Analysis

/-! ## What is found at a moment -/

/-- What the expression of a moment is resolved to. -/
def Moment.Finds (moment : Moment) (operand : Operand) : Prop :=
  ∃ ctx target expr after, moment.task = .expr ctx target expr ∧
    (expr.resolve ctx target).run moment.state = .ok operand after

theorem Moment.Finds.eq {ctx : Context} {target : Option Ty} {expr : Expr}
    {before after : State} {found operand : Operand}
    (finds : Moment.Finds ⟨.expr ctx target expr, before⟩ found)
    (run : (expr.resolve ctx target).run before = .ok operand after) : found = operand := by
  rcases finds with ⟨_, _, _, _, ⟨⟩, again⟩
  rw [run] at again
  cases again
  rfl

namespace RangeBounds

variable {ctx : Context} {before after : State}

/-! ## Bounds one after the other -/

/-- The tag of valid bounds, by the moments at which they were resolved: comptime if all of them
are, or else the type of one of them. -/
structure Tagged (parts : RangeParts) (moments : List Moment) : Prop where
  untagged : parts.tag = none → moments = []
  comptime : ∀ tag, parts.tag = some tag → tag.isComptime = true →
    ∀ moment ∈ moments, ∀ bound, moment.Finds bound → bound.type.isComptime = true
  concrete : ∀ tag, parts.tag = some tag → tag.isComptime = false →
    ∃ moment ∈ moments, ∃ bound, moment.Finds bound ∧ bound.type = .scalar tag

theorem tagged_nil (isInvalid : Bool) : Tagged ⟨isInvalid, none⟩ [] :=
  ⟨fun _ => rfl, nofun, nofun⟩

/-- Two tags agree on a concrete one only if it is one of them. -/
theorem eq_of_resolve_concrete {left right tag : Tag}
    (resolved : left.resolve right false = .ok tag) (concrete : tag.isComptime = false) :
    tag = left ∨ tag = right := by
  have comptime := Tag.isComptime_resolve resolved
  rw [concrete] at comptime
  rcases Bool.and_eq_false_iff.mp comptime.symm with leftConcrete | rightConcrete
  · exact .inl ((Literals.eq_of_resolve resolved).1 leftConcrete)
  · exact .inr ((Literals.eq_of_resolve resolved).2 rightConcrete)

/-- One more bound joins those before it. -/
theorem Tagged.add {parts : RangeParts} {moments : List Moment} {moment : Moment}
    {operand : Operand} {tag joined : Tag} (tagged : Tagged parts moments)
    (finds : ∀ bound, moment.Finds bound ↔ bound = operand) (scalar : operand.type = .scalar tag)
    (joins : parts.tag = none ∧ joined = tag ∨
      ∃ earlier, parts.tag = some earlier ∧ earlier.resolve tag false = .ok joined) :
    Tagged { parts with tag := some joined } (moments ++ [moment]) := by
  have found : operand.type.isComptime = tag.isComptime := by rw [scalar]; rfl
  refine ⟨nofun, ?_, ?_⟩
  · rintro _ ⟨⟩ comptime
    have both : tag.isComptime = true ∧ ∀ moment ∈ moments, ∀ bound, moment.Finds bound →
        bound.type.isComptime = true := by
      rcases joins with ⟨none, rfl⟩ | ⟨earlier, some, resolved⟩
      · rw [tagged.untagged none]
        exact ⟨comptime, List.forall_mem_nil _⟩
      · rw [Tag.isComptime_resolve resolved, Bool.and_eq_true] at comptime
        exact ⟨comptime.2, tagged.comptime earlier some comptime.1⟩
    rw [List.forall_mem_append, List.forall_mem_singleton]
    refine ⟨both.2, fun bound finding => ?_⟩
    rw [(finds bound).mp finding, found, both.1]
  · rintro _ ⟨⟩ concrete
    have last : joined = tag → ∃ seen ∈ moments ++ [moment], ∃ bound,
        seen.Finds bound ∧ bound.type = .scalar joined := by
      rintro rfl
      exact ⟨moment, List.mem_append_right _ List.mem_cons_self, operand, (finds _).mpr rfl,
        scalar⟩
    rcases joins with ⟨_, same⟩ | ⟨earlier, some, resolved⟩
    · exact last same
    · rcases eq_of_resolve_concrete resolved concrete with same | same
      · subst same
        rcases tagged.concrete joined some concrete with ⟨first, member, rest⟩
        exact ⟨first, List.mem_append_left _ member, rest⟩
      · exact last same

/-- A bound that is there and leaves the bounds valid is added to them. -/
theorem exists_of_addBound {part : String} {parts : RangeParts} {bound : Resolved}
    {result : RangeParts × Bound} (run : (addBound part parts bound).run before = .ok result after)
    (valid : result.1.isInvalid = false) :
    ∃ tag joined, bound.type = .scalar tag ∧
      result = ({ parts with tag := some joined }, foldedBound bound.position tag bound.operand) ∧
      (parts.tag = none ∧ joined = tag ∨
        ∃ earlier, parts.tag = some earlier ∧ earlier.resolve tag false = .ok joined) := by
  simp only [addBound] at run
  split at run
  · cases run
    cases valid
  · split at run
    · cases run
      cases valid
    · next tag numeric =>
        have scalar := Coherence.type_of_numericTag? numeric
        split at run
        · next none =>
            cases run
            exact ⟨tag, tag, scalar, rfl, .inl ⟨none, rfl⟩⟩
        · next earlier some =>
            split at run
            · next joined resolved =>
                cases run
                exact ⟨tag, joined, scalar, rfl, .inr ⟨earlier, some, resolved⟩⟩
            · cases run
              cases valid

/-- What is known of the bounds of a moment is what is kept of them. -/
def Keeps (bound : Bound) (moments : List Moment) : Prop :=
  ∀ moment ∈ moments, ∀ found, moment.Finds found → found.type.isComptime = true →
    bound.value = found.value

theorem valid_of_withBound {part : String} {parts : RangeParts} {bound : Expr}
    {resolve : Analysis Operand} {result : RangeParts × Bound}
    (run : (withBound part parts bound resolve).run before = .ok result after)
    (valid : result.1.isInvalid = false) : parts.isInvalid = false := by
  apply Bool.eq_false_iff.mpr
  intro invalid
  rw [(boundRead_withBound run).stillInvalid invalid] at valid
  cases valid

theorem tagged_withBound {part : String} {parts : RangeParts} {bound : Expr}
    {target : Option Ty} {moments : List Moment} {result : RangeParts × Bound}
    (run : (withBound part parts bound (bound.resolve ctx target)).run before
      = .ok result after)
    (valid : result.1.isInvalid = false) (earlier : Tagged parts moments) :
    Tagged result.1 (moments ++ bound.boundCalls ctx target before) ∧
      Keeps result.2 (bound.boundCalls ctx target before) := by
  simp only [withBound] at run
  simp only [Expr.boundCalls]
  split at run
  · next missing =>
      cases run
      rw [if_pos missing, List.append_nil]
      exact ⟨earlier, List.forall_mem_nil _⟩
  · next present =>
      rcases run_bind_eq_ok.mp run with ⟨operand, middle, resolved, added⟩
      rcases exists_of_addBound added valid with ⟨tag, joined, scalar, rfl, joins⟩
      have finds : ∀ found, Moment.Finds ⟨.expr ctx target bound, before⟩ found ↔
          found = operand := by
        refine fun found => ⟨fun finding => finding.eq resolved, ?_⟩
        rintro rfl
        exact ⟨ctx, target, bound, middle, rfl, resolved⟩
      rw [if_neg present]
      refine ⟨earlier.add finds scalar joins, ?_⟩
      rw [Keeps, List.forall_mem_singleton]
      intro found finding comptime
      obtain rfl := (finds found).mp finding
      have open' : tag.isComptime = true := by
        rw [← comptime, show found.type = .scalar tag from scalar]
        rfl
      exact if_pos open'

/-! ## The element -/

/-- The tag of bounds stays, unless it is comptime and the bounds fit what they are asked for. -/
theorem exists_of_adaptRange {hint tag : Tag} {bounds : Bounds} {element : Option Tag}
    (run : (adaptRange ctx hint tag bounds).run before = .ok element after) :
    element = none ∨ element = some tag ∨ tag.isComptime = true ∧ element = some hint ∧
      ∀ bound ∈ [bounds.start, bounds.stop, bounds.step], ∀ constant ∈ bound.value,
        constant.fits hint ctx.width = true := by
  simp only [adaptRange] at run
  split at run
  · next adapts =>
      simp only [Bool.and_eq_true] at adapts
      rcases run_bind_eq_ok.mp run with ⟨fits, middle, checked, ended⟩
      cases fits with
      | false =>
          cases ended
          exact .inl rfl
      | true =>
          cases ended
          have fit := ((checks_checkBoundsFit ctx bounds hint).passes checked).mp rfl
          exact .inr (.inr ⟨adapts.1.1, rfl, fit⟩)
  · cases run
    exact .inr (.inl rfl)

theorem eq_of_rangeOf {element tag : Tag} {form kept : RangeForm} {bounds : Bounds}
    (range : (rangeOf element form bounds).type = .range tag kept) :
    element = tag ∧ form = kept ∧ tag.isComptime = false := by
  simp only [rangeOf] at range
  split at range
  · cases range
  · next concrete =>
      cases range
      exact ⟨rfl, rfl, Bool.eq_false_iff.mpr concrete⟩

/-- A range literal that is accepted keeps its form and its bounds. -/
theorem rangeOf_of_rangeLiteral {node : Node} {step : Position} {form : RangeForm} {hint : Tag}
    {parts : RangeParts} {bounds : Bounds} {operand : Operand}
    (run : (rangeLiteral ctx node step form hint parts bounds).run before = .ok operand after)
    (accepted : ¬operand.isUnknown = true) :
    parts.isInvalid = false ∧ ∃ element, operand = rangeOf element form bounds ∧
      (parts.tag = none ∨ ∃ tag middle, parts.tag = some tag ∧
        (adaptRange ctx hint tag bounds).run before = .ok (some element) middle) := by
  simp only [rangeLiteral] at run
  split at run
  · cases run
    exact absurd rfl accepted
  · next valid =>
      refine ⟨Bool.eq_false_iff.mpr valid, ?_⟩
      split at run
      · next none =>
          cases run
          exact ⟨_, rfl, .inl none⟩
      · next tag some =>
          rcases run_bind_eq_ok.mp run with ⟨element, middle, adapted, rest⟩
          cases element with
          | none =>
              cases rest
              exact absurd rfl accepted
          | some element =>
              dsimp only at rest
              split at rest
              · cases rest
                exact absurd rfl accepted
              · rcases run_bind_eq_ok.mp rest with ⟨stepped, _, _, rest⟩
                split at rest
                · cases rest
                  exact ⟨element, rfl, .inr ⟨tag, middle, some, adapted⟩⟩
                · cases rest
                  exact absurd rfl accepted

/-- Where a concrete range gets its element from: it has no bounds, a bound is of that type, or
the bounds are comptime and fit. -/
theorem exists_of_rangeLiteral {node : Node} {step : Position} {form kept : RangeForm}
    {hint tag : Tag} {parts : RangeParts} {bounds : Bounds} {operand : Operand}
    (run : (rangeLiteral ctx node step form hint parts bounds).run before = .ok operand after)
    (range : operand.type = .range tag kept) :
    parts.isInvalid = false ∧ (parts.tag = none ∨
      parts.tag = some tag ∧ tag.isComptime = false ∨
      ∃ joined, parts.tag = some joined ∧ joined.isComptime = true ∧
        ∀ bound ∈ [bounds.start, bounds.stop, bounds.step], ∀ constant ∈ bound.value,
          constant.fits tag ctx.width = true) := by
  have accepted : ¬operand.isUnknown = true := by
    rw [Operand.isUnknown, range]
    exact Bool.false_ne_true
  rcases rangeOf_of_rangeLiteral run accepted with ⟨valid, element, rfl, untagged | adapted⟩
  · exact ⟨valid, .inl untagged⟩
  · rcases eq_of_rangeOf range with ⟨rfl, _, concrete⟩
    rcases adapted with ⟨joined, middle, some, adapted⟩
    refine ⟨valid, .inr ?_⟩
    rcases exists_of_adaptRange adapted with absent | same | ⟨comptime, same, fits⟩
    · cases absent
    · cases same
      exact .inl ⟨some, concrete⟩
    · cases same
      exact .inr ⟨joined, some, comptime, fits⟩

end RangeBounds

open RangeBounds in
/-- A range that takes its element from what is asked for, and not from a concrete bound, has
comptime bounds that fit it. -/
theorem range_bounds_fit {ctx : Context} {target : Option Ty} {node : Node}
    {start stop step : Expr} {inclusive : Bool} {before after : State} {operand : Operand}
    {tag : Tag} {form : RangeForm}
    (run : ((Expr.range node start stop step inclusive).resolve ctx target).run before
      = .ok operand after)
    (range : operand.type = .range tag form)
    (asked : ∀ moment ∈ (Expr.range node start stop step inclusive).calls ctx target before,
      ∀ bound, moment.Finds bound → bound.type ≠ .scalar tag) :
    ∀ moment ∈ (Expr.range node start stop step inclusive).calls ctx target before,
      ∀ bound, moment.Finds bound → bound.type.isComptime = true ∧
        ∀ constant ∈ bound.value, constant.fits tag ctx.width = true := by
  simp only [Expr.resolve] at run
  rcases exists_of_run_recorded run with ⟨ended, resolved, _, _⟩
  rcases run_bind_eq_ok.mp resolved with ⟨parts, begun, prepared, resolved⟩
  rcases run_bind_eq_ok.mp resolved with ⟨started, middle, startRead, resolved⟩
  rcases run_bind_eq_ok.mp resolved with ⟨stopped, late, stopRead, resolved⟩
  rcases run_bind_eq_ok.mp resolved with ⟨stepped, last, stepRead, literal⟩
  simp only [Expr.calls, leading, prepared, startRead, stopRead] at asked ⊢
  rcases exists_of_rangeLiteral literal range with ⟨valid, origin⟩
  have validStop := valid_of_withBound stepRead valid
  have validStart := valid_of_withBound stopRead validStop
  have nothing : Tagged parts [] := startParts_eq prepared ▸ tagged_nil _
  rcases tagged_withBound startRead validStart nothing with ⟨startTagged, startKept⟩
  rcases tagged_withBound stopRead validStop startTagged with ⟨stopTagged, stopKept⟩
  rcases tagged_withBound stepRead valid stopTagged with ⟨tagged, stepKept⟩
  rw [List.nil_append, List.append_assoc] at tagged
  rcases origin with untagged | ⟨same, concrete⟩ | ⟨joined, same, comptime, fits⟩
  · rw [tagged.untagged untagged]
    exact List.forall_mem_nil _
  · rcases tagged.concrete tag same concrete with ⟨moment, member, bound, finds, scalar⟩
    exact absurd scalar (asked moment member bound finds)
  · intro moment member bound finds
    have isOpen := tagged.comptime joined same comptime moment member bound finds
    refine ⟨isOpen, ?_⟩
    simp only [List.forall_mem_cons] at fits
    rcases fits with ⟨startFits, stopFits, stepFits, _⟩
    simp only [List.mem_append] at member
    rcases member with first | second | third
    · rw [← startKept moment first bound finds isOpen]
      exact startFits
    · rw [← stopKept moment second bound finds isOpen]
      exact stopFits
    · rw [← stepKept moment third bound finds isOpen]
      exact stepFits

namespace Sample

/-- The range `0..10`. -/
def counting : Expr :=
  .range (node 0) (.int (node 1) "0") (.int (node 2) "10") .missing false

def lowest : Stmt :=
  .declaration (node 0) false (some (name 1 "low")) (.named (node 2) "i32") (.int (node 3) "1")

/-- The range `low..3000000000`. -/
def spanning : Expr :=
  .range (node 5) (.ident (name 6 "low")) (.int (node 7) "3000000000") .missing false

def spanned : Program where
  file := ""
  statements := .ofList [lowest, .expression (node 4) spanning]

def spanningStart : State :=
  ((lowest.analyze (.start .strict .bits64)).run (.ofTable .empty)).state

end Sample

theorem range_bounds_fit_sample :
    ∃ operand after, (Sample.counting.resolve (.start .strict .bits64)
        (some (.range .i32 .bare))).run (.ofTable .empty) = .ok operand after ∧
      operand.type = .range .i32 ⟨true, true, false, false⟩ ∧
      ∃ moment ∈ Sample.counting.calls (.start .strict .bits64) (some (.range .i32 .bare))
          (.ofTable .empty), ∃ bound, moment.Finds bound ∧ bound.value = some (.int 10) ∧
        (Constant.int 10).fits .i32 .bits64 = true := by
  have asked : ∀ moment ∈ Sample.counting.calls (.start .strict .bits64)
      (some (.range .i32 .bare)) (.ofTable .empty), ∀ bound, moment.Finds bound →
      bound.type ≠ .scalar .i32 := by
    intro moment member bound finds
    rcases List.mem_cons.mp member with rfl | later
    · rw [finds.eq rfl]
      decide
    · obtain rfl := List.mem_singleton.mp later
      rw [finds.eq rfl]
      decide
  have fit := range_bounds_fit rfl rfl asked
  have last : ∃ moment ∈ Sample.counting.calls (.start .strict .bits64)
      (some (.range .i32 .bare)) (.ofTable .empty), ∃ bound, moment.Finds bound ∧
      bound.value = some (.int 10) :=
    ⟨_, List.mem_cons_of_mem _ List.mem_cons_self, _, ⟨_, _, _, _, rfl, rfl⟩, rfl⟩
  rcases last with ⟨moment, member, bound, finds, value⟩
  exact ⟨_, _, rfl, rfl, moment, member, bound, finds, value,
    (fit moment member bound finds).2 _ value⟩

/-- Beside a concrete bound a literal is not checked. -/
theorem bound_exceeds_element :
    Sample.spanned.Meets (.start .strict .bits64) .full
      ⟨.expr (.start .strict .bits64) none Sample.spanning, Sample.spanningStart⟩ ∧
    ∃ operand after, (Sample.spanning.resolve (.start .strict .bits64) none).run
        Sample.spanningStart = .ok operand after ∧
      after.reports = Sample.spanningStart.reports ∧
      operand.type = .range .i32 ⟨true, true, false, false⟩ ∧
      ∃ moment ∈ Sample.spanning.calls (.start .strict .bits64) none Sample.spanningStart,
        ∃ bound, moment.Finds bound ∧ bound.type.isComptime = true ∧
          bound.value = some (.int 3000000000) ∧
          (Constant.int 3000000000).fits .i32 .bits64 = false := by
  refine ⟨⟨_, List.mem_cons_self, ?_⟩, _, _, rfl, rfl, rfl, _,
    List.mem_cons_of_mem _ List.mem_cons_self, _, ⟨_, _, _, _, rfl, rfl⟩, rfl, rfl, rfl⟩
  refine .head (List.mem_cons_of_mem _ List.mem_cons_self) ?_
  refine .head List.mem_cons_self ?_
  exact .single List.mem_cons_self

end ComptimeTyping
