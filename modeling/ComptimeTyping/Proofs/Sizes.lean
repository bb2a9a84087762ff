import ComptimeTyping.Proofs.Bindings
import ComptimeTyping.Proofs.Checked

/-! No axis of a comptime array has the number that stands for a wildcard. Arrays get their
lengths from lists and from slices, and the number of rows of a slice may wrap around; a slice
whose length would then be that of a wildcard is not taken. -/

namespace ComptimeTyping

open Analysis

def Operand.Sized (operand : Operand) : Prop :=
  operand.type.Sized

/-- Whatever is reported. -/
def Discipline.sized : Discipline where
  tolerates _ := True
  earlier _ _ := trivial
  operand := Operand.Sized
  noted _ := True
  asked := Ty.Sized
  annotation := Discipline.plain.annotation
  symbol symbol := ∀ type ∈ symbol.type, type.Sized
  signature := Signature.Plain
  slot _ _ := True
  parts _ := True

namespace Sizes

open Discipline

variable {α : Type}

abbrev Yields (computation : Analysis α) (good : α → Prop) : Prop :=
  Discipline.sized.Yields computation good

/-- What is promised whatever is reported needs no discipline. -/
theorem Yields.of_plain {computation : Analysis α} {good : α → Prop}
    (yields : Bindings.Yields computation good) : Yields computation good :=
  ⟨fun run _ => yields.result run trivial⟩

/-! ## Types without more -/

theorem sized_of_notComptime {type : Ty} (notComptime : type.isComptime = false) :
    type.Sized := by
  cases type with
  | comptimeArray => cases notComptime
  | scalar | array | range | comptimeRange => trivial

theorem refused (position : Position) (finding : Finding) :
    Yields (refuse position finding) Operand.Sized :=
  .after fun _ => .pure trivial

theorem sized_row {type : Ty} (sized : type.Sized) : type.row.Sized := by
  cases type with
  | array element dims =>
      simp only [Ty.row]
      split <;> trivial
  | comptimeArray element dims =>
      rcases dims with ⟨outer, _ | ⟨next, inner⟩⟩
      · trivial
      · exact (List.forall_mem_cons.mp sized).2
  | scalar | range | comptimeRange => trivial

/-! ## Types that agree -/

section Agreement

variable {left right source target type : Ty} {explicit : Bool}

theorem sized_resolveRanges (joined : left.resolveRanges right explicit = .ok type) :
    type.Sized := by
  simp only [Ty.resolveRanges] at joined
  split at joined
  case h_5 => cases joined
  all_goals
    simp only [Except.map] at joined
    split at joined
    · cases joined
    · cases joined
      trivial

/-- Comptime arrays agree on the axes of the left one. -/
theorem sized_resolve (sized : left.Sized) (joined : left.resolve right explicit = .ok type) :
    type.Sized := by
  simp only [Ty.resolve] at joined
  split at joined
  · cases joined
    trivial
  · split at joined
    · simp only [Except.map] at joined
      split at joined <;> cases joined
      trivial
    · simp only [Ty.resolveComptimeArrays] at joined
      split at joined <;> cases joined
      exact sized
    · rcases Ty.exists_of_assignArray joined with ⟨axes, rfl⟩
      trivial
    · rcases Ty.exists_of_assignArray joined with ⟨axes, rfl⟩
      trivial
    · rcases Ty.exists_of_assignArray joined with ⟨axes, rfl⟩
      trivial
    · exact sized_resolveRanges joined

/-- A conversion gives the type that is written, an array or a range. -/
theorem sized_convert (sized : target.Sized) (converted : source.convert target = .ok type) :
    type.Sized := by
  have assigned : ∀ {target}, target.isComptime = false →
      source.assign target true = .ok type → type.Sized := by
    intro target notComptime filled
    exact sized_of_notComptime (Coherence.notComptime_assign notComptime filled)
  simp only [Ty.convert] at converted
  split at converted
  · cases converted
    exact sized
  · split at converted
    · repeat' split at converted
      all_goals cases converted
      all_goals exact sized
    · repeat' split at converted
      · cases converted
      · exact assigned rfl converted
      · cases converted
    · split at converted
      · exact assigned rfl converted
      · cases converted
    · cases converted

end Agreement

/-! ## Operators -/

theorem sized_prefixed (node : Node) (operator : String) {right : Operand}
    (sized : right.Sized) : Yields (prefixed node operator right) Operand.Sized := by
  simp only [prefixed]
  split
  · exact .pure trivial
  · split
    · simp only [negation]
      repeat' split
      all_goals first | exact refused _ _ | exact .pure sized
    · split
      · exact .pure trivial
      · exact refused _ _
    · exact .stop _

theorem sized_foldComptime (op : ArithOp) (left right : Resolved) (leftTag rightTag : Tag) :
    Yields (foldComptime op left right leftTag rightTag) Operand.Sized := by
  simp only [foldComptime]
  repeat' split
  all_goals first | exact .stop _ | exact refused _ _ | exact .pure trivial

theorem sized_combineNumbers (ctx : Context) (node : Node) (op : ArithOp)
    (left right : Resolved) (leftTag rightTag : Tag) (target : Option Ty) :
    Yields (combineNumbers ctx node op left right leftTag rightTag target)
      Operand.Sized := by
  unfold combineNumbers
  split
  · exact refused _ _
  · split
    · exact sized_foldComptime _ _ _ _ _
    · apply Yields.after
      intro result
      split
      · exact .pure trivial
      · apply Yields.guarded
        apply Yields.guarded
        split
        · exact refused _ _
        · exact .pure trivial

theorem sized_infixed (ctx : Context) (node : Node) (operator : String) (op : InfixOp)
    (left right : Resolved) (target : Option Ty) :
    Yields (infixed ctx node operator op left right target)
      Operand.Sized := by
  cases op with
  | arithmetic op =>
      simp only [infixed, arithmetic]
      split
      · exact .pure trivial
      · split
        · exact sized_combineNumbers _ _ _ _ _ _ _ _
        · exact refused _ _
        · exact refused _ _
  | comparison ordered =>
      simp only [infixed, comparison]
      repeat' split
      all_goals first | exact .after fun _ => .pure trivial | exact .pure trivial
  | logical => exact .after fun _ => .after fun _ => .pure trivial

theorem sized_converted (ctx : Context) (node : Node) (value : Resolved) {target : Ty}
    (sized : target.Sized) :
    Yields (converted ctx node value target) Operand.Sized :=
  .converted sized fun converted => .inl (sized_convert sized converted)

/-! ## Arrays -/

theorem sized_vector (ctx : Context) (node : Node) (tag : Tag) (elements : List Resolved)
    (target : Option Ty) :
    Yields (vector ctx node tag elements target) Operand.Sized := by
  have sized : ∀ tag, (Ty.comptimeArray tag ⟨elements.length, []⟩).Sized := by
    intro tag
    simp only [Ty.Sized, Axes.toList, List.forall_mem_singleton]
    omega
  simp only [vector]
  split
  · exact refused _ _
  · split
    · exact refused _ _
    · split
      · split
        · exact .after fun _ => .pure (sized _)
        · exact .pure (sized _)
      · exact .after fun _ => .pure trivial

/-- Rows that are comptime have the axes of a comptime array. -/
theorem sized_rows {first : Resolved} (others : List Resolved) {dims : Axes Dim}
    (found : first.type.dims? = some dims) (sized : first.type.Sized) :
    Yields (rows dims (first :: others) first.type.elementTag)
      Operand.Sized := by
  simp only [rows]
  split
  · exact refused _ _
  · split
    · next both =>
        simp only [List.all_cons, Bool.and_eq_true] at both
        apply Yields.pure
        cases type : first.type with
        | comptimeArray element axes =>
            rw [type] at found sized
            cases found
            simp only [Operand.Sized, Ty.Sized, Axes.toList_cons, List.forall_mem_cons]
            refine ⟨by omega, ?_⟩
            rw [← Coherence.dims_of_map rfl]
            exact sized
        | array =>
            rw [type] at both
            cases both.1.1
        | scalar | range | comptimeRange =>
            rw [type] at found
            cases found
    · exact .pure trivial

theorem sized_arrayLiteral (ctx : Context) (node : Node) {elements : List Resolved}
    (target : Option Ty) (sized : ∀ element ∈ elements, element.type.Sized) :
    Yields (arrayLiteral ctx node elements target) Operand.Sized := by
  cases elements with
  | nil =>
      simp only [arrayLiteral, emptyArray]
      split
      · split
        · exact .pure trivial
        · exact .after fun _ => .pure trivial
      · exact refused _ _
  | cons first others =>
      simp only [arrayLiteral]
      split
      · exact .pure trivial
      · split
        · exact sized_vector _ _ _ _ _
        · split
          · next found => exact sized_rows others found (sized first List.mem_cons_self)
          · exact refused _ _

/-! ## Ranges -/

theorem sized_rangeLiteral (ctx : Context) (node : Node) (step : Position) (form : RangeForm)
    (hint : Tag) (parts : RangeParts) (bounds : Bounds) :
    Yields (rangeLiteral ctx node step form hint parts bounds)
      Operand.Sized := by
  have ranged : ∀ tag, (rangeOf tag form bounds).type.Sized := by
    intro tag
    simp only [rangeOf]
    split <;> trivial
  simp only [rangeLiteral]
  split
  · exact .pure trivial
  · split
    · exact .pure (ranged _)
    · apply Yields.after
      intro element
      split
      · exact .pure trivial
      · split
        · exact refused _ _
        · apply Yields.after
          intro hasStep
          split
          · exact .pure (ranged _)
          · exact .pure trivial

/-! ## Indexing -/

theorem sized_element (ctx : Context) {array : Resolved} (index : Resolved) (outer : Dim)
    (sized : array.type.Sized) :
    Yields (element ctx array index outer) Operand.Sized := by
  have typed : Yields (pure (Operand.typed array.type.row)) Operand.Sized :=
    .pure (sized_row sized)
  have selected : ∀ start, Yields (pure (selectRows array.operand array.type.row start 1 1))
      Operand.Sized := by
    intro start
    apply Yields.pure
    rw [Operand.Sized, Clean.type_selectRows]
    exact sized_row sized
  simp only [element]
  split
  · exact typed
  · split
    · exact .after fun _ => typed
    · split
      · simp only [literalElement]
        apply Yields.after
        intro fits
        repeat' split
        all_goals first | exact typed | exact selected _ | exact .after fun _ => typed
      · repeat' split
        all_goals first | exact typed | exact .after fun _ => typed

theorem ofInt_eq_fixed {value length : Int} (fixed : Dim.ofInt value = .fixed length) :
    length ≠ -1 := by
  simp only [Dim.ofInt] at fixed
  split at fixed
  · cases fixed
  · next other =>
      cases fixed
      exact other

/-- A slice of known length does not have the length of a wildcard. -/
theorem length_of_sliceSpan {position : Position} {form : RangeForm} {bounds : Option Bounds}
    {outer : Dim} {span : SliceSpan} {length : Int}
    (outerSized : ∀ size, outer = .fixed size → size ≠ -1)
    (found : sliceSpan position form bounds outer = .ok span)
    (fixed : span.length = .fixed length) : length ≠ -1 := by
  cases bounds with
  | none =>
      simp only [sliceSpan] at found
      split at found
      · cases found
        cases fixed
      · cases found
        exact outerSized length fixed
  | some bounds =>
      simp only [sliceSpan] at found
      split at found
      · simp only [boundedSpan] at found
        repeat' split at found
        all_goals cases found
        exact ofInt_eq_fixed fixed
      · cases found
        cases fixed

theorem sized_sliced (node : Node) {array : Operand} {span : SliceSpan}
    (sized : array.type.Sized)
    (spans : ∀ length, array.type.isComptime = true → span.length = .fixed length →
      length ≠ -1) :
    Yields (sliced node array span) Operand.Sized := by
  simp only [sliced]
  cases type : array.type with
  | comptimeArray element dims =>
      rw [type] at sized
      cases fixed : span.length with
      | wildcard => exact refused _ _
      | fixed length =>
          apply Yields.pure
          rw [Operand.Sized, Clean.type_selectRows]
          have comptime : array.type.isComptime = true := by
            rw [type]
            rfl
          exact List.forall_mem_cons.mpr
            ⟨spans length comptime fixed, (List.forall_mem_cons.mp sized).2⟩
  | scalar | array | range | comptimeRange => exact .pure trivial

theorem sized_slice (ctx : Context) (node : Node) {array : Resolved} (index : Resolved)
    (form : RangeForm) {axes : Axes Dim} (sized : array.type.Sized)
    (found : array.type.dims? = some axes) :
    Yields (slice ctx node array index form axes.outer) Operand.Sized := by
  have outerSized : array.type.isComptime = true →
      ∀ size, axes.outer = .fixed size → size ≠ -1 := by
    intro comptime size fixed
    cases type : array.type with
    | comptimeArray =>
        rw [type] at found
        cases found
        exact ofInt_eq_fixed fixed
    | array =>
        rw [type] at comptime
        cases comptime
    | scalar | range | comptimeRange =>
        rw [type] at found
        cases found
  refine .slice trivial fun spans => sized_sliced node sized ?_
  intro length comptime fixed
  exact length_of_sliceSpan (outerSized comptime) spans fixed

theorem sized_indexing (ctx : Context) (node : Node) {array : Resolved} (index : Resolved)
    (sized : array.type.Sized) :
    Yields (indexing ctx node array index) Operand.Sized := by
  simp only [indexing]
  split
  · exact .pure trivial
  · split
    · exact refused _ _
    · next found =>
        split
        · exact sized_slice _ _ _ _ sized found
        · exact sized_element _ _ _ sized

theorem sized_property (left : Operand) (name : Ident) :
    Yields (property left name) Operand.Sized := by
  simp only [property]
  repeat' split
  all_goals first | exact .pure trivial | exact refused _ _

/-! ## Branches -/

theorem sized_joinBranch {policy : BranchPolicy} {joined result : Operand} {branch : Resolved}
    (sized : joined.Sized) (ended : joinBranch policy joined branch = .ok result) :
    result.Sized := by
  rcases joinBranch_cases ended with ⟨type, rfl, rfl | resolved⟩
  · trivial
  · exact sized_resolve sized resolved

theorem sized_joinBranches (ctx : Context) {branches : List Resolved}
    (sized : ∀ branch ∈ branches, branch.type.Sized) :
    Yields (joinBranches ctx branches) Operand.Sized := by
  refine .joinBranches trivial ?_ fun ended => ?_
  · rintro branch rfl
    exact sized branch List.mem_cons_self
  · exact forall_joinFrom_none (fun _ _ _ _ => sized_joinBranch) sized ended _ rfl

/-! ## Bindings -/

theorem type_boundSymbol (isMutable : Bool) (name : String) (type : Ty) (value : Operand) :
    (boundSymbol isMutable name type value).type = some type := by
  simp only [boundSymbol]
  split <;> rfl

theorem sized_boundSymbol (isMutable : Bool) (name : String) {type : Ty} (value : Operand)
    (sized : type.Sized) :
    Discipline.sized.symbol (boundSymbol isMutable name type value) := by
  intro known typed
  rw [type_boundSymbol] at typed
  cases typed
  exact sized

/-- A binding without more than the type that is written for it. -/
theorem sized_annotated {symbol : Symbol} {type : Ty} (typed : symbol.type = some type)
    (annotated : Discipline.plain.annotation type) : Discipline.sized.symbol symbol := by
  intro known sameTyped
  rw [typed] at sameTyped
  cases sameTyped
  exact sized_of_notComptime annotated.1

theorem sized_ofSymbol (position : Position) {symbol : Symbol}
    (sized : Discipline.sized.symbol symbol) :
    (Operand.ofSymbol position symbol).type.Sized := by
  have typed : (Operand.ofSymbol position symbol).type = symbol.type.getD .unknown := by
    simp only [Operand.ofSymbol]
    split <;> rfl
  rw [typed]
  cases found : symbol.type with
  | none => trivial
  | some type => exact sized type found

end Sizes

open Sizes in
theorem Discipline.lawful_sized : Discipline.sized.Lawful where
  notedOperand _ := trivial
  notedSymbol _ := trivial
  notedAsked _ := trivial
  unknown _ := trivial
  integer node text := by
    simp only [integerLiteral]
    split
    · exact .pure trivial
    · exact .stop _
  float node text := by
    simp only [floatLiteral]
    split
    · exact .pure trivial
    · exact .stop _
  bool := trivial
  string := trivial
  void := trivial
  name position := sized_ofSymbol position
  prefixed node operator := sized_prefixed node operator
  infixed ctx node operator op _ _ _ := sized_infixed ctx node operator op _ _ _
  converted ctx node _ _ _ sized :=
    (sized_converted ctx node _ sized).mono fun _ result _ => result
  array ctx node _ sized _ := sized_arrayLiteral ctx node _ sized
  rangeStart _ _ := ⟨fun _ _ => trivial⟩
  rangeBound _ _ _ := ⟨fun _ _ => trivial⟩
  range ctx node step _ _ _ _ := sized_rangeLiteral ctx node step _ _ _ _
  indexing ctx node sized _ := sized_indexing ctx node _ sized
  property name _ := sized_property _ name
  joined ctx _ _ _ _ sized := (sized_joinBranches ctx sized).mono fun _ joined _ => joined
  answered sized := sized
  askedBool := trivial
  askedIndex isRange := by
    cases isRange with
    | false => trivial
    | true => trivial
  askedElement _ := by
    simp only [elementTarget]
    split
    · exact askedIfAny_some (sized_row trivial)
    · exact askedIfAny_none
  askedBound _ := by
    simp only [boundHint]
    split
    · exact askedIfAny_none
    · exact askedIfAny_some trivial
  askedConversion _ :=
    (Yields.of_plain (Bindings.notComptime_resolve _)).mono fun _ => sized_of_notComptime
  annotatedDeclaration name _ := Yields.of_plain (Bindings.annotation_declaredType name _)
  askedAnnotation annotated := sized_of_notComptime annotated.1
  signature node name body _ _ :=
    Yields.of_plain (Bindings.plain_readSignature node name _ _ body)
  parameter := by
    intro signature parameter plain member
    rcases plain.parameters parameter member with ⟨type, typed, annotated⟩
    exact sized_annotated typed annotated
  askedArgument := by
    intro signature parameter plain member type typed
    rcases plain.parameters parameter member with ⟨known, typedAs, notComptime, _⟩
    rw [typedAs] at typed
    cases typed
    exact sized_of_notComptime notComptime
  askedResult := by
    intro signature plain
    rcases plain.result with ⟨type, found, notComptime⟩
    rw [Signature.resultType, found]
    exact sized_of_notComptime notComptime
  filled _ _ _ _ := ⟨fun _ _ _ => trivial⟩
  annotated ctx isMutable name label _ annotated := by
    apply (Yields.of_plain (Bindings.annotation_fill ctx _ label annotated)).mono
    intro type given
    exact sized_boundSymbol isMutable name _ (sized_of_notComptime given.1)
  inferred ctx isMutable name sized := by
    apply (Yields.of_plain (Bindings.inferred_cases ctx isMutable name _)).mono
    rintro type (rfl | ⟨rfl, _, _⟩)
    · exact sized_boundSymbol isMutable name.name _ trivial
    · exact sized_boundSymbol isMutable name.name _ sized
  untyped _ _ _ := sized_annotated rfl ⟨rfl, rfl⟩
  uninitialized _ annotated := sized_annotated rfl annotated
  immutable _ _ annotated := sized_annotated rfl annotated
  askedAssignment sized _ := sized
  initialized sized := sized

end ComptimeTyping
