import ComptimeTyping.Proofs.TagOrder

/-! The type of an array literal that nothing asks a type of. It depends on the types of the
elements as a set and on their number, so the order of the elements does not matter: in every
order they make the same type, or none. -/

namespace ComptimeTyping

open Analysis

namespace ElementOrder

/-! ## The folds over the elements -/

/-- Further scalars are joined to a tag exactly if they are scalars and there is a least tag that
all of them may stand for. -/
theorem joinScalars_eq_ok_iff {joined tag : Tag} {index : Nat} {elements : List Resolved} :
    joinScalars joined index elements = .ok tag ↔
      (∀ element ∈ elements, element.type.isScalar = true) ∧
        IsLUB (insert joined (elementTags elements)) tag := by
  induction elements generalizing joined index with
  | nil => simp [joinScalars, Tag.isLUB_singleton_iff]
  | cons element elements induction =>
      rw [List.forall_mem_cons, elementTags_cons]
      cases typed : element.type with
      | scalar other =>
          cases agreed : joined.resolve other false with
          | ok next =>
              simp only [joinScalars, typed, Ty.scalarTag?, agreed, induction,
                Tag.isLUB_insert_of_resolve agreed]
              simp [Ty.isScalar, Ty.scalarTag?, Ty.elementTag]
          | error failure =>
              simp only [joinScalars, typed, Ty.scalarTag?, agreed, Ty.elementTag,
                Tag.not_isLUB_of_resolve agreed, and_false, reduceCtorEq]
      | array | comptimeArray | range | comptimeRange =>
          simp [joinScalars, typed, Ty.isScalar, Ty.scalarTag?]

/-- Further rows are joined to a tag exactly if they have the axes of the first one and there is
a least tag that the elements of all of them may stand for. -/
theorem joinRowTags_eq_ok_iff {dims : Axes Dim} {joined tag : Tag} {index : Nat}
    {rows : List Resolved} :
    joinRowTags dims.toList joined index rows = .ok tag ↔
      (∀ row ∈ rows, row.type.dims? = some dims) ∧
        IsLUB (insert joined (elementTags rows)) tag := by
  induction rows generalizing joined index with
  | nil => simp [joinRowTags, Tag.isLUB_singleton_iff]
  | cons row rows induction =>
      rw [List.forall_mem_cons, elementTags_cons]
      cases shaped : row.type.dims? with
      | none => simp [joinRowTags, shaped]
      | some others =>
          by_cases same : dims = others
          · subst same
            cases agreed : joined.resolve row.type.elementTag false with
            | ok next =>
                simp [joinRowTags, shaped, agreed, induction, Tag.isLUB_insert_of_resolve agreed]
            | error failure =>
                simp [joinRowTags, shaped, agreed, Tag.not_isLUB_of_resolve agreed]
          · have differs : dims.toList ≠ others.toList := fun equal => same (Axes.eq_of_toList equal)
            simp [joinRowTags, shaped, differs, Ne.symm same]

/-! ## The type that elements make -/

/-- The type of a vector of so many scalars of a common tag. -/
def vectorType (tag : Tag) (length : Int) : Ty :=
  if tag.isComptime then .comptimeArray tag ⟨length, []⟩ else .array tag ⟨.fixed length, []⟩

/-- The type of so many rows with common axes and a common element, which stays comptime if
every row is. -/
def rowsType (tag : Tag) (dims : Axes Dim) (length : Int) (comptime : Bool) : Ty :=
  if comptime && tag.isComptime then .comptimeArray tag ((dims.map Dim.toInt).cons length)
  else .array tag (dims.cons (.fixed length))

/-- Elements make a type of their own: scalars a vector, and arrays with common axes an array of
one axis more. Either way there is a least tag that all of them may stand for. -/
inductive Makes (elements : List Resolved) : Ty → Prop
  | vector {tag : Tag} (known : ∀ element ∈ elements, ¬element.isUnknown = true)
      (scalars : ∀ element ∈ elements, element.type.isScalar = true)
      (least : IsLUB (elementTags elements) tag) (notVoid : tag ≠ .void) :
      Makes elements (vectorType tag elements.length)
  | rows {tag : Tag} {dims : Axes Dim}
      (shaped : ∀ element ∈ elements, element.type.dims? = some dims)
      (least : IsLUB (elementTags elements) tag) :
      Makes elements
        (rowsType tag dims elements.length (elements.all fun element => element.type.isComptime))

namespace Makes

variable {elements others : List Resolved} {type other : Ty}

theorem perm (made : Makes elements type) (same : elements.Perm others) : Makes others type := by
  have sameTags := elementTags_perm same
  cases made with
  | vector known scalars least notVoid =>
      rw [same.length_eq]
      apply vector
      · intro element member
        exact known element (same.mem_iff.mpr member)
      · intro element member
        exact scalars element (same.mem_iff.mpr member)
      · rwa [← sameTags]
      · exact notVoid
  | rows shaped least =>
      rw [same.length_eq, same.all_eq]
      apply rows
      · intro element member
        exact shaped element (same.mem_iff.mpr member)
      · rwa [← sameTags]

variable {first : Resolved} {rest : List Resolved}

/-- Behind a first scalar there are only scalars. -/
theorem of_scalar (made : Makes (first :: rest) type) (scalar : first.type.isScalar = true) :
    (∀ element ∈ rest, element.type.isScalar = true) ∧
      ∃ tag, IsLUB (elementTags (first :: rest)) tag ∧ tag ≠ .void ∧
        type = vectorType tag (first :: rest).length := by
  cases made with
  | vector _ scalars least notVoid =>
      exact ⟨(List.forall_mem_cons.mp scalars).2, _, least, notVoid, rfl⟩
  | rows shaped _ =>
      obtain ⟨tag, typed⟩ := Ty.exists_of_isScalar scalar
      have found := shaped first List.mem_cons_self
      rw [typed] at found
      cases found

/-- Behind a first array there are only arrays with its axes. -/
theorem of_dims {dims : Axes Dim} (made : Makes (first :: rest) type)
    (shape : first.type.dims? = some dims) :
    (∀ element ∈ rest, element.type.dims? = some dims) ∧
      ∃ tag, IsLUB (elementTags (first :: rest)) tag ∧
        type = rowsType tag dims (first :: rest).length
          ((first :: rest).all fun element => element.type.isComptime) := by
  cases made with
  | vector _ scalars _ _ =>
      obtain ⟨tag, typed⟩ := Ty.exists_of_isScalar (scalars first List.mem_cons_self)
      rw [typed] at shape
      cases shape
  | rows shaped least =>
      have shapes := List.forall_mem_cons.mp shaped
      obtain rfl := Option.some.inj (shapes.1.symm.trans shape)
      exact ⟨shapes.2, _, least, rfl⟩

theorem unique (made : Makes (first :: rest) type) (remade : Makes (first :: rest) other) :
    type = other := by
  cases shape : first.type.dims? with
  | none =>
      cases made with
      | vector _ scalars least _ =>
          obtain ⟨_, tag, leastAgain, _, rfl⟩ := remade.of_scalar (scalars _ List.mem_cons_self)
          rw [least.unique leastAgain]
      | rows shaped _ =>
          rw [shaped _ List.mem_cons_self] at shape
          cases shape
  | some dims =>
      obtain ⟨_, tag, least, rfl⟩ := made.of_dims shape
      obtain ⟨_, tag, leastAgain, rfl⟩ := remade.of_dims shape
      rw [least.unique leastAgain]

end Makes

/-- The type of a literal is the one that its elements make. It is unknown where they make
none. -/
def Gives (elements : List Resolved) (type : Ty) : Prop :=
  Makes elements type ∨ type = .unknown ∧ ∀ other, ¬Makes elements other

namespace Gives

variable {elements others : List Resolved} {type other : Ty}

theorem perm (gives : Gives elements type) (same : elements.Perm others) : Gives others type := by
  rcases gives with made | ⟨unknown, unmade⟩
  · exact .inl (made.perm same)
  · exact .inr ⟨unknown, fun other made => unmade other (made.perm same.symm)⟩

theorem unique {first : Resolved} {rest : List Resolved} (gives : Gives (first :: rest) type)
    (again : Gives (first :: rest) other) : type = other := by
  rcases gives with made | ⟨rfl, unmade⟩
  · rcases again with remade | ⟨_, unmade⟩
    · exact made.unique remade
    · exact absurd made (unmade type)
  · rcases again with remade | ⟨rfl, _⟩
    · exact absurd remade (unmade other)
    · rfl

end Gives

/-! ## The rules -/

variable {ctx : Context} {node : Node} {elements rest : List Resolved} {first : Resolved}
  {operand : Operand} {before after : State}

theorem gives_vector {tag : Tag}
    (known : ∀ element ∈ first :: rest, ¬element.isUnknown = true)
    (typed : first.type = .scalar tag)
    (run : (vector ctx node tag (first :: rest) none).run before = .ok operand after) :
    Gives (first :: rest) operand.type := by
  have scalar : first.type.isScalar = true := by rw [typed]; rfl
  have tags : elementTags (first :: rest) = insert tag (elementTags rest) := by
    rw [elementTags_cons, typed]
    rfl
  simp only [vector, List.tail_cons] at run
  split at run
  · next failed =>
      cases run
      refine .inr ⟨rfl, fun other made => ?_⟩
      obtain ⟨scalars, least, isLeast, _⟩ := made.of_scalar scalar
      rw [tags] at isLeast
      rw [joinScalars_eq_ok_iff.mpr ⟨scalars, isLeast⟩] at failed
      cases failed
  · next joined agreed =>
      obtain ⟨scalars, least⟩ := joinScalars_eq_ok_iff.mp agreed
      rw [← tags] at least
      split at run
      · next isVoid =>
          cases run
          refine .inr ⟨rfl, fun other made => ?_⟩
          obtain ⟨_, again, leastAgain, notVoid, _⟩ := made.of_scalar scalar
          exact notVoid (leastAgain.unique least ▸ isVoid)
      · next notVoid =>
          have made := Makes.vector known (List.forall_mem_cons.mpr ⟨scalar, scalars⟩) least notVoid
          split at run
          · next comptime =>
              simp only [Option.bind_none, Option.filter_none] at run
              cases run
              rw [vectorType, if_pos comptime] at made
              exact .inl made
          · next concrete =>
              obtain ⟨_, _, _, ⟨⟩⟩ := run_bind_eq_ok.mp run
              rw [vectorType, if_neg concrete] at made
              exact .inl made

theorem gives_rows {dims : Axes Dim} (shape : first.type.dims? = some dims)
    (run : (rows dims (first :: rest) first.type.elementTag).run before = .ok operand after) :
    Gives (first :: rest) operand.type := by
  simp only [rows, List.tail_cons] at run
  split at run
  · next failed =>
      cases run
      refine .inr ⟨rfl, fun other made => ?_⟩
      obtain ⟨shapes, least, isLeast, _⟩ := made.of_dims shape
      rw [elementTags_cons] at isLeast
      rw [joinRowTags_eq_ok_iff.mpr ⟨shapes, isLeast⟩] at failed
      cases failed
  · next joined agreed =>
      obtain ⟨shapes, least⟩ := joinRowTags_eq_ok_iff.mp agreed
      rw [← elementTags_cons] at least
      have made := Makes.rows (List.forall_mem_cons.mpr ⟨shape, shapes⟩) least
      rw [rowsType] at made
      split at run
      · next comptime =>
          cases run
          rw [if_pos comptime] at made
          exact .inl made
      · next concrete =>
          cases run
          rw [if_neg concrete] at made
          exact .inl made

/-- A literal whose elements may be of any kind has the type that they make. -/
theorem gives_arrayLiteral
    (run : (arrayLiteral ctx node (first :: rest) none).run before = .ok operand after) :
    Gives (first :: rest) operand.type := by
  simp only [arrayLiteral] at run
  split at run
  · next unknown =>
      obtain ⟨element, member, isUnknown⟩ := List.any_eq_true.mp unknown
      cases run
      refine .inr ⟨rfl, fun other made => ?_⟩
      cases made with
      | vector known _ _ _ => exact known element member isUnknown
      | rows shaped _ =>
          have found := shaped element member
          rw [show element.type = .unknown from beq_iff_eq.mp isUnknown] at found
          cases found
  · next known =>
      have allKnown : ∀ element ∈ first :: rest, ¬element.isUnknown = true := by
        simpa using known
      split at run
      · next tag typed => exact gives_vector allKnown typed run
      · next notScalar =>
          split at run
          · next dims shape => exact gives_rows shape run
          · next shapeless =>
              cases run
              refine .inr ⟨rfl, fun other made => ?_⟩
              cases made with
              | vector _ scalars _ _ =>
                  obtain ⟨tag, typed⟩ := Ty.exists_of_isScalar (scalars _ List.mem_cons_self)
                  exact notScalar tag typed
              | rows shaped _ =>
                  rw [shaped _ List.mem_cons_self] at shapeless
                  cases shapeless

end ElementOrder

open ElementOrder in
/-- The order of its elements does not decide the type of an array literal: in any order they make
the same type, or are rejected and leave an unknown one. -/
theorem array_type_of_perm {elements others : List Resolved} (same : elements.Perm others)
    (ctx : Context) (node : Node) (before : State) :
    ∃ operand after other afterwards,
      (arrayLiteral ctx node elements none).run before = .ok operand after ∧
      (arrayLiteral ctx node others none).run before = .ok other afterwards ∧
      operand.type = other.type := by
  obtain ⟨operand, after, run⟩ := (reporting_arrayLiteral ctx node elements none).exists_run before
  obtain ⟨other, afterwards, rerun⟩ :=
    (reporting_arrayLiteral ctx node others none).exists_run before
  refine ⟨operand, after, other, afterwards, run, rerun, ?_⟩
  match others with
  | [] =>
      rw [same.eq_nil, rerun] at run
      cases run
      rfl
  | first :: rest =>
      match elements with
      | [] => cases same.symm.eq_nil
      | _ :: _ => exact ((gives_arrayLiteral run).perm same).unique (gives_arrayLiteral rerun)

namespace Sample

/-- An integer literal, a variable of a concrete type and a float literal. -/
def floatElements : List Resolved :=
  [⟨node 0, .typed .comptimeInt⟩, ⟨node 1, .typed (.scalar .f64)⟩, ⟨node 2, .typed .comptimeFloat⟩]

end Sample

theorem array_type_of_perm_sample :
    Sample.floatElements.Perm Sample.floatElements.reverse ∧
    ∃ after other afterwards,
      (arrayLiteral (.start .strict .bits64) (Sample.node 3) Sample.floatElements none).run
        (.ofTable .empty) = .ok (.typed (.array .f64 ⟨.fixed 3, []⟩)) after ∧
      (arrayLiteral (.start .strict .bits64) (Sample.node 3) Sample.floatElements.reverse none).run
        (.ofTable .empty) = .ok other afterwards ∧
      Ty.array .f64 ⟨.fixed 3, []⟩ = other.type := by
  have same : Sample.floatElements.Perm Sample.floatElements.reverse :=
    (List.reverse_perm _).symm
  obtain ⟨operand, after, other, afterwards, run, rerun, sameType⟩ :=
    array_type_of_perm same (.start .strict .bits64) (Sample.node 3) (.ofTable .empty)
  cases run
  exact ⟨same, _, other, afterwards, rfl, rerun, sameType⟩

end ComptimeTyping
