import ComptimeTyping.Proofs.Coherence

/-! The rules of the analysis with every partial operation checked. A list is looked up by
number, a quotient has to have a divisor, a segment has to lie inside of its list, and
positions are counted in words that wrap around. Each rule agrees with its unchecked form
wherever it is applied to what an analysis comes to, so nothing is ever looked up where
nothing is. -/

namespace ComptimeTyping

open Analysis

namespace Checked

/-! ## Operations -/

def quotient (dividend divisor : Int) : Option Int :=
  if divisor = 0 then none else some (dividend.tdiv divisor)

def remainder (dividend divisor : Int) : Option Int :=
  if divisor = 0 then none else some (dividend.tmod divisor)

/-- The elements from one position up to another one. -/
def segment {α : Type} (elements : List α) (low high : Int) : Option (List α) :=
  if 0 ≤ low ∧ low ≤ high ∧ high ≤ elements.length then
    some ((elements.drop low.toNat).take (high - low).toNat)
  else
    none

/-! ## Shapes -/

/-- The axes from `axis` on at which `source` does not fit the targets. -/
def mismatchesFrom (source : List Dim) (axis : Nat) : List Dim → Option (List AxisMismatch)
  | [] => some []
  | .wildcard :: targets => mismatchesFrom source (axis + 1) targets
  | .fixed size :: targets => do
      let found ← source[axis]?
      let later ← mismatchesFrom source (axis + 1) targets
      return if found = .fixed size then later else ⟨axis, found, size⟩ :: later

def checkConcrete (source target : List Dim) : Option (Option ShapeMismatch) := do
  if source.length = target.length then
    match ← mismatchesFrom source 0 target with
    | [] => return none
    | mismatches => return some (.axes source target mismatches)
  else
    return some (.rank source target)

def fillFrom (source : List Dim) (axis : Nat) : List Dim → Option (List Dim)
  | [] => some []
  | target :: targets => do
      let filled ← if target = .wildcard then source[axis]? else some target
      return filled :: (← fillFrom source (axis + 1) targets)

def fillWildcards (source target : Axes Dim) : Option (Axes Dim) := do
  Axes.ofList? (← fillFrom source.toList 0 target.toList)

/-- Nothing is left to compare where the targets end, and the sources end there too. -/
theorem mismatchesFrom_append (earlier sources targets : List Dim)
    (length : sources.length = targets.length) :
    mismatchesFrom (earlier ++ sources) earlier.length targets =
      some (Shape.mismatchesFrom earlier.length sources targets) := by
  induction targets generalizing earlier sources with
  | nil =>
      rcases List.length_eq_zero_iff.mp length with rfl
      rfl
  | cons target targets induction =>
      cases sources with
      | nil => cases length
      | cons source sources =>
          have later := induction (earlier ++ [source]) sources (Nat.succ.inj length)
          rw [List.append_assoc, List.singleton_append, List.length_append,
            List.length_singleton] at later
          cases target with
          | wildcard =>
              simp only [mismatchesFrom, Shape.mismatchesFrom]
              exact later
          | fixed size =>
              simp only [mismatchesFrom, Shape.mismatchesFrom, later]
              rw [List.getElem?_append_right (Nat.le_refl _), Nat.sub_self]
              simp only [List.getElem?_cons_zero]
              split
              · next same => simp [same]
              · next other => simp [other]

theorem checkConcrete_eq (source target : List Dim) :
    checkConcrete source target = some (Shape.checkConcrete source target) := by
  simp only [checkConcrete, Shape.checkConcrete]
  split
  · next length =>
      have found := mismatchesFrom_append [] source target length
      rw [List.nil_append, List.length_nil] at found
      rw [found]
      cases Shape.mismatchesFrom 0 source target with
      | nil => rfl
      | cons mismatch mismatches => rfl
  · rfl

theorem fillFrom_append (earlier sources targets : List Dim)
    (length : sources.length = targets.length) :
    fillFrom (earlier ++ sources) earlier.length targets =
      some (sources.zipWith (fun source target => if target = .wildcard then source else target)
        targets) := by
  induction targets generalizing earlier sources with
  | nil =>
      rcases List.length_eq_zero_iff.mp length with rfl
      rfl
  | cons target targets induction =>
      cases sources with
      | nil => cases length
      | cons source sources =>
          have later := induction (earlier ++ [source]) sources (Nat.succ.inj length)
          rw [List.append_assoc, List.singleton_append, List.length_append,
            List.length_singleton] at later
          simp only [fillFrom, later]
          rw [List.getElem?_append_right (Nat.le_refl _), Nat.sub_self]
          simp only [List.getElem?_cons_zero, List.zipWith_cons_cons]
          split
          · rfl
          · rfl

theorem fillWildcards_eq {source target : Axes Dim}
    (fits : Shape.checkConcrete source.toList target.toList = none) :
    fillWildcards source target = some (Ty.fillWildcards source target) := by
  have length : source.toList.length = target.toList.length := by
    simp only [Shape.checkConcrete] at fits
    split at fits
    · assumption
    · cases fits
  have filled := fillFrom_append [] source.toList target.toList length
  rw [List.nil_append, List.length_nil] at filled
  simp only [fillWildcards, filled]
  rfl

/-! ## Coercions

Only arrays are compared axis by axis; all other types need no partial operation. -/

def assignArray (source : Ty) (element : Tag) (dims : Axes Dim) (explicit : Bool) :
    Option (Except CoercionFailure Ty) :=
  match source with
  | .comptimeArray sourceElement sourceDims => do
      match ← checkConcrete (sourceDims.toList.map Dim.ofInt) dims.toList with
      | some mismatch => return .error (.shape mismatch)
      | none =>
          if sourceElement.canAdapt element || (explicit && element.isNumeric) then
            return .ok (.array element (sourceDims.map Dim.ofInt))
          else
            return .error (.elementsCannotAdapt sourceElement element (.array element dims))
  | .array sourceElement sourceDims => do
      match ← checkConcrete sourceDims.toList dims.toList with
      | some mismatch => return .error (.shape mismatch)
      | none =>
          let convertible := sourceElement.isNumeric && element.isNumeric
          if sourceElement = element ∨ (explicit ∧ convertible) then
            return .ok (.array element (← fillWildcards sourceDims dims))
          else
            return .error (.slot source (.array element dims) convertible)
  | _ => some (source.assignArray element dims explicit)

/-- Axes that differ have to give a mismatch to complain about. -/
def resolveComptimeArrays (left : Tag) (leftDims : Axes Int) (right : Tag)
    (rightDims : Axes Int) : Option (Except CoercionFailure Ty) :=
  if leftDims = rightDims then some (.ok (.comptimeArray (left.promote right) leftDims))
  else do
    let mismatch ← checkConcrete (leftDims.toList.map Dim.ofInt)
      (rightDims.toList.map Dim.ofInt)
    return .error (.shape (← mismatch))

def resolve (left right : Ty) (explicit : Bool) : Option (Except CoercionFailure Ty) :=
  match left, right with
  | .comptimeArray leftElement leftDims, .comptimeArray rightElement rightDims =>
      resolveComptimeArrays leftElement leftDims rightElement rightDims
  | .comptimeArray _ _, .array element dims => assignArray left element dims explicit
  | .array element dims, .comptimeArray _ _ => assignArray right element dims explicit
  | .array _ _, .array element dims => assignArray left element dims explicit
  | _, _ => some (left.resolve right explicit)

def assign (source target : Ty) (explicit : Bool) : Option (Except CoercionFailure Ty) :=
  if source.isUnknown || target.isUnknown then some (.ok target)
  else
    match target with
    | .array element dims => assignArray source element dims explicit
    | .comptimeArray _ _ =>
        match source with
        | .comptimeArray _ _ => resolve source target explicit
        | _ => some (source.assign target explicit)
    | _ => some (source.assign target explicit)

def convert (source target : Ty) : Option (Except CoercionFailure Ty) :=
  match target with
  | .array element _ =>
      if source.isArray ∧ ¬(¬element.isNumeric ∧ source.elementTag ≠ element) then
        assign source target true
      else
        some (source.convert target)
  | _ => some (source.convert target)

theorem assignArray_eq (source : Ty) (element : Tag) (dims : Axes Dim) (explicit : Bool) :
    assignArray source element dims explicit =
      some (source.assignArray element dims explicit) := by
  cases source with
  | comptimeArray sourceElement sourceDims =>
      simp only [assignArray, Ty.assignArray, Shape.check_eq, checkConcrete_eq]
      cases Shape.checkConcrete (sourceDims.toList.map Dim.ofInt) dims.toList with
      | some mismatch => rfl
      | none =>
          simp only [Option.bind_eq_bind, Option.bind_some]
          split <;> rfl
  | array sourceElement sourceDims =>
      simp only [assignArray, Ty.assignArray, checkConcrete_eq]
      cases fits : Shape.checkConcrete sourceDims.toList dims.toList with
      | some mismatch => rfl
      | none =>
          simp only [Option.bind_eq_bind, Option.bind_some, fillWildcards_eq fits]
          split <;> rfl
  | scalar | range | comptimeRange => rfl

end Checked

/-- The number that stands for a wildcard is not the length of a known axis. -/
def Ty.Sized : Ty → Prop
  | .comptimeArray _ dims => ∀ size ∈ dims.toList, size ≠ -1
  | _ => True

/-- As many elements are known as a list in memory has: their number is a word. -/
def Operand.Countable (array : Operand) : Prop :=
  ∀ elements ∈ array.elements, (elements.length : Int) ≤ Word.greatest

namespace Checked

/-- Axes without wildcards admit only axes that are the same. -/
theorem eq_of_admits {sources targets : List Int} (sized : ∀ size ∈ targets, size ≠ -1)
    (admits : Shape.Admits (targets.map Dim.ofInt) (sources.map Dim.ofInt)) :
    sources = targets := by
  rw [Shape.Admits, List.forall₂_map_left_iff, List.forall₂_map_right_iff] at admits
  induction admits with
  | nil => rfl
  | cons head _ induction =>
      rw [List.forall_mem_cons] at sized
      rw [induction sized.2]
      rcases head with isOpen | same
      · rw [Dim.ofInt, if_neg sized.1] at isOpen
        cases isOpen
      · have equal := congrArg Dim.toInt same
        rw [Dim.toInt_ofInt, Dim.toInt_ofInt] at equal
        rw [equal]

theorem eq_of_checkConcrete {source target : Axes Int}
    (sized : ∀ size ∈ target.toList, size ≠ -1)
    (fits : Shape.checkConcrete (source.toList.map Dim.ofInt) (target.toList.map Dim.ofInt)
      = none) : source = target :=
  Axes.eq_of_toList (eq_of_admits sized (Shape.checkConcrete_eq_none.mp fits))

theorem resolveComptimeArrays_eq (left : Tag) (leftDims : Axes Int) (right : Tag)
    {rightDims : Axes Int} (sized : ∀ size ∈ rightDims.toList, size ≠ -1) :
    resolveComptimeArrays left leftDims right rightDims =
      some (Ty.resolveComptimeArrays left leftDims right rightDims) := by
  simp only [resolveComptimeArrays, Ty.resolveComptimeArrays, Shape.check_eq, checkConcrete_eq]
  split
  · next same =>
      subst same
      rw [Shape.checkConcrete_self]
  · next other =>
      cases fits : Shape.checkConcrete (leftDims.toList.map Dim.ofInt)
          (rightDims.toList.map Dim.ofInt) with
      | none => exact absurd (eq_of_checkConcrete sized fits) other
      | some mismatch => rfl

theorem resolve_eq (left : Ty) {right : Ty} (explicit : Bool) (sized : right.Sized) :
    resolve left right explicit = some (left.resolve right explicit) := by
  unfold resolve
  split
  · exact resolveComptimeArrays_eq _ _ _ sized
  · exact assignArray_eq _ _ _ _
  · exact assignArray_eq _ _ _ _
  · exact assignArray_eq _ _ _ _
  · rfl

theorem assign_eq (source : Ty) {target : Ty} (explicit : Bool) (sized : target.Sized) :
    assign source target explicit = some (source.assign target explicit) := by
  simp only [assign]
  split
  · next unknown => simp only [Ty.assign, if_pos unknown]
  · next known =>
    split
    · simp only [Ty.assign, if_neg known]
      exact assignArray_eq _ _ _ _
    · split
      · simp only [Ty.assign, if_neg known]
        exact resolve_eq _ _ sized
      · rfl
    · rfl

/-- What is written is no comptime type, so a conversion needs no size. -/
theorem convert_eq (source target : Ty) :
    convert source target = some (source.convert target) := by
  unfold convert
  split
  · next element dims =>
    have sized : (Ty.array element dims).Sized := trivial
    split
    · next convertible =>
        have known : ¬(source.isUnknown || (Ty.array element dims).isUnknown) = true := by
          cases source with
          | array | comptimeArray => exact Bool.false_ne_true
          | scalar | range | comptimeRange => cases convertible.1
        simp only [assign_eq source true sized, Ty.convert, if_neg known, if_pos convertible.1,
          if_neg convertible.2]
    · rfl
  · rfl

/-- A slot compares the shapes first, so that a wrong length is seen as such. -/
def fill (source target : Ty) : Option (Except CoercionFailure Ty) :=
  match source.dims?, target with
  | some dims, .array _ axes => do
      let _ ← checkConcrete dims.toList axes.toList
      assign source target false
  | _, _ => assign source target false

theorem fill_eq (source : Ty) {target : Ty} (sized : target.Sized) :
    fill source target = some (source.assign target false) := by
  unfold fill
  split
  · simp only [checkConcrete_eq, Option.bind_eq_bind, Option.bind_some]
    exact assign_eq source false sized
  · exact assign_eq source false sized

/-! ## Branches -/

def joinBranch (policy : BranchPolicy) (joined : Operand) (branch : Resolved) :
    Option (Except Complaint Operand) :=
  if mixesComptime joined.type branch.type then some (Analysis.joinBranch policy joined branch)
  else do
    match ← resolve joined.type branch.type false with
    | .ok type => return .ok (.typed type)
    | .error failure => return .error (branch.position, .coercion "branch value" failure)

def joinFrom (policy : BranchPolicy) (joined : Option Operand) :
    List Resolved → Option (Except Complaint (Option Operand))
  | [] => some (.ok joined)
  | branch :: branches =>
      if branch.isUnknown then joinFrom policy joined branches
      else
        match joined with
        | none => joinFrom policy (some branch.operand) branches
        | some operand => do
            match ← joinBranch policy operand branch with
            | .ok operand => joinFrom policy (some operand) branches
            | .error complaint => return .error complaint

theorem joinBranch_eq (policy : BranchPolicy) (joined : Operand) {branch : Resolved}
    (sized : branch.type.Sized) :
    joinBranch policy joined branch = some (Analysis.joinBranch policy joined branch) := by
  simp only [joinBranch, resolve_eq joined.type false sized]
  split
  · rfl
  · next same =>
      simp only [Analysis.joinBranch, if_neg same]
      cases joined.type.resolve branch.type false with
      | ok type => rfl
      | error failure => rfl

theorem joinFrom_eq (policy : BranchPolicy) (joined : Option Operand)
    {branches : List Resolved} (sized : ∀ branch ∈ branches, branch.type.Sized) :
    joinFrom policy joined branches = some (Analysis.joinFrom policy joined branches) := by
  induction branches generalizing joined with
  | nil => rfl
  | cons branch branches induction =>
      rw [List.forall_mem_cons] at sized
      simp only [joinFrom, Analysis.joinFrom]
      split
      · exact induction joined sized.2
      · cases joined with
        | none => exact induction _ sized.2
        | some operand =>
            simp only [joinBranch_eq policy operand sized.1]
            cases Analysis.joinBranch policy operand branch with
            | ok operand => exact induction _ sized.2
            | error complaint => rfl

/-! ## Integers -/

def foldInt (op : ArithOp) (left right : Int) : Option (Option Int) :=
  match op with
  | .intDiv => if right = 0 then some none else (quotient left right).map some
  | .rem => if right = 0 then some none else (remainder left right).map some
  | op => some (Constant.foldInt op left right)

theorem foldInt_eq (op : ArithOp) (left right : Int) :
    foldInt op left right = some (Constant.foldInt op left right) := by
  cases op with
  | intDiv =>
      simp only [foldInt, Constant.foldInt, quotient]
      split <;> rfl
  | rem =>
      simp only [foldInt, Constant.foldInt, remainder]
      split <;> rfl
  | add | sub | mul | div => rfl

/-! ## Rows -/

/-- The elements of `count` rows of `stride` elements, of which row `number` is
`start + number · step`; none if a row lies outside. -/
def pickRows (elements : List (Option Constant)) (stride start step : Int) (number : Nat) :
    Nat → Option (Option (List (Option Constant)))
  | 0 => some (some [])
  | count + 1 =>
      let row := Word.wrap (start + Word.wrap (number * step))
      let stop := Word.wrap (Word.wrap (row + 1) * stride)
      if row < 0 ∨ (elements.length : Int) < stop then some none
      else do
        let picked ← segment elements (Word.wrap (row * stride)) stop
        let others ← pickRows elements stride start step (number + 1) count
        return others.map (picked ++ ·)

def pickedRows (array : Operand) (start step : Int) (count : Nat) :
    Option (Option (List (Option Constant))) :=
  match array.type, array.elements with
  | .comptimeArray _ dims, some elements => do
      let outer ← dims.toList.head?
      if outer = 0 then return none
      else pickRows elements (← quotient elements.length outer) start step 0 count
  | _, _ => some none

def selectRows (array : Operand) (type : Ty) (start step : Int) (count : Nat) :
    Option Operand := do
  match ← pickedRows array start step count with
  | none => return .typed type
  | some picked =>
      match type, picked with
      | .scalar _, [value] => return { type, value }
      | _, _ => return { type, elements := knownElements picked }

/-- Rows that all lie below the end of an axis, at positions that are words. -/
def RowsWithin (start step : Int) (number count : Nat) (outer : Int) : Prop :=
  ∀ row : Nat, number ≤ row → row < number + count →
    Word.holds (row * step) = true ∧ Word.holds (start + row * step) = true ∧
      start + row * step < outer

theorem wrap_of_le {value : Int} (notNegative : 0 ≤ value) (small : value ≤ Word.greatest) :
    Word.wrap value = value := by
  apply Word.wrap_of_holds
  apply decide_eq_true
  simp only [Word.least, Word.greatest] at *
  omega

/-- The limits of a row inside of an axis, counted in elements. -/
theorem row_limits {stride outer row : Int} (positive : 0 < stride) (notNegative : 0 ≤ row)
    (below : row < outer) :
    0 ≤ row * stride ∧ row + 1 ≤ (row + 1) * stride ∧
      (row + 1) * stride - row * stride = stride ∧ (row + 1) * stride ≤ outer * stride := by
  have scaled := Int.mul_le_mul_of_nonneg_left positive (by omega : 0 ≤ row + 1)
  rw [Int.zero_add, Int.mul_one] at scaled
  refine ⟨Int.mul_nonneg notNegative (Int.le_of_lt positive), scaled, ?_, ?_⟩
  · rw [Int.add_mul, Int.one_mul]
    omega
  · exact Int.mul_le_mul_of_nonneg_right below (Int.le_of_lt positive)

/-- A row inside of an array is a segment of its elements. -/
theorem segment_row {elements : List (Option Constant)} {stride outer row : Int}
    (positive : 0 < stride) (notNegative : 0 ≤ row) (below : row < outer)
    (length : (elements.length : Int) = outer * stride) :
    segment elements (row * stride) ((row + 1) * stride) =
      some ((elements.drop (row.toNat * stride.toNat)).take stride.toNat) := by
  rcases row_limits positive notNegative below with ⟨low, _, width, high⟩
  have inside : 0 ≤ row * stride ∧ row * stride ≤ (row + 1) * stride ∧
      (row + 1) * stride ≤ elements.length := by omega
  rw [segment, if_pos inside, Int.toNat_mul notNegative (Int.le_of_lt positive), width]

theorem pickRows_eq {elements : List (Option Constant)} {stride start step outer : Int}
    {number count : Nat} (positive : 0 < stride)
    (length : (elements.length : Int) = outer * stride)
    (countable : (elements.length : Int) ≤ Word.greatest)
    (within : RowsWithin start step number count outer) :
    pickRows elements stride start step number count =
      some (Analysis.pickRows elements stride.toNat (start + number * step) step count) := by
  induction count generalizing number with
  | zero => rfl
  | succ count induction =>
      rcases within number (Nat.le_refl _) (by omega) with ⟨offsetHolds, rowHolds, below⟩
      have later : RowsWithin start step (number + 1) count outer :=
        fun row first last => within row (by omega) (by omega)
      have next : start + (number + 1 : Nat) * step = start + number * step + step := by
        rw [Int.natCast_add, Int.add_mul, Int.add_assoc]
        simp
      have others := induction later
      rw [next] at others
      simp only [pickRows, Analysis.pickRows, Word.wrap_of_holds offsetHolds,
        Word.wrap_of_holds rowHolds, Int.toNat_of_nonneg (Int.le_of_lt positive), others]
      generalize start + number * step = row at below
      by_cases negative : row < 0
      · rw [if_pos (.inl negative), if_pos (.inl negative)]
      · have notNegative : 0 ≤ row := Int.not_lt.mp negative
        rcases row_limits positive notNegative below with ⟨low, stepped, width, high⟩
        have inside : ¬(row < 0 ∨ (elements.length : Int) < (row + 1) * stride) := by omega
        rw [wrap_of_le (by omega : 0 ≤ row + 1) (by omega),
          wrap_of_le (by omega : 0 ≤ (row + 1) * stride) (by omega),
          wrap_of_le low (by omega), if_neg inside, if_neg inside,
          segment_row positive notNegative below length]
        rfl

private theorem prod_positive {sizes : List Int} (positive : ∀ size ∈ sizes, 0 < size) :
    0 < sizes.prod := by
  induction sizes with
  | nil => exact Int.one_pos
  | cons size sizes induction =>
      rw [List.forall_mem_cons] at positive
      rw [List.prod_cons]
      exact Int.mul_pos positive.1 (induction positive.2)

/-- Known elements are those of whole rows. -/
theorem rows_of_coherent {array : Operand} {element : Tag} {dims : Axes Int}
    {elements : List (Option Constant)} (coherent : array.Coherent)
    (type : array.type = .comptimeArray element dims) (known : array.elements = some elements) :
    0 < dims.outer ∧ ∃ stride, 0 < stride ∧ (elements.length : Int) = dims.outer * stride := by
  have folds := coherent.array elements known
  rw [type] at folds
  rcases folds with ⟨positive, length, _⟩
  unfold Axes.toList at positive length
  rw [List.forall_mem_cons] at positive
  rw [List.prod_cons] at length
  exact ⟨positive.1, dims.inner.prod, prod_positive positive.2, length⟩

theorem pickedRows_eq {array : Operand} {start step : Int} {count : Nat}
    (coherent : array.Coherent) (countable : array.Countable)
    (within : ∀ {element dims elements}, array.type = .comptimeArray element dims →
      array.elements = some elements → RowsWithin start step 0 count dims.outer) :
    pickedRows array start step count = some (Analysis.pickedRows array start step count) := by
  simp only [pickedRows, Analysis.pickedRows]
  cases type : array.type with
  | comptimeArray element dims =>
      cases known : array.elements with
      | none => rfl
      | some elements =>
          rcases rows_of_coherent coherent type known with
            ⟨outerPositive, stride, positive, length⟩
          have nonzero : dims.outer ≠ 0 := Int.ne_of_gt outerPositive
          have divided : quotient elements.length dims.outer = some stride := by
            rw [quotient, if_neg nonzero, length, Int.mul_tdiv_cancel_left _ nonzero]
          have strideNat : elements.length / dims.outer.toNat = stride.toNat := by
            have cast : ((elements.length / dims.outer.toNat : Nat) : Int) = stride := by
              rw [Int.natCast_ediv, Int.toNat_of_nonneg (Int.le_of_lt outerPositive), length]
              exact Int.mul_ediv_cancel_left _ nonzero
            omega
          have picked :=
            pickRows_eq positive length (countable elements known) (within type known)
          rw [Int.natCast_zero, Int.zero_mul, Int.add_zero] at picked
          simp only [Axes.toList, List.head?_cons, Option.bind_eq_bind, Option.bind_some,
            if_neg nonzero, divided, picked, strideNat]
  | scalar | array | range | comptimeRange => rfl

theorem selectRows_eq {array : Operand} {start step : Int} {count : Nat} (type : Ty)
    (coherent : array.Coherent) (countable : array.Countable)
    (within : ∀ {element dims elements}, array.type = .comptimeArray element dims →
      array.elements = some elements → RowsWithin start step 0 count dims.outer) :
    selectRows array type start step count =
      some (Analysis.selectRows array type start step count) := by
  simp only [selectRows, Analysis.selectRows, pickedRows_eq coherent countable within]
  cases Analysis.pickedRows array start step count with
  | none => rfl
  | some picked =>
      cases type with
      | scalar tag => rcases picked with _ | ⟨value, _ | ⟨next, others⟩⟩ <;> rfl
      | array | comptimeArray | range | comptimeRange => rfl

/-! ## Slices -/

/-- The number of rows from `start` below `stop`, counted in words. -/
def sliceCount (start stop step : Int) : Option Int :=
  quotient (Word.wrap (stop - start + step - 1)) step

def boundedSpan (index stepPosition : Position) (outer : Dim) (start stop step : Int) :
    Option (Except Complaint SliceSpan) :=
  if 0 ≤ step ∧ isBeyond outer start stop = false ∧ start < stop then
    (sliceCount start stop step).map fun count => .ok ⟨Dim.ofInt count, start, step⟩
  else
    some (Analysis.boundedSpan index stepPosition outer start stop step)

def sliceSpan (index : Position) (form : RangeForm) (bounds : Option Bounds) (outer : Dim) :
    Option (Except Complaint SliceSpan) :=
  match bounds with
  | none => some (Analysis.sliceSpan index form none outer)
  | some bounds =>
      match sliceStart? form bounds, sliceEnd? form bounds outer, sliceStep? form bounds with
      | some start, some stop, some step =>
          boundedSpan index bounds.step.position outer start stop step
      | _, _, _ => some (.ok .unbounded)

theorem boundedSpan_eq (index stepPosition : Position) (outer : Dim) (start stop : Int)
    {step : Int} (nonzero : step ≠ 0) :
    boundedSpan index stepPosition outer start stop step =
      some (Analysis.boundedSpan index stepPosition outer start stop step) := by
  unfold boundedSpan
  split
  · next inside =>
      simp only [sliceCount, quotient, if_neg nonzero, Analysis.boundedSpan, inside.2.1,
        if_neg (Int.not_lt.mpr inside.1), if_neg (Int.not_le.mpr inside.2.2)]
      rfl
  · rfl

theorem eq_of_word? {constant : Constant} {value : Int}
    (found : constant.word? = some value) :
    constant = .int value ∧ Word.holds value = true := by
  cases constant with
  | float => cases found
  | int integer =>
      simp only [Constant.word?, Word.ofInt?] at found
      split at found
      · next holds =>
          cases found
          exact ⟨rfl, holds⟩
      · cases found

/-- A step that is known is not zero. -/
theorem sliceStep_ne_zero {index : Operand} {bounds : Bounds} {form : RangeForm} {step : Int}
    (coherent : index.Coherent) (known : index.bounds = some bounds)
    (found : sliceStep? form bounds = some step) : step ≠ 0 := by
  simp only [sliceStep?] at found
  split at found
  · rcases Option.bind_eq_some_iff.mp found with ⟨constant, value, word⟩
    rcases eq_of_word? word with ⟨rfl, _⟩
    rcases coherent.range bounds.values (by rw [known]; rfl) with ⟨_, _, _, bounded⟩
    rintro rfl
    exact bounded.steps _ value rfl
  · cases found
    exact Int.one_ne_zero

theorem sliceSpan_eq {index : Operand} (position : Position) (form : RangeForm) (outer : Dim)
    (coherent : index.Coherent) :
    sliceSpan position form index.bounds outer =
      some (Analysis.sliceSpan position form index.bounds outer) := by
  cases known : index.bounds with
  | none => rfl
  | some bounds =>
      simp only [sliceSpan, Analysis.sliceSpan]
      cases sliceStart? form bounds with
      | none => rfl
      | some start =>
          cases sliceEnd? form bounds outer with
          | none => rfl
          | some stop =>
              cases found : sliceStep? form bounds with
              | none => rfl
              | some step =>
                  exact boundedSpan_eq _ _ _ _ _ (sliceStep_ne_zero coherent known found)

/-- The rows of a slice lie inside of the axis. Where their number does not fit a word, it
wraps to one below zero and there are none. -/
theorem rowsWithin_sliceCount {start stop step outer : Int} (notNegative : 0 ≤ start)
    (nonempty : start < stop) (inside : stop ≤ outer) (small : outer ≤ Word.greatest)
    (positive : 0 < step) (word : step ≤ Word.greatest) :
    RowsWithin start step 0 (Analysis.sliceCount start stop step).toNat outer := by
  intro row _ last
  rw [Nat.zero_add] at last
  unfold Analysis.sliceCount at last
  have exact : stop - start + step - 1 ≤ Word.greatest := by
    apply Int.not_lt.mp
    intro large
    have wrapped : Word.wrap (stop - start + step - 1) < 0 := by
      simp only [Word.wrap, Word.greatest] at *
      rw [Int.bmod_def]
      split <;> omega
    have none := Int.tdiv_nonneg (Int.neg_nonneg_of_nonpos (Int.le_of_lt wrapped))
      (Int.le_of_lt positive)
    rw [Int.neg_tdiv] at none
    omega
  rw [wrap_of_le (by omega) exact, Int.tdiv_eq_ediv_of_nonneg (by omega)] at last
  have rows : (row : Int) + 1 ≤ (stop - start + step - 1) / step := by omega
  have covered := (Int.le_ediv_iff_mul_le positive).mp rows
  rw [Int.add_mul, Int.one_mul] at covered
  have offset : 0 ≤ row * step := Int.mul_nonneg (Int.natCast_nonneg row) (Int.le_of_lt positive)
  refine ⟨?_, ?_, by omega⟩
  · apply decide_eq_true
    simp only [Word.least, Word.greatest] at *
    omega
  · apply decide_eq_true
    simp only [Word.least, Word.greatest] at *
    omega

theorem sliceStart_nonneg {form : RangeForm} {bounds : Bounds} {start : Int}
    (found : sliceStart? form bounds = some start) : 0 ≤ start := by
  simp only [sliceStart?] at found
  split at found
  · exact of_decide_eq_true (Option.filter_eq_some_iff.mp found).2
  · cases found
    exact Int.le_refl 0

theorem sliceStep_le {form : RangeForm} {bounds : Bounds} {step : Int}
    (found : sliceStep? form bounds = some step) : step ≤ Word.greatest := by
  simp only [sliceStep?] at found
  split at found
  · rcases Option.bind_eq_some_iff.mp found with ⟨constant, _, word⟩
    exact (of_decide_eq_true (eq_of_word? word).2).2
  · cases found
    decide

theorem rowsWithin_boundedSpan {index stepPosition : Position}
    {start stop step outer length : Int} {span : SliceSpan} (notNegative : 0 ≤ start)
    (nonzero : step ≠ 0) (word : step ≤ Word.greatest) (small : outer ≤ Word.greatest)
    (found : Analysis.boundedSpan index stepPosition (.fixed outer) start stop step = .ok span)
    (fixed : span.length = .fixed length) :
    RowsWithin span.start span.step 0 length.toNat outer := by
  simp only [Analysis.boundedSpan, isBeyond, decide_eq_true_eq] at found
  split at found
  · cases found
  · split at found
    · cases found
    · split at found
      · cases found
      · cases found
        have count := congrArg Dim.toInt fixed
        rw [Dim.toInt_ofInt] at count
        rw [← show Analysis.sliceCount start stop step = length from count]
        apply rowsWithin_sliceCount notNegative _ _ small _ word <;> omega

theorem rowsWithin_sliceSpan {index : Operand} {position : Position} {form : RangeForm}
    {outer length : Int} {span : SliceSpan} (coherent : index.Coherent)
    (small : outer ≤ Word.greatest)
    (found : Analysis.sliceSpan position form index.bounds (.fixed outer) = .ok span)
    (fixed : span.length = .fixed length) :
    RowsWithin span.start span.step 0 length.toNat outer := by
  cases known : index.bounds with
  | none =>
      rw [known] at found
      simp only [Analysis.sliceSpan] at found
      split at found
      · cases found
        cases fixed
      · cases found
        cases fixed
        intro row _ last
        have holds : Word.holds row = true := by
          apply decide_eq_true
          simp only [Word.least, Word.greatest] at *
          omega
        simp only [Int.mul_one, Int.zero_add]
        exact ⟨holds, holds, by omega⟩
  | some bounds =>
      rw [known] at found
      simp only [Analysis.sliceSpan] at found
      split at found
      · next start stop step starts _ steps =>
          exact rowsWithin_boundedSpan (sliceStart_nonneg starts)
            (sliceStep_ne_zero coherent known steps) (sliceStep_le steps) small found fixed
      · cases found
        cases fixed

/-! ## Indexing -/

def literalElement (ctx : Context) (array index : Resolved) (outer : Dim) :
    Analysis (Option Operand) := do
  let row := array.type.row
  if ← checkFits ctx index.position index.operand.value .usize then
    match index.operand.value.bind Constant.word? with
    | none => return some (.typed row)
    | some value =>
        match outer with
        | .wildcard => return selectRows array.operand row value 1 1
        | .fixed length =>
            if length ≤ value then
              report index.position (.indexOutOfBounds value length)
              return some (.typed row)
            else
              return selectRows array.operand row value 1 1
  else
    return some (.typed row)

/-- Only an index that is an integer literal picks a row. -/
def element (ctx : Context) (array index : Resolved) (outer : Dim) :
    Analysis (Option Operand) :=
  if index.type = .comptimeInt then literalElement ctx array index outer
  else some <$> Analysis.element ctx array index outer

/-- Only a slice of known length picks rows. -/
def sliced (node : Node) (array : Operand) (span : SliceSpan) : Analysis (Option Operand) :=
  match array.type, span.length with
  | .comptimeArray element dims, .fixed length =>
      return selectRows array (.comptimeArray element (dims.withOuter length)) span.start
        span.step length.toNat
  | _, _ => some <$> Analysis.sliced node array span

def slice (ctx : Context) (node : Node) (array index : Resolved) (form : RangeForm)
    (outer : Dim) : Analysis (Option Operand) := do
  if !(← validateRangeIndex index.position index.type) then return some .unknown
  let fits ← match index.type, index.operand.bounds with
    | .comptimeRange _ _, some bounds => checkBoundsFit ctx bounds .usize
    | _, _ => pure true
  if !fits then return some .unknown
  match sliceSpan index.position form index.operand.bounds outer with
  | none => return none
  | some (.error (position, finding)) => some <$> refuse position finding
  | some (.ok span) => sliced node array.operand span

def indexing (ctx : Context) (node : Node) (array index : Resolved) :
    Analysis (Option Operand) := do
  if array.isUnknown then return some .unknown
  match array.type.dims? with
  | none => some <$> refuse node.position (.notIndexable array.type)
  | some dims =>
      match dims.toList.head? with
      | none => return none
      | some outer =>
          match index.type.rangeParts? with
          | some (_, form) => slice ctx node array index form outer
          | none => element ctx array index outer

/-- The outermost axis of an array that has known elements. -/
theorem outer_of_coherent {array : Operand} {element : Tag} {dims : Axes Int} {axes : Axes Dim}
    {elements : List (Option Constant)} (coherent : array.Coherent)
    (countable : array.Countable) (found : array.type.dims? = some axes)
    (type : array.type = .comptimeArray element dims) (known : array.elements = some elements) :
    axes.outer = .fixed dims.outer ∧ dims.outer ≤ Word.greatest := by
  rcases rows_of_coherent coherent type known with ⟨outerPositive, stride, positive, length⟩
  have small := countable elements known
  have within := Int.mul_le_mul_of_nonneg_left positive (Int.le_of_lt outerPositive)
  rw [type] at found
  cases found
  refine ⟨if_neg (by omega), ?_⟩
  rw [Int.zero_add, Int.mul_one] at within
  omega

theorem literalElement_eq (ctx : Context) {array : Resolved} (index : Resolved)
    {axes : Axes Dim} (coherent : array.operand.Coherent) (countable : array.operand.Countable)
    (found : array.type.dims? = some axes) :
    literalElement ctx array index axes.outer =
      some <$> Analysis.literalElement ctx array index axes.outer := by
  have selected : ∀ value, index.operand.value.bind Constant.word? = some value →
      (∀ length, axes.outer = .fixed length → value < length) →
      selectRows array.operand array.type.row value 1 1 =
        some (Analysis.selectRows array.operand array.type.row value 1 1) := by
    intro value read below
    apply selectRows_eq _ coherent countable
    intro element dims elements type known row _ last
    rcases outer_of_coherent coherent countable found type known with ⟨fixed, _⟩
    rcases Option.bind_eq_some_iff.mp read with ⟨constant, _, word⟩
    have rowZero : row = 0 := by omega
    subst rowZero
    rw [Int.natCast_zero, Int.zero_mul, Int.add_zero]
    exact ⟨rfl, (eq_of_word? word).2, below _ fixed⟩
  simp only [literalElement, Analysis.literalElement, map_bind]
  congr 1
  funext fits
  cases fits with
  | false => rfl
  | true =>
      cases read : index.operand.value.bind Constant.word? with
      | none => rfl
      | some value =>
          cases outer : axes.outer with
          | wildcard =>
              simp only [if_true, selected value read (by simp [outer])]
              rfl
          | fixed length =>
              simp only [if_true]
              split
              · rfl
              · next inside =>
                  rw [selected value read (by simp_all)]
                  rfl

theorem element_eq (ctx : Context) {array : Resolved} (index : Resolved) {axes : Axes Dim}
    (coherent : array.operand.Coherent) (countable : array.operand.Countable)
    (found : array.type.dims? = some axes) :
    element ctx array index axes.outer = some <$> Analysis.element ctx array index axes.outer := by
  unfold element
  split
  · next literal =>
      have known : index.isUnknown = false := by
        simp only [Resolved.isUnknown, Operand.isUnknown]
        rw [show index.operand.type = .comptimeInt from literal]
        rfl
      rw [literalElement_eq ctx index coherent countable found]
      simp [Analysis.element, known, literal, Ty.scalarTag?]
  · rfl

theorem sliced_eq (node : Node) {array : Operand} {span : SliceSpan}
    (coherent : array.Coherent) (countable : array.Countable)
    (within : ∀ {element dims elements length}, array.type = .comptimeArray element dims →
      array.elements = some elements → span.length = .fixed length →
      RowsWithin span.start span.step 0 length.toNat dims.outer) :
    sliced node array span = some <$> Analysis.sliced node array span := by
  unfold sliced
  split
  · next element dims length type fixed =>
      rw [selectRows_eq _ coherent countable fun type known => within type known fixed]
      simp only [Analysis.sliced, type, fixed]
      rfl
  · rfl

theorem slice_eq (ctx : Context) (node : Node) {array index : Resolved} (form : RangeForm)
    {axes : Axes Dim} (coherent : array.operand.Coherent) (countable : array.operand.Countable)
    (indexCoherent : index.operand.Coherent) (found : array.type.dims? = some axes) :
    slice ctx node array index form axes.outer =
      some <$> Analysis.slice ctx node array index form axes.outer := by
  have spanned : ∀ span, Analysis.sliceSpan index.position form index.operand.bounds axes.outer
      = .ok span →
      sliced node array.operand span = some <$> Analysis.sliced node array.operand span := by
    intro span spans
    apply sliced_eq node coherent countable
    intro element dims elements length type known fixed
    rcases outer_of_coherent coherent countable found type known with ⟨outer, small⟩
    rw [outer] at spans
    exact rowsWithin_sliceSpan indexCoherent small spans fixed
  simp only [slice, Analysis.slice, sliceSpan_eq _ _ _ indexCoherent, map_bind]
  congr 1
  funext valid
  generalize Analysis.sliceSpan index.position form index.operand.bounds axes.outer = result
    at spanned
  cases valid with
  | false => rfl
  | true =>
      simp only [Bool.not_true, Bool.false_eq_true, if_false]
      cases index.type with
      | comptimeRange =>
          cases index.operand.bounds with
          | none =>
              cases result with
              | error complaint => rfl
              | ok span => exact spanned span rfl
          | some bounds =>
              simp only [map_bind]
              congr 1
              funext fits
              cases fits with
              | false => rfl
              | true =>
                  cases result with
                  | error complaint => rfl
                  | ok span => exact spanned span rfl
      | scalar | array | comptimeArray | range =>
          cases result with
          | error complaint => rfl
          | ok span => exact spanned span rfl

theorem indexing_eq (ctx : Context) (node : Node) {array index : Resolved}
    (coherent : array.operand.Coherent) (countable : array.operand.Countable)
    (indexCoherent : index.operand.Coherent) :
    indexing ctx node array index = some <$> Analysis.indexing ctx node array index := by
  simp only [indexing, Analysis.indexing]
  split
  · rfl
  · cases found : array.type.dims? with
    | none => rfl
    | some axes =>
        simp only [Axes.toList, List.head?_cons]
        cases index.type.rangeParts? with
        | none => exact element_eq ctx index coherent countable found
        | some parts => exact slice_eq ctx node parts.2 coherent countable indexCoherent found

end Checked

end ComptimeTyping
