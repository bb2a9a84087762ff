import ComptimeTyping.Analysis.Branches
import ComptimeTyping.Analysis.Operators

/-! Array literals. The elements are resolved before; scalars make a vector and
arrays of one shape make the rows of an array of one more axis. -/

namespace ComptimeTyping.Analysis

/-- What an array type asks of the elements of a literal. -/
def elementTarget : Option Ty → Option Ty
  | some (.array element dims) => some (Ty.row (.array element dims))
  | _ => none

def emptyArray (node : Node) (target : Option Ty) : Analysis Operand := do
  match target with
  | some (.array element dims) =>
      match dims.outer with
      | .wildcard => pure ()
      | .fixed size => report node.position (.emptyArrayLength size)
      return .typed (.array element dims)
  | _ => refuse node.position .emptyArray

def elementLabel (index : Nat) : String :=
  "array element " ++ toString index

/-! ## Vectors -/

/-- The common tag of scalars, left to right. -/
def joinScalars (joined : Tag) (index : Nat) : List Resolved → Except Complaint Tag
  | [] => .ok joined
  | element :: elements =>
      match element.type.scalarTag? with
      | none => .error (element.position, .notScalarElement index element.type)
      | some tag =>
          match joined.resolve tag false with
          | .ok joined => joinScalars joined (index + 1) elements
          | .error failure => .error (element.position, .coercion (elementLabel index) failure)

theorem joinScalars_cons {joined tag : Tag} {index : Nat} {element : Resolved}
    {elements : List Resolved}
    (result : joinScalars joined index (element :: elements) = .ok tag) :
    ∃ elementTag next, element.type = .scalar elementTag ∧
      joined.resolve elementTag false = .ok next ∧
      joinScalars next (index + 1) elements = .ok tag := by
  unfold joinScalars at result
  split at result
  · cases result
  · next elementTag found =>
      have scalar : element.type = .scalar elementTag := by
        cases type : element.type <;> rw [type] at found <;> cases found
        rfl
      split at result
      · next next resolved => exact ⟨elementTag, next, scalar, resolved, result⟩
      · cases result

/-- Check comptime elements against the tag that they take on. -/
def checkComptimeFit (ctx : Context) (tag : Tag) : List Resolved → Analysis Unit :=
  checkBranchesFit ctx tag

/-- A vector of scalars. Comptime elements stay open unless the target already
gives their type, and are then checked one by one. -/
def vector (ctx : Context) (node : Node) (first : Tag) (elements : List Resolved)
    (target : Option Ty) : Analysis Operand := do
  match joinScalars first 1 elements.tail with
  | .error (position, finding) => refuse position finding
  | .ok tag =>
      let length : Int := elements.length
      if tag = .void then refuse node.position .voidElements
      else if tag.isComptime then
        let type : Ty := .comptimeArray tag ⟨length, []⟩
        match (target.bind Ty.scalarTag?).filter tag.canAdapt with
        | some targetTag =>
            checkComptimeFit ctx targetTag elements
            return .typed type
        | none => return { type, elements := some (elements.map (·.operand.value)) }
      else
        checkComptimeFit ctx tag elements
        return .typed (.array tag ⟨.fixed length, []⟩)

/-! ## Rows -/

/-- The common element tag of rows that all have the axes of the first one. -/
def joinRowTags (first : List Dim) (joined : Tag) (index : Nat) :
    List Resolved → Except Complaint Tag
  | [] => .ok joined
  | row :: rows =>
      match row.type.dims? with
      | none => .error (row.position, .notArrayElement index row.type)
      | some dims =>
          if first ≠ dims.toList then
            .error (row.position, .raggedRows first index dims.toList)
          else
            match joined.resolve row.type.elementTag false with
            | .ok joined => joinRowTags first joined (index + 1) rows
            | .error failure => .error (row.position, .coercion (elementLabel index) failure)

theorem joinRowTags_cons {first : List Dim} {joined tag : Tag} {index : Nat} {row : Resolved}
    {rows : List Resolved} (result : joinRowTags first joined index (row :: rows) = .ok tag) :
    ∃ dims next, row.type.dims? = some dims ∧ dims.toList = first ∧
      joined.resolve row.type.elementTag false = .ok next ∧
      joinRowTags first next (index + 1) rows = .ok tag := by
  unfold joinRowTags at result
  split at result
  · cases result
  · next dims found =>
      split at result
      · cases result
      · next same =>
          split at result
          · next next resolved =>
              exact ⟨dims, next, found, (Decidable.not_not.mp same).symm, resolved, result⟩
          · cases result

/-- The elements of all rows, if every row knows its own. -/
def joinRows (rows : List Resolved) : Option (List (Option Constant)) :=
  (rows.mapM fun (row : Resolved) => row.operand.elements).bind fun elements =>
    knownElements elements.flatten

def rows (first : Axes Dim) (elements : List Resolved) (firstTag : Tag) :
    Analysis Operand := do
  match joinRowTags first.toList firstTag 1 elements.tail with
  | .error (position, finding) => refuse position finding
  | .ok tag =>
      let length : Int := elements.length
      if elements.all (·.type.isComptime) && tag.isComptime then
        return { type := .comptimeArray tag ((first.map Dim.toInt).cons length),
                 elements := joinRows elements }
      else
        return .typed (.array tag (first.cons (.fixed length)))

/-- An array literal of resolved elements. -/
def arrayLiteral (ctx : Context) (node : Node) (elements : List Resolved)
    (target : Option Ty) : Analysis Operand := do
  match elements with
  | [] => emptyArray node target
  | first :: _ =>
      if elements.any (·.isUnknown) then return .unknown
      match first.type with
      | .scalar tag => vector ctx node tag elements (elementTarget target)
      | type =>
          match type.dims? with
          | some dims => rows dims elements type.elementTag
          | none => refuse first.position (.elementKind type)

end ComptimeTyping.Analysis
