import ComptimeTyping.Coercion.Failure

/-! The coercion rules: which type two operands agree on, which value may fill a
slot, and what an explicit conversion allows. -/

namespace ComptimeTyping

/-! ## Agreement of two operands

1. comptime with comptime stays comptime, and a float wins;
2. comptime with concrete becomes the concrete type where it can adapt;
3. two different concrete numbers agree only under a marker, on the right one;
4. equal tags agree on themselves. -/

namespace Tag

def resolve (left right : Tag) (explicit : Bool) : Except CoercionFailure Tag :=
  if left = right then .ok left
  else if left = .void ∨ right = .void then .error (.voidOperand left right)
  else if ¬(left.isNumeric ∧ right.isNumeric) then .error (.notNumeric left right explicit)
  else if left.isComptime ∧ right.isComptime then .ok (left.promote right)
  else if left.isComptime then
    if left.canAdapt right || explicit then .ok right else .error (.cannotAdapt left right)
  else if right.isComptime then
    if right.canAdapt left || explicit then .ok left else .error (.cannotAdapt right left)
  else if explicit then .ok right
  else .error (.unmarked left right)

end Tag

namespace Ty

/-! ## Filling a slot -/

/-- Keep the source length wherever the target is a wildcard. -/
def fillWildcards (source target : Axes Dim) : Axes Dim :=
  source.zipWith (fun source target => if target = .wildcard then source else target) target

def assignScalar (source target : Tag) (explicit : Bool) : Except CoercionFailure Ty :=
  if source = target then .ok (.scalar target)
  else if source = .void ∨ target = .void then .error (.voidSlot source target)
  else if source.isComptime then
    if source.canAdapt target || (explicit && target.isNumeric) then .ok (.scalar target)
    else if target.isNumeric then .error (.cannotAdapt source target)
    else .error (.slot (.scalar source) (.scalar target) false)
  else
    let convertible := source.isNumeric && target.isNumeric
    if explicit && convertible then .ok (.scalar target)
    else .error (.slot (.scalar source) (.scalar target) convertible)

def assignArray (source : Ty) (element : Tag) (dims : Axes Dim) (explicit : Bool) :
    Except CoercionFailure Ty :=
  match source with
  | .comptimeArray sourceElement sourceDims =>
      match Shape.check sourceDims.toList dims.toList with
      | some mismatch => .error (.shape mismatch)
      | none =>
          if sourceElement.canAdapt element || (explicit && element.isNumeric) then
            .ok (.array element (sourceDims.map Dim.ofInt))
          else
            .error (.elementsCannotAdapt sourceElement element (.array element dims))
  | .array sourceElement sourceDims =>
      match Shape.checkConcrete sourceDims.toList dims.toList with
      | some mismatch => .error (.shape mismatch)
      | none =>
          let convertible := sourceElement.isNumeric && element.isNumeric
          if sourceElement = element ∨ (explicit ∧ convertible) then
            .ok (.array element (fillWildcards sourceDims dims))
          else
            .error (.slot source (.array element dims) convertible)
  | _ => .error (.slot source (.array element dims) false)

def assignRange (source : Ty) (element : Tag) (form : RangeForm) (explicit : Bool) :
    Except CoercionFailure Ty :=
  match source with
  | .comptimeRange sourceElement sourceForm =>
      if sourceElement.canAdapt element then .ok (.range element sourceForm)
      else if sourceElement.isFloat ∧ element = .usize then .error (.floatIndexRange source)
      else if explicit then .ok (.range element sourceForm)
      else .error (.rangeCannotAdapt source (.range element form))
  | .range sourceElement sourceForm =>
      if sourceElement = element then .ok source
      else if sourceElement.isFloat ∧ element = .usize then .error (.floatIndexRange source)
      else if explicit then .ok (.range element sourceForm)
      else .error (.slot source (.range element form) true)
  | _ => .error (.slot source (.range element form) false)

/-- Two comptime arrays agree when they have the same lengths. -/
def resolveComptimeArrays (left : Tag) (leftDims : Axes Int) (right : Tag)
    (rightDims : Axes Int) : Except CoercionFailure Ty :=
  match Shape.check leftDims.toList (rightDims.toList.map Dim.ofInt) with
  | some mismatch => .error (.shape mismatch)
  | none => .ok (.comptimeArray (left.promote right) leftDims)

/-- Two ranges agree on an element; the form is that of the left range, or of
the concrete one where the left is comptime. -/
def resolveRanges (left right : Ty) (explicit : Bool) : Except CoercionFailure Ty :=
  match left, right with
  | .comptimeRange leftElement form, .comptimeRange rightElement _ =>
      (leftElement.resolve rightElement explicit).map (.comptimeRange · form)
  | .comptimeRange leftElement _, .range rightElement form =>
      (leftElement.resolve rightElement explicit).map (.range · form)
  | .range leftElement form, .range rightElement _ =>
      (leftElement.resolve rightElement explicit).map (.range · form)
  | .range leftElement form, .comptimeRange rightElement _ =>
      (leftElement.resolve rightElement explicit).map (.range · form)
  | _, _ => .error (.kinds left right)

/-- The common type of two operands. An unknown operand makes the result unknown
without a failure, so that one mistake is reported once. -/
def resolve (left right : Ty) (explicit : Bool) : Except CoercionFailure Ty :=
  if left.isUnknown || right.isUnknown then .ok .unknown
  else
    match left, right with
    | .scalar leftTag, .scalar rightTag => (leftTag.resolve rightTag explicit).map .scalar
    | .comptimeArray leftElement leftDims, .comptimeArray rightElement rightDims =>
        resolveComptimeArrays leftElement leftDims rightElement rightDims
    | .comptimeArray _ _, .array element dims => assignArray left element dims explicit
    | .array element dims, .comptimeArray _ _ => assignArray right element dims explicit
    | .array _ _, .array element dims => assignArray left element dims explicit
    | _, _ => resolveRanges left right explicit

/-- Whether a value of type `source` may fill a slot of type `target`, and the
type that the slot then holds. -/
def assign (source target : Ty) (explicit : Bool) : Except CoercionFailure Ty :=
  if source.isUnknown || target.isUnknown then .ok target
  else
    match target with
    | .scalar targetTag =>
        match source with
        | .scalar sourceTag => assignScalar sourceTag targetTag explicit
        | _ => .error (.slot source target false)
    | .array element dims => assignArray source element dims explicit
    | .comptimeArray _ _ =>
        match source with
        | .comptimeArray _ _ => resolve source target explicit
        | _ => .error (.slot source target false)
    | .range element form => assignRange source element form explicit
    | .comptimeRange _ _ => resolve source target explicit

/-! ## Explicit conversion -/

/-- The conversion `value:Type`. Numbers convert freely, arrays element by
element where their shapes fit, and ranges by their element. -/
def convert (source target : Ty) : Except CoercionFailure Ty :=
  if source.isUnknown || target.isUnknown then .ok target
  else
    match target with
    | .scalar targetTag =>
        match source with
        | .scalar sourceTag =>
            if sourceTag = targetTag then .ok target
            else if sourceTag.isNumeric ∧ targetTag.isNumeric ∧ targetTag.isConcrete then
              .ok target
            else
              .error (.noConversion source target
                "only numeric types convert; bool, string and void convert only to themselves")
        | _ => .error (.noConversion source target "only scalars convert to scalar types")
    | .array element _ =>
        if source.isArray then
          if ¬element.isNumeric ∧ source.elementTag ≠ element then
            .error (.noConversion source target "only numeric arrays convert element-wise")
          else
            assign source target true
        else
          .error (.noConversion source target "only arrays convert to array types")
    | .range _ _ =>
        match source.rangeParts? with
        | some _ => assign source target true
        | none => .error (.noConversion source target "only ranges convert to range types")
    | _ => .error (.noConversion source target "")

/-! ## Absent types

A binding made from outside may have no type. It resolves like an unknown one,
and a slot without a type accepts every value and stays without one. -/

def resolve? (left right : Option Ty) (explicit : Bool) : Except CoercionFailure Ty :=
  resolve (left.getD .unknown) (right.getD .unknown) explicit

def assign? (source target : Option Ty) (explicit : Bool) :
    Except CoercionFailure (Option Ty) :=
  match target with
  | none => .ok none
  | some target => (assign (source.getD .unknown) target explicit).map some

def convert? (source target : Option Ty) : Except CoercionFailure (Option Ty) :=
  match target with
  | none => .ok none
  | some target => (convert (source.getD .unknown) target).map some

end Ty

end ComptimeTyping
