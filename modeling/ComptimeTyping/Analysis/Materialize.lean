import ComptimeTyping.Analysis.State
import ComptimeTyping.Coercion.Basic

/-! Values that fill a slot: an annotated declaration, an assignment, an argument,
a result or a branch. A comptime value gets its representation here, so this is
where it has to fit. -/

namespace ComptimeTyping.Analysis

/-! ## Ranges of values -/

/-- Report a folded value that the number type `tag` does not hold. -/
def checkFits (ctx : Context) (position : Position) (value : Option Constant) (tag : Tag) :
    Analysis Bool := do
  match value with
  | none => return true
  | some value =>
      if tag.isNumeric && !tag.isComptime && !value.fits tag ctx.width then
        report position (.overflow value tag ctx.width)
        return false
      else
        return true

def checkBoundsFit (ctx : Context) (bounds : Bounds) (tag : Tag) : Analysis Bool := do
  let start ← checkFits ctx bounds.start.position bounds.start.value tag
  let stop ← checkFits ctx bounds.stop.position bounds.stop.value tag
  let step ← checkFits ctx bounds.step.position bounds.step.value tag
  return start && stop && step

def checkElementsFit (ctx : Context) (position : Position) (tag : Tag) :
    List (Option Constant) → Analysis Unit
  | [] => return
  | value :: values => do
      discard <| checkFits ctx position value tag
      checkElementsFit ctx position tag values

/-- Report a float range that has both ends and no step. -/
def requireFloatStep (position : Position) (element : Tag) (form : RangeForm) :
    Analysis Bool := do
  if element.isFloat && form.isBounded && !form.hasStep then
    report position .floatRangeStep
    return false
  else
    return true

/-! ## Slots -/

/-- Report an array whose shape does not fit. Types without a shape pass. -/
def validateShape (position : Position) (source : Ty) (target : List Dim) (label : String) :
    Analysis Bool := do
  match source.dims?.bind fun dims => Shape.checkConcrete dims.toList target with
  | none => return true
  | some mismatch =>
      report position (.shape label mismatch)
      return false

/-- Check what a comptime operand is known to hold against the type it becomes. A
step that is missing is reported at `site`. -/
def checkContents (ctx : Context) (site : Position) (source : Resolved) (type : Ty) :
    Analysis Unit := do
  match type with
  | .scalar tag => discard <| checkFits ctx source.position source.operand.value tag
  | .array element _ =>
      checkElementsFit ctx source.position element (source.operand.elements.getD [])
  | .range element form =>
      match source.operand.bounds with
      | some bounds => discard <| checkBoundsFit ctx bounds element
      | none => pure ()
      discard <| requireFloatStep site element form
  | _ => return

/-- The type that a slot of type `target` holds once `source` fills it. Shapes
are compared first, so that a wrong length is reported as such even where the
elements differ too. -/
def fill (ctx : Context) (source : Resolved) (target : Ty) (label : String) :
    Analysis Ty := do
  if source.isUnknown || target.isUnknown then return target
  let fits ← match target with
    | .array _ dims => validateShape source.position source.type dims.toList label
    | _ => pure true
  if !fits then return target
  match source.type.assign target false with
  | .error failure =>
      report source.position (.coercion label failure)
      return target
  | .ok type =>
      if source.type.isComptime then checkContents ctx source.position source type
      return type

/-- Fill a slot and note its type, unless the type is unknown. -/
def materialize (ctx : Context) (source : Resolved) (target : Ty) (label : String) :
    Analysis Ty := do
  let type ← fill ctx source target label
  if !type.isUnknown then recordSlot source.node type
  return type

/-- A slot without a type takes every value and is not noted. -/
def materialize? (ctx : Context) (source : Resolved) (target : Option Ty) (label : String) :
    Analysis Unit := do
  match target with
  | none => return
  | some target => discard <| materialize ctx source target label

end ComptimeTyping.Analysis
