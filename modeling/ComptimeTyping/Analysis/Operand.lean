import ComptimeTyping.Program.Token
import ComptimeTyping.Symbol.Basic

/-! Resolved expressions: a type, and what is known beyond the type. -/

namespace ComptimeTyping

/-- A folded bound of a range, and the place to blame for it. -/
structure Bound where
  position : Position
  value : Option Constant
deriving DecidableEq, Repr

def Bound.absent : Bound := ⟨.nowhere, none⟩

/-- The folded bounds of a range. A bound that is left out or not constant has
no value. -/
structure Bounds where
  start : Bound
  stop : Bound
  step : Bound
deriving DecidableEq, Repr

namespace Bounds

def absent : Bounds := ⟨.absent, .absent, .absent⟩

def values (bounds : Bounds) : RangeValues :=
  ⟨bounds.start.value, bounds.stop.value, bounds.step.value⟩

/-- The bounds of a binding. Wherever it is used, the use is to blame. -/
def ofValues (position : Position) (values : RangeValues) : Bounds :=
  ⟨⟨position, values.start⟩, ⟨position, values.stop⟩, ⟨position, values.step⟩⟩

end Bounds

structure Operand where
  type : Ty
  /-- The folded value of a comptime scalar. -/
  value : Option Constant := none
  /-- Whether the expression is itself a conversion `value:Type`. -/
  explicit : Bool := false
  bounds : Option Bounds := none
  /-- The folded elements of a comptime array in row-major order, until they are
  checked against a target. -/
  elements : Option (List (Option Constant)) := none
deriving DecidableEq, Repr

namespace Operand

def typed (type : Ty) : Operand := { type }

/-- The operand of an expression that was already reported. -/
def unknown : Operand := typed .unknown

def isUnknown (operand : Operand) : Bool :=
  operand.type.isUnknown

/-- What a name resolves to. Only a comptime binding carries its values along. -/
def ofSymbol (position : Position) (symbol : Symbol) : Operand :=
  let type := symbol.type.getD .unknown
  if symbol.isInitialized && symbol.isComptime then
    { type, value := symbol.value, elements := symbol.elements,
      bounds := symbol.bounds.map (Bounds.ofValues position) }
  else
    typed type

end Operand

/-- Elements that are known one by one; an array without elements knows none. -/
def knownElements (elements : List (Option Constant)) : Option (List (Option Constant)) :=
  if elements.isEmpty then none else some elements

/-- An operand and the node that it was resolved from. -/
structure Resolved where
  node : Node
  operand : Operand
deriving DecidableEq, Repr

namespace Resolved

def type (resolved : Resolved) : Ty :=
  resolved.operand.type

def position (resolved : Resolved) : Position :=
  resolved.node.position

def isUnknown (resolved : Resolved) : Bool :=
  resolved.operand.isUnknown

end Resolved

end ComptimeTyping
