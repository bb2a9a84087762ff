/-! Axes of array types. -/

namespace ComptimeTyping

/-- One axis of a concrete array type. A wildcard axis accepts any length. -/
inductive Dim where
  | wildcard
  | fixed (size : Int)
deriving DecidableEq, Repr

namespace Dim

/-- Minus one is the number that stands for a wildcard. -/
def ofInt (size : Int) : Dim :=
  if size = -1 then .wildcard else .fixed size

def toInt : Dim → Int
  | .wildcard => -1
  | .fixed size => size

@[simp] theorem toInt_ofInt (size : Int) : (ofInt size).toInt = size := by
  unfold ofInt
  split <;> simp_all [toInt]

def isWildcard : Dim → Bool
  | .wildcard => true
  | .fixed _ => false

def render : Dim → String
  | .wildcard => "_"
  | .fixed size => toString size

/-- The wildcard or a positive size. -/
def isAllowed : Dim → Bool
  | .wildcard => true
  | .fixed size => decide (0 < size)

/-- Write axes in brackets, outermost first. -/
def renderAll (dims : List Dim) : String :=
  String.join (dims.map fun dim => "[" ++ dim.render ++ "]")

end Dim

/-- The axes of an array, outermost first. There is at least one. -/
structure Axes (α : Type) where
  outer : α
  inner : List α
deriving DecidableEq, Repr

namespace Axes

def toList (axes : Axes α) : List α :=
  axes.outer :: axes.inner

def ofList? : List α → Option (Axes α)
  | [] => none
  | outer :: inner => some ⟨outer, inner⟩

/-- The axes below the outermost one, if any are left. -/
def tail? (axes : Axes α) : Option (Axes α) :=
  ofList? axes.inner

def map (transform : α → β) (axes : Axes α) : Axes β :=
  ⟨transform axes.outer, axes.inner.map transform⟩

/-- Add an outermost axis. -/
def cons (outer : α) (axes : Axes α) : Axes α :=
  ⟨outer, axes.toList⟩

def withOuter (outer : α) (axes : Axes α) : Axes α :=
  { axes with outer }

/-- Combine two shapes of the same rank axis by axis. -/
def zipWith (combine : α → β → γ) (left : Axes α) (right : Axes β) : Axes γ :=
  ⟨combine left.outer right.outer, left.inner.zipWith combine right.inner⟩

@[simp] theorem toList_map (transform : α → β) (axes : Axes α) :
    (axes.map transform).toList = axes.toList.map transform := rfl

@[simp] theorem toList_cons (outer : α) (axes : Axes α) :
    (axes.cons outer).toList = outer :: axes.toList := rfl

@[simp] theorem toList_zipWith (combine : α → β → γ) (left : Axes α) (right : Axes β) :
    (left.zipWith combine right).toList = left.toList.zipWith combine right.toList := rfl

theorem ofList?_toList (axes : Axes α) : ofList? axes.toList = some axes := rfl

theorem toList_of_ofList? {list : List α} {axes : Axes α} (found : ofList? list = some axes) :
    axes.toList = list := by
  cases list with
  | nil => cases found
  | cons outer inner =>
      cases found
      rfl

end Axes

end ComptimeTyping
