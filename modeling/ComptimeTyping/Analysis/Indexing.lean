import ComptimeTyping.Analysis.Ranges
import ComptimeTyping.Number.Word

/-! Elements, slices and properties of arrays. -/

namespace ComptimeTyping.Analysis

/-- What an index is asked to be. -/
def indexTarget (isRange : Bool) : Ty :=
  if isRange then .range .usize .bare else .usize

/-! ## Folded elements -/

/-- The elements of `count` rows of `stride` elements, from row `start` on and
`step` apart; none if a row lies outside. -/
def pickRows (elements : List (Option Constant)) (stride : Nat) (start step : Int) :
    Nat → Option (List (Option Constant))
  | 0 => some []
  | count + 1 =>
      if start < 0 ∨ (elements.length : Int) < (start + 1) * stride then none
      else
        (pickRows elements stride (start + step) step count).map
          (((elements.drop (start.toNat * stride)).take stride) ++ ·)

/-- The folded elements of rows of an array that has known elements. -/
def pickedRows (array : Operand) (start step : Int) (count : Nat) :
    Option (List (Option Constant)) :=
  match array.type, array.elements with
  | .comptimeArray _ dims, some elements =>
      if dims.outer = 0 then none
      else pickRows elements (elements.length / dims.outer.toNat) start step count
  | _, _ => none

/-- Rows of an array, with the values that are known of them. -/
def selectRows (array : Operand) (type : Ty) (start step : Int) (count : Nat) : Operand :=
  match pickedRows array start step count with
  | none => .typed type
  | some picked =>
      match type, picked with
      | .scalar _, [value] => { type, value }
      | _, _ => { type, elements := knownElements picked }

/-! ## Elements -/

/-- An index that is an integer literal. -/
def literalElement (ctx : Context) (array index : Resolved) (outer : Dim) :
    Analysis Operand := do
  let row := array.type.row
  if ← checkFits ctx index.position index.operand.value .usize then
    match index.operand.value.bind Constant.word? with
    | none => return .typed row
    | some value =>
        match outer with
        | .wildcard => return selectRows array.operand row value 1 1
        | .fixed length =>
            if length ≤ value then
              report index.position (.indexOutOfBounds value length)
              return .typed row
            else
              return selectRows array.operand row value 1 1
  else
    return .typed row

def element (ctx : Context) (array index : Resolved) (outer : Dim) : Analysis Operand := do
  let row := array.type.row
  if index.isUnknown then return .typed row
  match index.type.scalarTag? with
  | none => report index.position (.notAnIndex index.type)
  | some tag =>
      if tag = .comptimeInt then return ← literalElement ctx array index outer
      else if tag = .usize then pure ()
      else if tag.isFloat then report index.position (.floatIndex tag)
      else if tag.isInteger then report index.position (.signedIndex tag)
      else report index.position (.notAnIndex index.type)
  return .typed row

/-! ## Slices -/

/-- The extent of a slice: how many rows, from where and how far apart. Without a
fixed length the rest means nothing. -/
structure SliceSpan where
  length : Dim
  start : Int
  step : Int
deriving DecidableEq, Repr

/-- A slice whose length is not known. -/
def SliceSpan.unbounded : SliceSpan := ⟨.wildcard, 0, 0⟩

/-- What is known of the end of a slice. -/
def sliceEnd? (form : RangeForm) (bounds : Bounds) (outer : Dim) : Option Int :=
  if form.hasEnd then
    match bounds.stop.value.bind Constant.word? with
    | some value =>
        if value < 0 then none
        else some (if form.inclusive then Word.wrap (value + 1) else value)
    | none => none
  else
    match outer with
    | .wildcard => none
    | .fixed length => some length

def sliceStart? (form : RangeForm) (bounds : Bounds) : Option Int :=
  if form.hasStart then (bounds.start.value.bind Constant.word?).filter (0 ≤ ·) else some 0

def sliceStep? (form : RangeForm) (bounds : Bounds) : Option Int :=
  if form.hasStep then bounds.step.value.bind Constant.word? else some 1

/-- The number of rows from `start` below `stop`, counted in words. -/
def sliceCount (start stop step : Int) : Int :=
  (Word.wrap (stop - start + step - 1)).tdiv step

/-- Whether a known bound lies beyond a fixed axis. -/
def isBeyond (outer : Dim) (start stop : Int) : Bool :=
  match outer with
  | .wildcard => false
  | .fixed length => decide (length < start ∨ length < stop)

/-- The extent of a slice with known bounds, or what is wrong with it. -/
def boundedSpan (index stepPosition : Position) (outer : Dim) (start stop step : Int) :
    Except Complaint SliceSpan :=
  if step < 0 then .error (stepPosition, .negativeStep step)
  else if isBeyond outer start stop then
    .error (index, .sliceOutOfBounds start stop outer.toInt)
  else if stop ≤ start then .error (index, .emptySlice start stop)
  else .ok ⟨Dim.ofInt (sliceCount start stop step), start, step⟩

/-- The extent of a slice of an axis. Without folded bounds only the slice of
everything keeps the length of the axis. -/
def sliceSpan (index : Position) (form : RangeForm) (bounds : Option Bounds) (outer : Dim) :
    Except Complaint SliceSpan :=
  match bounds with
  | none =>
      if form.hasStart || form.hasEnd || form.hasStep then .ok .unbounded else .ok ⟨outer, 0, 1⟩
  | some bounds =>
      match sliceStart? form bounds, sliceEnd? form bounds outer, sliceStep? form bounds with
      | some start, some stop, some step =>
          boundedSpan index bounds.step.position outer start stop step
      | _, _, _ => .ok .unbounded

def sliced (node : Node) (array : Operand) (span : SliceSpan) : Analysis Operand := do
  match array.type with
  | .array element dims => return .typed (.array element (dims.withOuter span.length))
  | .comptimeArray element dims =>
      match span.length with
      | .wildcard => refuse node.position .comptimeSlice
      | .fixed length =>
          return selectRows array (.comptimeArray element (dims.withOuter length))
            span.start span.step length.toNat
  | _ => return .unknown

def slice (ctx : Context) (node : Node) (array index : Resolved) (form : RangeForm)
    (outer : Dim) : Analysis Operand := do
  if !(← validateRangeIndex index.position index.type) then return .unknown
  let fits ← match index.type, index.operand.bounds with
    | .comptimeRange _ _, some bounds => checkBoundsFit ctx bounds .usize
    | _, _ => pure true
  if !fits then return .unknown
  match sliceSpan index.position form index.operand.bounds outer with
  | .error (position, finding) => refuse position finding
  | .ok span => sliced node array.operand span

/-- `array[index]`, where the index is one element or a range of them. -/
def indexing (ctx : Context) (node : Node) (array index : Resolved) : Analysis Operand := do
  if array.isUnknown then return .unknown
  match array.type.dims? with
  | none => refuse node.position (.notIndexable array.type)
  | some dims =>
      match index.type.rangeParts? with
      | some (_, form) => slice ctx node array index form dims.outer
      | none => element ctx array index dims.outer

/-! ## Properties -/

/-- A property; arrays have a length. -/
def property (left : Operand) (name : Ident) : Analysis Operand := do
  if left.isUnknown then return .unknown
  match name.name, left.type with
  | "length", .comptimeArray _ dims =>
      return { type := .comptimeInt, value := some (.int dims.outer) }
  | "length", .array _ _ => return .typed .usize
  | _, type => refuse name.position (.noProperty type name.name)

end ComptimeTyping.Analysis
