/-! Places in a source text. -/

namespace ComptimeTyping

structure Position where
  line : Int
  column : Int
deriving DecidableEq, Repr

namespace Position

/-- The place of something that was never written down. -/
def nowhere : Position := ⟨0, 0⟩

def render (position : Position) : String :=
  if position = nowhere then "?"
  else toString position.line ++ ":" ++ toString position.column

/-- Earlier lines first, and within a line earlier columns. -/
def le (left right : Position) : Bool :=
  left.line < right.line || (left.line == right.line && left.column ≤ right.column)

end Position

end ComptimeTyping
