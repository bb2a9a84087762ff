/-! Scalar type tags: the concrete value types, the two comptime number types
of literals whose representation is still open, and `unknown` for an expression
that was already reported. -/

namespace ComptimeTyping

inductive Tag where
  | unknown
  | i32
  | i64
  | f32
  | f64
  | usize
  | string
  | bool
  | void
  | comptimeInt
  | comptimeFloat
deriving DecidableEq, Repr

namespace Tag

/-- Every tag, in declaration order. -/
def all : List Tag :=
  [.unknown, .i32, .i64, .f32, .f64, .usize, .string, .bool, .void,
    .comptimeInt, .comptimeFloat]

/-! ## Spelling -/

def name : Tag → String
  | .unknown => "unknown"
  | .i32 => "i32"
  | .i64 => "i64"
  | .f32 => "f32"
  | .f64 => "f64"
  | .usize => "usize"
  | .string => "string"
  | .bool => "bool"
  | .void => "void"
  | .comptimeInt => "comptime_int"
  | .comptimeFloat => "comptime_float"

/-- Read any tag back from its name. -/
def ofName? (text : String) : Option Tag :=
  all.find? (·.name == text)

/-- Whether a tag has a surface spelling: a program can name the concrete types
and nothing else. -/
def isSpellable : Tag → Bool
  | .unknown | .comptimeInt | .comptimeFloat => false
  | _ => true

/-- The tag that a type name in a program stands for. -/
def parse? (text : String) : Option Tag :=
  (ofName? text).filter isSpellable

/-! ## Classes -/

def isComptime : Tag → Bool
  | .comptimeInt | .comptimeFloat => true
  | _ => false

def isInteger : Tag → Bool
  | .i32 | .i64 | .usize | .comptimeInt => true
  | _ => false

def isFloat : Tag → Bool
  | .f32 | .f64 | .comptimeFloat => true
  | _ => false

def isNumeric (tag : Tag) : Bool :=
  tag.isInteger || tag.isFloat

/-- A concrete tag has a fixed representation at run time. -/
def isConcrete (tag : Tag) : Bool :=
  tag != .unknown && !tag.isComptime

/-! ## Combining tags -/

/-- Whether a comptime tag takes the type `target` without a marker: an integer
literal becomes any concrete number, a float literal only a concrete float. -/
def canAdapt (source target : Tag) : Bool :=
  match source with
  | .comptimeInt => target.isNumeric && target.isConcrete
  | .comptimeFloat => target.isFloat && target.isConcrete
  | _ => false

/-- The comptime tag of a combination: one float makes the result a float. -/
def promote (left right : Tag) : Tag :=
  if left = .comptimeFloat ∨ right = .comptimeFloat then .comptimeFloat else .comptimeInt

@[simp] theorem mem_all (tag : Tag) : tag ∈ all := by
  cases tag <;> decide

end Tag

end ComptimeTyping
