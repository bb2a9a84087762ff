import ComptimeTyping.Diagnostic.Bag
import ComptimeTyping.Text.Quoted

/-! The machine-readable report of one unit, as indented JSON. -/

namespace ComptimeTyping.Report

/-! ## Strings -/

/-- Besides what JSON asks for, the characters that are special in HTML and in
scripts are written by number. -/
def escapeChar (char : Char) : String :=
  match char with
  | '"' => "\\\""
  | '\\' => "\\\\"
  | '\n' => "\\n"
  | '\r' => "\\r"
  | '\t' => "\\t"
  | '\x08' => "\\b"
  | '\x0c' => "\\f"
  | _ =>
      let value := char.toNat
      let isSpecial := char = '<' ∨ char = '>' ∨ char = '&' ∨ value = 0x2028 ∨ value = 0x2029
      if value < 0x20 ∨ isSpecial then "\\u" ++ Text.hexPadded 4 value else char.toString

def string (text : String) : String :=
  "\"" ++ String.join (text.toList.map escapeChar) ++ "\""

/-! ## Layout -/

/-- Fields on lines of their own, two spaces deeper than the braces. -/
def object (indent : String) (fields : List (String × String)) : String :=
  "\x7b\n"
    ++ ",\n".intercalate (fields.map fun field =>
        indent ++ "  " ++ string field.1 ++ ": " ++ field.2)
    ++ "\n" ++ indent ++ "\x7d"

def array (indent : String) (items : List String) : String :=
  if items.isEmpty then "[]"
  else
    "[\n" ++ ",\n".intercalate (items.map fun item => indent ++ "  " ++ item)
      ++ "\n" ++ indent ++ "]"

/-- A field that is left out when its text is empty. -/
def optional (name text : String) : List (String × String) :=
  if text = "" then [] else [(name, string text)]

/-! ## Items -/

/-- What a report says about one diagnostic. -/
structure Item where
  code : String
  category : String
  line : Int
  column : Int
  message : String
  help : String
  note : String
deriving DecidableEq, Repr

def Item.ofDiagnostic (diagnostic : Diagnostic) : Item :=
  { code := diagnostic.code.text, category := diagnostic.code.name,
    line := diagnostic.position.line, column := diagnostic.position.column,
    message := diagnostic.message, help := diagnostic.help, note := diagnostic.note }

def Item.render (indent : String) (item : Item) : String :=
  object indent
    ([("code", string item.code), ("category", string item.category),
        ("line", toString item.line), ("column", toString item.column),
        ("message", string item.message)]
      ++ optional "help" item.help ++ optional "note" item.note)

/-- One item for each diagnostic of a bag, sorted by position. -/
def items (bag : Bag) : List Item :=
  bag.sorted.map .ofDiagnostic

/-- The report of the unit with the given identifier. -/
def render (unit : String) (bag : Bag) : String :=
  object ""
    ([("unit", string unit)] ++ optional "file" bag.file
      ++ [("diagnostics", array "  " ((items bag).map (Item.render "    ")))]
      ++ (if bag.dropped = 0 then [] else [("dropped", toString bag.dropped)]))
    ++ "\n"

end ComptimeTyping.Report
