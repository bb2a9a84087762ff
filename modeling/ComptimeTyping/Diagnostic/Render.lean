import ComptimeTyping.Diagnostic.Basic

/-! Diagnostics as lines for a terminal. -/

namespace ComptimeTyping.Render

/-! ## Styles -/

def escape (code : String) : String := "\x1b[" ++ code ++ "m"

def reset : String := escape "0"
def bold : String := escape "1"
def red : String := escape "31"
def blue : String := escape "34"
def cyan : String := escape "36"
def yellow : String := escape "33"

def paint (colored : Bool) (style text : String) : String :=
  if colored then style ++ text ++ reset else text

/-! ## Lines -/

/-- The lines of one diagnostic. -/
def lines (colored : Bool) (diagnostic : Diagnostic) : List String :=
  let file := if diagnostic.file = "" then "<unit>" else diagnostic.file
  [paint colored (bold ++ red) ("error[" ++ diagnostic.code.text ++ "]") ++ ": "
      ++ paint colored bold diagnostic.message ++ "\n",
    "  " ++ paint colored blue "-->" ++ " " ++ file ++ ":" ++ diagnostic.position.render ++ "\n"]
    ++ (if diagnostic.help = "" then []
      else ["  = " ++ paint colored cyan "help:" ++ " " ++ diagnostic.help ++ "\n"])
    ++ (if diagnostic.note = "" then []
      else ["  = " ++ paint colored yellow "note:" ++ " " ++ diagnostic.note ++ "\n"])

/-- Every diagnostic, then a line that counts them if there are any. -/
def allLines (colored : Bool) (diagnostics : List Diagnostic) : List String :=
  diagnostics.flatMap (lines colored)
    ++ (if diagnostics.isEmpty then []
      else
        [paint colored (bold ++ red)
          ("analysis failed with " ++ toString diagnostics.length ++ " error(s)") ++ "\n"])

def render (colored : Bool) (diagnostics : List Diagnostic) : String :=
  String.join (allLines colored diagnostics)

/-- What reaches an output that takes `accepted` lines and refuses the next, and
whether one was refused. -/
def renderLimited (accepted : Nat) (colored : Bool) (diagnostics : List Diagnostic) :
    String × Bool :=
  let output := allLines colored diagnostics
  (String.join (output.take accepted), decide (accepted < output.length))

end ComptimeTyping.Render
