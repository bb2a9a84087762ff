import ComptimeTyping.Diagnostic.Code
import ComptimeTyping.Position

/-! One reported problem. -/

namespace ComptimeTyping

structure Diagnostic where
  code : Code
  position : Position
  message : String
  /-- What to write instead; empty when there is no advice. -/
  help : String := ""
  /-- Why the rule holds; empty when there is no more to say. -/
  note : String := ""
  file : String := ""
deriving DecidableEq, Repr

namespace Diagnostic

/-- What makes two reports the same. -/
def key (diagnostic : Diagnostic) : String :=
  toString diagnostic.position.line ++ ":" ++ toString diagnostic.position.column ++ ":"
    ++ diagnostic.code.text ++ ":" ++ diagnostic.message

/-- The diagnostic on a line, with its advice on lines below. -/
def text (diagnostic : Diagnostic) : String :=
  (if diagnostic.file = "" then "" else diagnostic.file ++ ":")
    ++ diagnostic.position.render ++ ": error [" ++ diagnostic.code.text ++ "]: "
    ++ diagnostic.message
    ++ (if diagnostic.help = "" then "" else "\n  help: " ++ diagnostic.help)
    ++ (if diagnostic.note = "" then "" else "\n  note: " ++ diagnostic.note)

end Diagnostic

end ComptimeTyping
