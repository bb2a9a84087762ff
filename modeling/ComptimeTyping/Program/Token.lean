import ComptimeTyping.Position

/-! Tokens, and the identity of the nodes built from them. -/

namespace ComptimeTyping

structure Token where
  kind : String
  lexeme : String
  position : Position
deriving DecidableEq, Repr

/-- The token of a node that has none. -/
def Token.absent : Token := ⟨"", "", .nowhere⟩

/-- A node of a program: its identity, which no other node of the program has,
and the token that it is reported at. -/
structure Node where
  id : Nat
  token : Token
deriving DecidableEq, Repr

namespace Node

def position (node : Node) : Position :=
  node.token.position

/-- Stands in for a node that is missing. -/
def absent : Node := ⟨0, Token.absent⟩

end Node

/-- A name where it is written. -/
structure Ident where
  node : Node
  name : String
deriving DecidableEq, Repr

def Ident.position (ident : Ident) : Position :=
  ident.node.position

end ComptimeTyping
