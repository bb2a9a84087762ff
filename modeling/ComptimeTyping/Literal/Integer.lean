import ComptimeTyping.Literal.Digits

/-! Integer literals: an optional sign and digits. The digits are decimal unless
`0x`, `0o`, `0b` or a leading `0` says otherwise. -/

namespace ComptimeTyping.Literal

/-- One or more digits of one base, and nothing else. -/
def digits? (base : Nat) (chars : List Char) : Option Nat :=
  if chars.isEmpty then none else (chars.mapM (digit? base)).map (positional base)

/-- The digits behind the sign, with the mark of their base. -/
def unsigned? : List Char → Option Nat
  | ['0'] => some 0
  | '0' :: mark :: rest =>
      if mark = 'x' ∨ mark = 'X' then digits? 16 rest
      else if mark = 'o' ∨ mark = 'O' then digits? 8 rest
      else if mark = 'b' ∨ mark = 'B' then digits? 2 rest
      else digits? 8 (mark :: rest)
  | chars => digits? 10 chars

def integer? (text : String) : Option Int :=
  let (negative, body) := splitSign (withoutSeparators text)
  (unsigned? body).map fun size => if negative then -size else size

end ComptimeTyping.Literal
