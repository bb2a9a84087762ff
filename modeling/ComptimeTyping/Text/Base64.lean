import ComptimeTyping.Text.Octets

/-! Bytes in base 64: four digits for three bytes. -/

namespace ComptimeTyping.Text.Base64

/-- The value of a digit. -/
def digit? (char : Char) : Option Nat :=
  if char.isUpper then some (char.toNat - 'A'.toNat)
  else if char.isLower then some (char.toNat - 'a'.toNat + 26)
  else if char.isDigit then some (char.toNat - '0'.toNat + 52)
  else if char == '+' then some 62
  else if char == '/' then some 63
  else none

/-- The three bytes of four digits. -/
def bytes (first second third fourth : Nat) : Octets :=
  [.ofNat (first * 4 + second / 16), .ofNat (second % 16 * 16 + third / 4),
    .ofNat (third % 4 * 64 + fourth)]

/-- Decode groups of four digits. The last group may end with one or two pads, and
what its last digit says beyond whole bytes is dropped. -/
def decodeGroups? : List Char → Option Octets
  | [] => some []
  | [first, second, '=', '='] => do
      some ((bytes (← digit? first) (← digit? second) 0 0).take 1)
  | [first, second, third, '='] => do
      some ((bytes (← digit? first) (← digit? second) (← digit? third) 0).take 2)
  | first :: second :: third :: fourth :: rest => do
      let group := bytes (← digit? first) (← digit? second) (← digit? third) (← digit? fourth)
      some (group ++ (← decodeGroups? rest))
  | _ => none

/-- The bytes that a text spells. Line breaks mean nothing. -/
def decode? (text : String) : Option Octets :=
  decodeGroups? (text.toList.filter fun char => char != '\n' && char != '\r')

end ComptimeTyping.Text.Base64
