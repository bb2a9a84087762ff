import ComptimeTyping.Text.Quoted

/-! Byte strings: text that need not be UTF-8. -/

namespace ComptimeTyping.Text

abbrev Octets := List UInt8

namespace Octets

def ofString (text : String) : Octets :=
  text.toUTF8.toList

/-! ## Characters -/

/-- How many bytes the character has that begins with a byte, or zero if none does. -/
def sequenceLength (lead : UInt8) : Nat :=
  if lead < 0x80 then 1
  else if lead < 0xc0 then 0
  else if lead < 0xe0 then 2
  else if lead < 0xf0 then 3
  else if lead < 0xf8 then 4
  else 0

/-- Whether a byte goes on with a character. -/
def isContinuation (byte : UInt8) : Bool :=
  0x80 ≤ byte && byte < 0xc0

/-- The bits of a first byte that belong to the code point. -/
def leadBits (lead : UInt8) : Nat :=
  let value := lead.toNat
  match sequenceLength lead with
  | 2 => value - 0xc0
  | 3 => value - 0xe0
  | 4 => value - 0xf0
  | _ => value

/-- The character at the start of a byte string and the number of bytes behind its
first one. Only the shortest spelling of a character counts. -/
def character? (lead : UInt8) (rest : Octets) : Option (Char × Nat) :=
  let size := sequenceLength lead
  let tail := rest.take (size - 1)
  let code := tail.foldl (fun code byte => code * 64 + (byte.toNat - 0x80)) (leadBits lead)
  let char := Char.ofNat code
  if size = 0 || tail.length + 1 ≠ size || !tail.all isContinuation then none
  else if code.isValidChar && char.utf8Size = size then some (char, size - 1)
  else none

/-- A part of a byte string: a character, or a byte that belongs to none. -/
inductive Part where
  | char (char : Char)
  | stray (byte : UInt8)
deriving DecidableEq, Repr

/-- The characters of a byte string, and the bytes between them. -/
def parts : Octets → List Part
  | [] => []
  | lead :: rest =>
      match character? lead rest with
      | some (char, more) => .char char :: parts (rest.drop more)
      | none => .stray lead :: parts rest
termination_by octets => octets.length
decreasing_by
  all_goals simp only [List.length_drop, List.length_cons]
  all_goals omega

/-! ## Showing -/

/-- The text, with a replacement character for each stray byte. -/
def text (octets : Octets) : String :=
  String.ofList (octets.parts.map fun
    | .char char => char
    | .stray _ => '\ufffd')

/-- The text in double quotes, with stray bytes by number. -/
def quoted (octets : Octets) : String :=
  let inner := octets.parts.map fun
    | .char char => escapeChar '"' char
    | .stray byte => "\\x" ++ hexPadded 2 byte.toNat
  "\"" ++ String.join inner ++ "\""

end Octets

end ComptimeTyping.Text
