import ComptimeTyping.Text.Printable

/-! Quoted text: a delimiter on both sides, and an escape for the delimiter, for
the backslash and for every character that is not printable. -/

namespace ComptimeTyping.Text

/-- Lower-case hexadecimal digits, padded with zeros to `width`. -/
def hexPadded (width value : Nat) : String :=
  let digits := Nat.toDigits 16 value
  String.ofList (List.replicate (width - digits.length) '0' ++ digits)

/-- The short escapes. -/
def shortEscape? (char : Char) : Option String :=
  match char.toNat with
  | 7 => some "\\a"
  | 8 => some "\\b"
  | 9 => some "\\t"
  | 10 => some "\\n"
  | 11 => some "\\v"
  | 12 => some "\\f"
  | 13 => some "\\r"
  | _ => none

/-- A code point by number: the shortest of the three fixed widths that holds it. -/
def numericEscape (char : Char) : String :=
  let value := char.toNat
  if value < 0x80 then "\\x" ++ hexPadded 2 value
  else if value < 0x10000 then "\\u" ++ hexPadded 4 value
  else "\\U" ++ hexPadded 8 value

def escapeChar (delimiter char : Char) : String :=
  if char = delimiter ∨ char = '\\' then String.ofList ['\\', char]
  else if isPrintable char then char.toString
  else (shortEscape? char).getD (numericEscape char)

def delimited (delimiter : Char) (text : String) : String :=
  delimiter.toString ++ String.join (text.toList.map (escapeChar delimiter))
    ++ delimiter.toString

/-- Text in double quotes. -/
def quoted (text : String) : String :=
  delimited '"' text

/-- One character in single quotes. -/
def quotedChar (char : Char) : String :=
  delimited '\'' char.toString

end ComptimeTyping.Text
