import ComptimeTyping.Literal.Integer
import ComptimeTyping.Literal.Float
import ComptimeTyping.Text.Base64
import ComptimeTyping.Yaml.Node

/-! What the scalars of YAML mean. -/

namespace ComptimeTyping.Yaml

/-! ## Times -/

namespace Time

def shortNumber? (limit : Nat) (chars : List Char) : Option (Nat × List Char) := do
  let digits := (chars.take 2).takeWhile Char.isDigit
  let value := Literal.positional 10 (digits.filterMap (Literal.digit? 10))
  if digits.isEmpty || limit ≤ value then none
  else some (value, chars.drop digits.length)

def expect? (char : Char) : List Char → Option (List Char)
  | first :: rest => if first = char then some rest else none
  | [] => none

def isLeap (year : Nat) : Bool :=
  year % 4 == 0 && (year % 100 != 0 || year % 400 == 0)

def daysIn (year month : Nat) : Nat :=
  if month = 2 then if isLeap year then 29 else 28
  else if [4, 6, 9, 11].contains month then 30
  else 31

def date? (chars : List Char) : Option (List Char) := do
  let (year, rest) := Literal.decimalRun chars
  if year.length ≠ 4 then none
  let (month, rest) ← shortNumber? 13 (← expect? '-' rest)
  let (day, rest) ← shortNumber? 32 (← expect? '-' rest)
  if 1 ≤ month && 1 ≤ day && day ≤ daysIn (Literal.positional 10 year) month then some rest
  else none

def clock? (chars : List Char) : Option (List Char) := do
  let (_, rest) ← shortNumber? 24 chars
  let (_, rest) ← shortNumber? 60 (← expect? ':' rest)
  let (_, rest) ← shortNumber? 60 (← expect? ':' rest)
  match rest with
  | point :: digit :: more =>
      if (point == '.' || point == ',') && digit.isDigit then some (more.dropWhile Char.isDigit)
      else some rest
  | _ => some rest

def isZone : List Char → Bool
  | ['Z'] => true
  | [sign, h, hour, ':', m, minute] =>
      (sign == '+' || sign == '-')
        && ((shortNumber? 25 [h, hour]).any (·.2.isEmpty))
        && ((shortNumber? 61 [m, minute]).any (·.2.isEmpty))
  | _ => false

def isTimestamp (text : String) : Bool :=
  match date? text.toList with
  | none => false
  | some [] => true
  | some (mark :: rest) =>
      if mark == 'T' || mark == 't' then (clock? rest).any isZone
      else if mark == ' ' then (clock? (rest.dropWhile (· == ' '))).any (·.isEmpty)
      else false

end Time

/-! ## Numbers -/

/-- The power of ten that a number ends with. Digits behind the fifth one say nothing
more. -/
def exponent? : List Char → Option Int
  | [] => some 0
  | mark :: rest =>
      let (negative, body) := Literal.splitSign rest
      let (digits, rest) := Literal.decimalRun body
      let size : Nat := digits.foldl (fun value digit =>
        if value < 10000 then value * 10 + digit else value) 0
      if (mark != 'e' && mark != 'E') || digits.isEmpty || !rest.isEmpty then none
      else some (if negative then -size else size)

def decimal? (chars : List Char) : Option (Bool × Nat × Int) := do
  let (negative, body) := Literal.splitSign chars
  let parts := Literal.readSignificand body
  if parts.whole.isEmpty && parts.fraction.isEmpty then none
  let exponent ← exponent? parts.rest
  some (negative, Literal.positional 10 (parts.whole ++ parts.fraction),
    exponent - parts.fraction.length)

def separatesDigits (afterDigit : Bool) : List Char → Bool
  | [] => true
  | char :: rest =>
      if char == '_' then
        afterDigit && rest.head?.any Char.isDigit && separatesDigits false rest
      else
        separatesDigits char.isDigit rest

/-- Round to the 53 bits of a double; a number that is too large for one has no
value. Numbers below every double may keep a value, which is less than one. -/
def double? (negative : Bool) (significand : Nat) (ten : Int) : Option BigFloat :=
  let places := (Nat.toDigits 10 significand).length + ten
  if significand = 0 || places < -400 then some (BigFloat.zero negative)
  else if 400 < places then none
  else
    let value :=
      if ten < 0 then BigFloat.roundQuotient 53 negative significand 0 (Nat.pow 10 ten.natAbs) 0
      else BigFloat.roundTo 53 negative (significand * Nat.pow 10 ten.natAbs) 0
    if value.isWithin (Nat.pow 2 1024 - 1) then some value else none

/-! ## Meanings -/

inductive Meaning where
  | null
  | boolean
  | integer (value : Int)
  | float (value : Option BigFloat)
  | timestamp
  | text
  | binary (octets : Text.Octets)
  | other (tag : String)
deriving DecidableEq, Repr

namespace Meaning

def tag : Meaning → String
  | .null => "!!null"
  | .boolean => "!!bool"
  | .integer _ => "!!int"
  | .float _ => "!!float"
  | .timestamp => "!!timestamp"
  | .text => "!!str"
  | .binary _ => "!!binary"
  | .other tag => tag

def named? (text : String) : Option Meaning :=
  if ["", "~", "null", "Null", "NULL"].contains text then some .null
  else if ["true", "True", "TRUE", "false", "False", "FALSE"].contains text then some .boolean
  else if [".nan", ".NaN", ".NAN"].contains text then some (.float none)
  else if [".inf", ".Inf", ".INF", "+.inf", "+.Inf", "+.INF"].contains text then
    some (.float (some (.infinite false)))
  else if ["-.inf", "-.Inf", "-.INF"].contains text then some (.float (some (.infinite true)))
  else none

def integer? (text : String) : Option Int := do
  let value ← Literal.integer? text
  let isSigned := text.startsWith "+" || text.startsWith "-"
  if Word.holds value || (!isSigned && value < 0x10000000000000000) then some value else none

def innerSigned? (chars : List Char) : Option Int :=
  let signed? (base : Nat) (chars : List Char) : Option Int :=
    let (negative, body) := Literal.splitSign chars
    (Literal.digits? base body).bind fun size =>
      Word.ofInt? (if negative then -size else size)
  match chars with
  | '0' :: 'b' :: rest => signed? 2 rest
  | '0' :: 'o' :: rest => signed? 8 rest
  | _ => none

def float? (chars : List Char) : Option Meaning := do
  let (negative, significand, ten) ← decimal? chars
  let value ← double? negative significand ten
  some (.float value)

/-- The meaning of a text as what it looks like. Times are looked for only on
demand. A number that begins with its point has separators only between digits. -/
def ofText (times : Bool) (text : String) : Meaning :=
  match named? text, text.toList with
  | some meaning, _ => meaning
  | none, [] => .text
  | none, first :: rest =>
      let plain := Literal.withoutSeparators text
      if first == '.' then
        if separatesDigits false rest then (float? plain).getD .text else .text
      else if first.isDigit || first == '+' || first == '-' then
        if times && Time.isTimestamp text then .timestamp
        else
          match integer? text with
          | some value => .integer value
          | none => (float? plain).getD (((innerSigned? plain).map .integer).getD .text)
      else .text

def lookTags : List String :=
  ["!!bool", "!!int", "!!float", "!!null", "!!timestamp"]

/-- The meaning of a scalar with a tag. What it looks like has to agree, except that an
integer is a number. Tags that say nothing about the look leave a text. -/
def ofTagged (tag text : String) : Except Error Meaning :=
  if tag = "!!str" then .ok .text
  else if tag = "!!binary" then
    match Text.Base64.decode? text with
    | some octets => .ok (.binary octets)
    | none => .error ⟨.badBinary, none⟩
  else if tag ∉ lookTags then .ok (.other tag)
  else
    let meaning := ofText (tag = "!!timestamp") text
    if meaning.tag = tag then .ok meaning
    else
      match meaning with
      | .integer value =>
          if tag = "!!float" && Word.holds value then
            .ok (.float (some (BigFloat.roundTo 53 (decide (value < 0)) value.natAbs 0)))
          else
            .error ⟨.mistagged meaning.tag text tag, none⟩
      | _ => .error ⟨.mistagged meaning.tag text tag, none⟩

def mergeText : String := "<<"

def mergeTag : String := "!!merge"

def ofScalar (tagging : Tagging) (text : String) : Except Error Meaning :=
  match tagging with
  | .plain => .ok (if text = mergeText then .other mergeTag else ofText true text)
  | .quoted => .ok .text
  | .tagged tag => ofTagged tag text

def octets (text : String) : Meaning → Text.Octets
  | .binary octets => octets
  | _ => .ofString text

/-- The signed 64-bit word of a number, without its fraction. The least word also
stands for every number below it and for the number just above the greatest one. -/
def word? : Meaning → Option Int
  | .integer value => Word.ofInt? value
  | .float (some (.infinite negative)) => if negative then some Word.least else none
  | .float (some value) => do
      let whole ← value.truncate?
      if Word.holds whole then some whole
      else if whole ≤ Word.greatest + 1 then some Word.least
      else none
  | _ => none

end Meaning

end ComptimeTyping.Yaml
