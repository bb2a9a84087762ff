/-! Digits and signs of number literals. -/

namespace ComptimeTyping.Literal

/-- Separators carry no meaning, wherever they stand. -/
def withoutSeparators (text : String) : List Char :=
  text.toList.filter (· != '_')

/-- The value of a digit in a base of at most sixteen. -/
def digit? (base : Nat) (char : Char) : Option Nat :=
  let value? : Option Nat :=
    if '0' ≤ char ∧ char ≤ '9' then some (char.toNat - '0'.toNat)
    else if 'a' ≤ char ∧ char ≤ 'f' then some (char.toNat - 'a'.toNat + 10)
    else if 'A' ≤ char ∧ char ≤ 'F' then some (char.toNat - 'A'.toNat + 10)
    else none
  value?.filter (· < base)

/-- The positional value of digits, most significant first. -/
def positional (base : Nat) (digits : List Nat) : Nat :=
  digits.foldl (fun value digit => value * base + digit) 0

/-- Split off an optional sign. -/
def splitSign : List Char → Bool × List Char
  | '-' :: rest => (true, rest)
  | '+' :: rest => (false, rest)
  | rest => (false, rest)

/-- Read the longest run of decimal digits. -/
def decimalRun (chars : List Char) : List Nat × List Char :=
  (chars.takeWhile Char.isDigit |>.filterMap (digit? 10), chars.dropWhile Char.isDigit)

end ComptimeTyping.Literal
