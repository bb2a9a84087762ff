import ComptimeTyping.Text.Octets
import ComptimeTyping.Yaml.Scalar

/-! Tokens of YAML. -/

namespace ComptimeTyping.Yaml

open CursorM (fail need skip)

inductive TokenKind where
  | streamStart
  | streamEnd
  | version (major minor : Nat)
  | tagHandle (handle expansion : String)
  | documentStart
  | documentEnd
  | blockSequenceStart
  | blockMappingStart
  | blockEnd
  | flowSequenceStart
  | flowSequenceEnd
  | flowMappingStart
  | flowMappingEnd
  | blockEntry
  | flowEntry
  | key
  | value
  | alias (name : String)
  | anchor (name : String)
  /-- A tag is its suffix, behind what its handle stands for unless that is empty. -/
  | tag (handle suffix : String)
  | scalar (text : String) (isPlain : Bool)
deriving DecidableEq, Repr

structure Token where
  kind : TokenKind
  start : Mark
deriving DecidableEq, Repr

/-! ## Names -/

def readAnchor : CursorM String := do
  let start := (← get).mark
  skip 1
  let name ← CursorM.takeWhile isWord
  let cursor ← get
  let ends := endsWord cursor.rest
    || cursor.next?.any ['?', ':', ',', ']', '\x7d', '%', '@', '\x60'].contains
  if name ≠ "" && ends then pure name else fail .badAnchor start

/-! ## Tags -/

def isTagChar (char : Char) : Bool :=
  isWord char
    || [';', '/', '?', ':', '@', '&', '=', '+', '$', ',', '.', '!', '~', '*', '\x27',
        '(', ')', '[', ']'].contains char

def readTagOctet (start : Mark) : CursorM UInt8 := do
  need 3
  match (← get).rest with
  | '%' :: first :: second :: _ =>
      match Literal.digit? 16 first, Literal.digit? 16 second with
      | some high, some low =>
          skip 3
          pure (.ofNat (high * 16 + low))
      | _, _ => fail .noTagOctet start
  | _ => fail .noTagOctet start

def readTagTail (start : Mark) : (count : Nat) → CursorM Text.Octets
  | 0 => pure []
  | count + 1 => do
      let octet ← readTagOctet start
      if !Text.Octets.isContinuation octet then fail .badTagTail start
      pure (octet :: (← readTagTail start count))

def readTagEscape (start : Mark) : CursorM String := do
  let lead ← readTagOctet start
  let size := Text.Octets.sequenceLength lead
  if size = 0 then fail .badTagLead start
  let tail ← readTagTail start (size - 1)
  pure (Text.Octets.text (lead :: tail))

def readTagNameFrom (start : Mark) : (fuel : Nat) → String → CursorM String
  | 0, name => pure name
  | fuel + 1, name => do
      need 1
      match (← get).next? with
      | some char =>
          if char == '%' then
            let text ← readTagEscape start
            readTagNameFrom start fuel (name ++ text)
          else if isTagChar char then
            skip 1
            readTagNameFrom start fuel (name.push char)
          else
            pure name
      | none => pure name

def readTagName (start : Mark) : CursorM String := do
  readTagNameFrom start (← get).bound ""

def readTagSuffix (start : Mark) : CursorM String := do
  let name ← readTagName start
  if name = "" then fail .noTag start
  pure name

def readTagHandle (start : Mark) : CursorM String := do
  need 1
  if (← get).next? != some '!' then fail .noTagMark start
  skip 1
  let word ← CursorM.takeWhile isWord
  if (← get).next? == some '!' then
    skip 1
    pure ("!" ++ word ++ "!")
  else
    pure ("!" ++ word)

def isTagHandle (text : String) : Bool :=
  text != "!" && text.endsWith "!"

/-- Read a tag in one of the forms `!<name>`, `!handle!name`, `!name` and `!`. -/
def readTag : CursorM TokenKind := do
  let start := (← get).mark
  need 2
  let kind ←
    if (← get).rest.tail.head? == some '<' then do
      skip 2
      let name ← readTagSuffix start
      if (← get).next? != some '>' then fail .unclosedTag start
      skip 1
      pure (TokenKind.tag "" name)
    else do
      let handle ← readTagHandle start
      if isTagHandle handle then
        pure (.tag handle (← readTagSuffix start))
      else
        let name := (handle.drop 1).toString ++ (← readTagName start)
        pure (if name = "" then .tag "" "!" else .tag "!" name)
  need 1
  if endsWord (← get).rest then pure kind else fail .unfinishedTag start

def shortTag (name : String) : String :=
  let standard := "tag:yaml.org,2002:"
  if name.startsWith standard then "!!" ++ name.drop standard.length else name

/-! ## Directives -/

def readVersionNumber (start : Mark) : CursorM Nat := do
  let digits ← CursorM.takeWhile Char.isDigit
  if digits = "" then fail .noVersion start
  if 2 < digits.length then fail .longVersion start
  pure (Literal.positional 10 (digits.toList.filterMap (Literal.digit? 10)))

def readVersion (start : Mark) : CursorM TokenKind := do
  let major ← readVersionNumber start
  if (← get).next? != some '.' then fail .noVersionPoint start
  skip 1
  let minor ← readVersionNumber start
  pure (.version major minor)

def readTagExpansion (start : Mark) : CursorM TokenKind := do
  let handle ← readTagHandle start
  if handle != "!" && !isTagHandle handle then fail .noTagMark start
  need 1
  if !(← get).seesBlank then fail .noTagGap start
  CursorM.skipWhile isBlank
  let expansion ← readTagSuffix start
  need 1
  if endsWord (← get).rest then pure (.tagHandle handle expansion)
  else fail .unfinishedTag start

def readDirective : CursorM TokenKind := do
  let start := (← get).mark
  skip 1
  let name ← CursorM.takeWhile isWord
  if name = "" then fail .noDirectiveName start
  if !endsWord (← get).rest then fail .badDirectiveName start
  if name != "YAML" && name != "TAG" then fail .unknownDirective start
  CursorM.skipWhile isBlank
  let kind ← if name = "YAML" then readVersion start else readTagExpansion start
  readLineEnd start
  pure kind

end ComptimeTyping.Yaml
