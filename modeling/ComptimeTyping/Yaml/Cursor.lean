import ComptimeTyping.Yaml.Error

/-! Cursors into YAML text. The text is taken in blocks, and what is wrong with a
block shows when it is taken. -/

namespace ComptimeTyping.Yaml

/-! ## Characters -/

def isBlank (char : Char) : Bool :=
  char == ' ' || char == '\t'

def isShortBreak (char : Char) : Bool :=
  char == '\n' || char == '\r'

def isBreak (char : Char) : Bool :=
  isShortBreak char || char == '\u0085' || char == '\u2028' || char == '\u2029'

def isWord (char : Char) : Bool :=
  char.isAlphanum || char == '_' || char == '-'

def isAllowed (char : Char) : Bool :=
  let value := char.toNat
  char == '\t' || char == '\n' || char == '\r' || (0x20 ≤ value && value ≤ 0x7e)
    || value == 0x85 || (0xa0 ≤ value && value ≤ 0xfffd) || 0x10000 ≤ value

def byteOrderMark : Char := '\ufeff'

def endsWord : List Char → Bool
  | [] => true
  | char :: _ => isBlank char || isBreak char

/-! ## Blocks -/

def blockSize : Nat := 512

structure Supply where
  blocks : List Nat := []
  spoiled : Option Nat := none
deriving DecidableEq, Repr

namespace Supply

def divide (room count : Nat) : List Char → Supply
  | [] => { blocks := if count = 0 then [] else [count] }
  | char :: rest =>
      let size := char.utf8Size
      if size ≤ room then
        if isAllowed char then divide (room - size) (count + 1) rest
        else { spoiled := some count }
      else
        let more :=
          if isAllowed char then divide (blockSize - size) 1 rest else { spoiled := some 0 }
        { more with blocks := count :: more.blocks }

/-- Take blocks until there are `count` characters, of which there are `ready`. The
end of the text counts as a character each time it is reached. -/
def draw (count ready : Nat) (spoiled : Option Nat) : List Nat → Option (Nat × Supply)
  | [] => if spoiled.isSome then none else some (ready + 1, {})
  | block :: blocks =>
      if count ≤ ready + block then some (ready + block, ⟨blocks, spoiled⟩)
      else draw count (ready + block) spoiled blocks

end Supply

/-! ## Cursors -/

structure Cursor where
  rest : List Char
  mark : Mark := {}
  supply : Supply
  ready : Nat := 0
  atByteOrderMark : Bool := false
  isBroken : Bool := false
  /-- More steps than any loop over the text takes. -/
  bound : Nat
deriving DecidableEq, Repr

namespace Cursor

def ofText (text : String) : Cursor :=
  let start (chars : List Char) (room : Nat) : Cursor :=
    { rest := chars, supply := .divide room 0 chars, bound := chars.length + 4 }
  match text.toList with
  | first :: rest =>
      if first = byteOrderMark then start rest (blockSize - first.utf8Size)
      else start (first :: rest) blockSize
  | [] => start [] blockSize

def isEnd (cursor : Cursor) : Bool :=
  cursor.rest.isEmpty

def next? (cursor : Cursor) : Option Char :=
  cursor.rest.head?

def seesBlank (cursor : Cursor) : Bool :=
  cursor.next?.any isBlank

def seesBreak (cursor : Cursor) : Bool :=
  cursor.next?.any isBreak

def isAtDocumentMark (cursor : Cursor) : Bool :=
  cursor.mark.column == 0 && endsWord (cursor.rest.drop 3)
    && (cursor.rest.take 3 == ['-', '-', '-'] || cursor.rest.take 3 == ['.', '.', '.'])

def skip (cursor : Cursor) (count : Nat) : Cursor :=
  { cursor with
    rest := cursor.rest.drop count,
    ready := cursor.ready - count,
    mark := { cursor.mark with
      column := cursor.mark.column + count, index := cursor.mark.index + count } }

def newLine (cursor : Cursor) (count : Nat) : Cursor :=
  { cursor with
    rest := cursor.rest.drop count,
    ready := cursor.ready - count,
    mark := ⟨cursor.mark.line + 1, 0, cursor.mark.index + count⟩ }

def readBreak (cursor : Cursor) : String × Cursor :=
  match cursor.rest with
  | '\r' :: '\n' :: _ => ("\n", cursor.newLine 2)
  | '\u2028' :: _ => ("\u2028", cursor.newLine 1)
  | '\u2029' :: _ => ("\u2029", cursor.newLine 1)
  | char :: _ => if isBreak char then ("\n", cursor.newLine 1) else ("", cursor)
  | [] => ("", cursor)

/-- Take blocks until `count` characters are ready, unless one of them cannot be
taken. Of that one only the characters that are allowed become ready. -/
def refill (cursor : Cursor) (count : Nat) : Cursor :=
  let blocks := cursor.supply.blocks
  let spoiled := cursor.supply.spoiled
  let cursor := { cursor with atByteOrderMark := cursor.next? == some byteOrderMark }
  match Supply.draw count cursor.ready spoiled blocks with
  | some (ready, supply) => { cursor with ready, supply }
  | none =>
      { cursor with
        ready := blocks.foldl (· + ·) cursor.ready + spoiled.getD 0,
        supply := { spoiled := some 0 },
        isBroken := true }

end Cursor

/-! ## Reading -/

abbrev CursorM := StateT Cursor (Except Error)

namespace CursorM

def fail {α : Type} (problem : Problem) (start : Mark) : CursorM α := do
  throw (.lexical problem start (← get).mark)

def reach (count : Nat) : CursorM Bool := do
  let cursor ← get
  if count ≤ cursor.ready then pure true
  else
    let cursor := cursor.refill count
    set cursor
    pure !cursor.isBroken

def need (count : Nat) : CursorM Unit := do
  if !(← reach count) then throw ⟨.controlCharacter, none⟩

def skip (count : Nat) : CursorM Unit :=
  modify (·.skip count)

def readBreak : CursorM String := do
  need 2
  let (text, cursor) := (← get).readBreak
  set cursor
  pure text

/-! ### Runs of characters -/

def takeWhileFrom (test : Char → Bool) : (fuel : Nat) → String → CursorM String
  | 0, text => pure text
  | fuel + 1, text => do
      match (← get).next? with
      | some char =>
          if test char then
            skip 1
            need 1
            takeWhileFrom test fuel (text.push char)
          else
            pure text
      | none => pure text

def takeWhile (test : Char → Bool) : CursorM String := do
  need 1
  takeWhileFrom test (← get).bound ""

def skipWhile (test : Char → Bool) : CursorM Unit := do
  let _ ← takeWhile test

def takeLine : CursorM String :=
  takeWhile fun char => !isBreak char

def skipLine : CursorM Unit :=
  skipWhile fun char => !isBreak char

/-! ### Comments -/

def commentReach : Nat := 512

/-- The distance of a comment with only characters in front of it that pass a test.
`ahead` is what stands at `distance`. -/
def findComment (test : Char → Bool) : (steps distance : Nat) → List Char → CursorM (Option Nat)
  | 0, _, _ => pure none
  | steps + 1, distance, ahead => do
      if !(← reach (distance + 1)) then return none
      match ahead with
      | [] => pure none
      | char :: ahead =>
          if test char then findComment test steps (distance + 1) ahead
          else if char == '#' then pure (some distance)
          else pure none

def skipTo (index : Nat) : (fuel : Nat) → CursorM Unit
  | 0 => pure ()
  | fuel + 1 => do
      need 1
      let cursor ← get
      if cursor.mark.index < index then
        if cursor.seesBreak then
          let _ ← readBreak
          skipTo index fuel
        else
          skip 1
          skipTo index fuel

def skipComments : (fuel : Nat) → CursorM Unit
  | 0 => pure ()
  | fuel + 1 => do
      skipLine
      let cursor ← get
      let found ←
        if cursor.next?.all isShortBreak then
          findComment (fun char => isBlank char || isShortBreak char) (commentReach - 1) 1
            (cursor.rest.drop 1)
        else
          pure none
      if let some distance := found then
        skipTo (cursor.mark.index + distance) (distance + 1)
        skipComments fuel

def skipLineComment : CursorM Unit := do
  let cursor ← get
  if let some distance ← findComment isBlank commentReach 0 cursor.rest then
    skipTo (cursor.mark.index + distance) (distance + 1)
    skipLine

/-! ### Between tokens -/

/-- Skip to the next token, and tell whether a line break came on the way. Tabs are
white space on the first line if `tabs` says so, and on the lines after it if
`tabsAfterBreak` does. A line may begin with a byte order mark. -/
def skipToToken (tabs tabsAfterBreak isBroken : Bool) : (fuel : Nat) → CursorM Bool
  | 0 => pure isBroken
  | fuel + 1 => do
      need 1
      let cursor ← get
      if cursor.mark.column = 0 && cursor.atByteOrderMark then skip 1
      skipWhile fun char => char == ' ' || (tabs && char == '\t')
      if (← get).next? == some '#' then skipComments cursor.bound
      if (← get).seesBreak then
        let _ ← readBreak
        skipToToken tabsAfterBreak tabsAfterBreak true fuel
      else
        pure isBroken

end CursorM

end ComptimeTyping.Yaml
