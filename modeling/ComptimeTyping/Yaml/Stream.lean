import Std.Data.HashMap
import ComptimeTyping.Yaml.Token

/-! The stream of YAML tokens. A key is only known as one when its colon comes, so
tokens wait in a queue until nothing can be put in front of them. -/

namespace ComptimeTyping.Yaml

structure PossibleKey where
  number : Nat := 0
  isOpen : Bool := false
  isRequired : Bool := false
  mark : Mark := {}
deriving DecidableEq, Repr, Inhabited

def PossibleKey.isStale (key : PossibleKey) (mark : Mark) : Bool :=
  key.mark.line < mark.line || key.mark.index + 1024 < mark.index

structure Stream where
  cursor : Cursor
  queue : List Token := [⟨.streamStart, {}⟩]
  taken : Nat := 0
  margins : List Nat := []
  depth : Nat := 0
  keys : Array PossibleKey := #[{}]
  /-- For the numbers of tokens that wait to become keys, where their key is kept. -/
  waiting : Std.HashMap Nat Nat := {}
  keyAllowed : Bool := true

namespace Stream

def inFlow (stream : Stream) : Bool :=
  1 < stream.keys.size

def margin (stream : Stream) : Nat :=
  stream.margins.headD 0

def mark (stream : Stream) : Mark :=
  stream.cursor.mark

def nextNumber (stream : Stream) : Nat :=
  stream.taken + stream.queue.length

def key (stream : Stream) : PossibleKey :=
  stream.keys.back?.getD {}

/-! ## The queue -/

def push (stream : Stream) (kind : TokenKind) (start : Mark) : Stream :=
  { stream with queue := stream.queue ++ [⟨kind, start⟩] }

/-- Put a token in front of the one with a number, or at the end if that one has left
the queue. -/
def insert (stream : Stream) (number : Nat) (kind : TokenKind) (start : Mark) : Stream :=
  if number < stream.taken then stream.push kind start
  else
    let place := number - stream.taken
    { stream with
      queue := stream.queue.take place ++ ⟨kind, start⟩ :: stream.queue.drop place }

def take (stream : Stream) : Stream :=
  { stream with queue := stream.queue.drop 1, taken := stream.taken + 1 }

/-! ## Possible keys -/

def setKey (stream : Stream) (key : PossibleKey) : Stream :=
  { stream with keys := stream.keys.setIfInBounds (stream.keys.size - 1) key }

def release (stream : Stream) (number : Nat) : Stream :=
  { stream with waiting := stream.waiting.erase number }

def closeKey (stream : Stream) : Stream :=
  let key := stream.key
  (stream.setKey { key with isOpen := false }).release key.number

def allowKey (stream : Stream) (allowed : Bool) : Stream :=
  { stream with keyAllowed := allowed }

/-! ## Collections -/

def closeBlocks (stream : Stream) (limit : Nat) (start : Mark) : Stream :=
  if stream.inFlow then stream
  else
    let closed := stream.margins.takeWhile (limit < ·)
    { stream with
      queue := stream.queue ++ closed.map fun _ => ⟨.blockEnd, start⟩,
      margins := stream.margins.drop closed.length,
      depth := stream.depth - closed.length }

/-- Leave a flow collection. Its first token no longer waits unless a key has been
possible since. -/
def closeFlow (stream : Stream) : Stream :=
  if stream.inFlow then
    let number := stream.key.number
    { stream with keys := stream.keys.pop }.release number
  else
    stream

end Stream

/-! ## Reading -/

abbrev StreamM := StateT Stream (Except Error)

namespace StreamM

def read {α : Type} (action : CursorM α) : StreamM α := do
  let stream ← get
  let (value, cursor) ← action.run stream.cursor
  set { stream with cursor }
  pure value

def fail {α : Type} (problem : Problem) (start : Mark) : StreamM α := do
  throw (.lexical problem start (← get).mark)

def push (kind : TokenKind) (start : Mark) : StreamM Unit :=
  modify (·.push kind start)

def allowKey (allowed : Bool) : StreamM Unit :=
  modify (·.allowKey allowed)

def openBlock (kind : TokenKind) (start : Mark) (before : Nat) : StreamM Unit := do
  let stream ← get
  if !stream.inFlow && stream.margin ≤ start.column then
    if stream.depth = greatestDepth then fail .tooDeep stream.key.mark
    set { stream.insert before kind start with
      margins := (start.column + 1) :: stream.margins, depth := stream.depth + 1 }

def dropKey : StreamM Unit := do
  let stream ← get
  let key := stream.key
  if key.isOpen then
    if key.isRequired then fail .missingColon key.mark
    set stream.closeKey

def noteKey : StreamM Unit := do
  if (← get).keyAllowed then
    dropKey
    let stream ← get
    let number := stream.nextNumber
    let isRequired := !stream.inFlow && stream.margin == stream.mark.column + 1
    let stream := stream.setKey ⟨number, true, isRequired, stream.mark⟩
    set { stream with waiting := stream.waiting.insert number (stream.keys.size - 1) }

def canBeKey (level : Nat) : StreamM Bool := do
  let stream ← get
  match stream.keys[level]? with
  | none => pure false
  | some key =>
      if !key.isOpen then return false
      if !key.isStale stream.mark then return true
      if key.isRequired then fail .missingColon key.mark
      set { stream with keys := stream.keys.setIfInBounds level { key with isOpen := false } }
      pure false

/-! ### Single tokens -/

def pushIndicator (kind : TokenKind) (size : Nat) : StreamM Unit := do
  let start := (← get).mark
  read (CursorM.skip size)
  push kind start

def closeDocument : StreamM Unit := do
  modify fun stream => stream.closeBlocks 0 stream.mark
  dropKey
  allowKey false

def pushEnd : StreamM Unit := do
  modify fun stream =>
    let mark := stream.mark
    let mark :=
      if mark.column = 0 then mark else { mark with line := mark.line + 1, column := 0 }
    { stream with cursor := { stream.cursor with mark } }
  closeDocument
  push .streamEnd (← get).mark

def pushDirective : StreamM Unit := do
  closeDocument
  let start := (← get).mark
  push (← read readDirective) start

def pushDocumentMark (kind : TokenKind) : StreamM Unit := do
  closeDocument
  pushIndicator kind 3

/-- Open a flow collection. As long as it has no possible key of its own, it keeps the
number of its first token. -/
def openFlow (kind : TokenKind) : StreamM Unit := do
  noteKey
  let stream ← get
  if stream.keys.size = greatestDepth + 1 then fail .tooDeep stream.mark
  set { stream with keys := stream.keys.push { number := stream.nextNumber, mark := stream.mark } }
  allowKey true
  pushIndicator kind 1

def closeFlow (kind : TokenKind) : StreamM Unit := do
  dropKey
  modify (·.closeFlow)
  allowKey false
  pushIndicator kind 1

def pushFlowEntry : StreamM Unit := do
  dropKey
  allowKey true
  pushIndicator .flowEntry 1

def openBlockHere (kind : TokenKind) (problem : Problem) : StreamM Unit := do
  let stream ← get
  if !stream.inFlow then
    if !stream.keyAllowed then fail problem stream.mark
    openBlock kind stream.mark stream.nextNumber

def pushBlockEntry : StreamM Unit := do
  openBlockHere .blockSequenceStart .misplacedEntry
  dropKey
  allowKey true
  pushIndicator .blockEntry 1

def pushKey : StreamM Unit := do
  openBlockHere .blockMappingStart .misplacedKey
  dropKey
  allowKey !(← get).inFlow
  pushIndicator .key 1

def pushValue : StreamM Unit := do
  if ← canBeKey ((← get).keys.size - 1) then
    let key := (← get).key
    modify (·.insert key.number .key key.mark)
    openBlock .blockMappingStart key.mark key.number
    modify (·.closeKey)
    allowKey false
  else
    openBlockHere .blockMappingStart .misplacedValue
    allowKey !(← get).inFlow
  pushIndicator .value 1

def pushName (action : CursorM TokenKind) : StreamM Unit := do
  noteKey
  allowKey false
  let start := (← get).mark
  push (← read action) start

/-- After a plain scalar a key is allowed only if the scalar ended with its line. Tells
whether it did not. -/
def pushPlain : StreamM Bool := do
  noteKey
  let stream ← get
  let (text, isBroken) ← read (readPlain stream.inFlow stream.margin)
  allowKey isBroken
  push (.scalar text true) stream.mark
  pure !isBroken

def pushBlock (isLiteral : Bool) : StreamM Unit := do
  dropKey
  allowKey true
  let stream ← get
  push (.scalar (← read (readBlock isLiteral stream.margin)) false) stream.mark

/-! ### The next token -/

def skipToToken : StreamM Unit := do
  let stream ← get
  let tabs := stream.inFlow || !stream.keyAllowed
  let isBroken ← read (CursorM.skipToToken tabs stream.inFlow false stream.cursor.bound)
  if isBroken && !stream.inFlow then allowKey true

def isIndicator (char : Char) : Bool :=
  ['-', '?', ':', ',', '[', ']', '\x7b', '\x7d', '#', '&', '*', '!', '|', '>', '\x27', '"',
    '%', '@', '\x60', ' ', '\t'].contains char

def pushToken (char : Char) (rest : List Char) : StreamM Bool := do
  let inFlow := (← get).inFlow
  let standsAlone := endsWord rest
  if char == '-' && standsAlone then
    pushBlockEntry
    return false
  if !inFlow && (char == '|' || char == '>') then
    pushBlock (char == '|')
    return false
  if char == '[' then openFlow .flowSequenceStart
  else if char == '\x7b' then openFlow .flowMappingStart
  else if char == ']' then closeFlow .flowSequenceEnd
  else if char == '\x7d' then closeFlow .flowMappingEnd
  else if char == ',' then pushFlowEntry
  else if char == '?' && (inFlow || standsAlone) then pushKey
  else if char == ':' && (inFlow || standsAlone) then pushValue
  else if char == '*' then pushName (do pure (.alias (← readAnchor)))
  else if char == '&' then pushName (do pure (.anchor (← readAnchor)))
  else if char == '!' then pushName readTag
  else if char == '\x27' || char == '"' then
    pushName (do pure (.scalar (← readQuoted char) false))
  else if char == '-' || char == '?' || char == ':' || !isIndicator char then
    return ← pushPlain
  else
    fail .unknownToken (← get).mark
  pure true

def fetch : StreamM Unit := do
  read (CursorM.need 1)
  let before := (← get).mark
  skipToToken
  modify fun stream => stream.closeBlocks (stream.mark.column + 1) before
  read (CursorM.need 4)
  let stream ← get
  match stream.cursor.rest with
  | [] => pushEnd
  | char :: rest =>
      if stream.mark.column == 0 && char == '%' then pushDirective
      else if stream.cursor.isAtDocumentMark then
        pushDocumentMark (if char == '-' then .documentStart else .documentEnd)
      else if ← pushToken char rest then
        read CursorM.skipLineComment

/-- Whether more tokens are needed before the first one of the queue can be taken:
there have to be three, and the first one must not turn into a key. -/
def needsMore : StreamM Bool := do
  let stream ← get
  match stream.queue with
  | _ :: _ :: _ :: _ =>
      match stream.waiting[stream.taken]? with
      | some level => canBeKey level
      | none => pure false
  | _ => pure true

def fill : (fuel : Nat) → StreamM Unit
  | 0 => pure ()
  | fuel + 1 => do
      if ← needsMore then
        fetch
        fill fuel

def peek : StreamM Token := do
  fill (← get).cursor.bound
  let stream ← get
  pure (stream.queue.headD ⟨.streamEnd, stream.mark⟩)

end StreamM

end ComptimeTyping.Yaml
