import ComptimeTyping.Yaml.Stream

/-! Nodes of YAML documents. -/

namespace ComptimeTyping.Yaml

inductive Tagging where
  | plain
  | quoted
  | tagged (name : String)
deriving DecidableEq, Repr

inductive Node where
  | scalar (line : Nat) (tagging : Tagging) (text : String)
  | sequence (line : Nat) (tag : Option String) (items : List Node)
  | mapping (line : Nat) (tag : Option String) (pairs : List (Node × Node))
  | alias (start : Mark) (name : String) (slot : Nat)
deriving Repr

namespace Node

def line : Node → Nat
  | .scalar line _ _ => line
  | .sequence line _ _ => line
  | .mapping line _ _ => line
  | .alias start _ _ => start.line + 1

def missing (mark : Mark) : Node :=
  .scalar (mark.line + 1) .plain ""

instance : Inhabited Node := ⟨missing {}⟩

def isSameKey : Node → Node → Bool
  | .scalar _ _ left, .scalar _ _ right => left == right
  | .sequence .., .sequence .. => true
  | .mapping .., .mapping .. => true
  | .alias _ left _, .alias _ right _ => left == right
  | _, _ => false

def keyText : Node → String
  | .scalar _ _ text => text
  | .alias _ name _ => name
  | _ => ""

end Node

structure Document where
  root : Node
  anchored : Array Node := #[]
deriving Repr

def Document.target (document : Document) (slot : Nat) : Node :=
  document.anchored[slot]?.getD (.missing {})

/-! ## Reading -/

structure NodeSource where
  stream : Stream
  anchored : Array Node := #[]
  /-- The number of the node that each anchor names, last one first. -/
  anchors : List (String × Nat) := []
  handles : List (String × String) := []

abbrev NodeM := StateT NodeSource (Except Error)

namespace NodeM

def peek : NodeM Token := do
  let source ← get
  let (token, stream) ← StreamM.peek.run source.stream
  set { source with stream }
  pure token

def take : NodeM Unit :=
  modify fun source => { source with stream := source.stream.take }

def takeAndPeek : NodeM Token := do
  take
  peek

/-- Fail if a part of the text could not be read behind the tokens that were needed.
That shows at the end of a scalar or an alias and at both ends of a collection or a
document, so that other errors before them come first. -/
def checkText : NodeM Unit := do
  if (← get).stream.cursor.isBroken then throw ⟨.controlCharacter, none⟩

def takeLast : NodeM Unit := do
  take
  checkText

def missing (mark : Mark) : NodeM Node := do
  checkText
  pure (Node.missing mark)

def addAnchor (name : Option String) (node : Node) : NodeM Unit :=
  match name with
  | some name => modify fun source => { source with
      anchors := (name, source.anchored.size) :: source.anchors,
      anchored := source.anchored.push node }
  | none => pure ()

def findAnchor (name : String) : NodeM Nat := do
  match (← get).anchors.lookup name with
  | some slot => pure slot
  | none => throw ⟨.unknownAnchor name, none⟩

/-- Anchor a collection, which its own entries may refer to, and read its entries. -/
def anchored (name : Option String) (start : Node) (read : NodeM Node) : NodeM Node := do
  checkText
  let slot := (← get).anchored.size
  addAnchor name start
  let node ← read
  if name.isSome then
    modify fun source => { source with anchored := source.anchored.setIfInBounds slot node }
  pure node

/-! ### Properties -/

structure Properties where
  start : Mark
  anchor : Option String := none
  tag : Option String := none

def Properties.isEmpty (properties : Properties) : Bool :=
  properties.anchor.isNone && properties.tag.isNone

def Properties.specificTag (properties : Properties) : Option String :=
  properties.tag.filter (· ≠ "!")

def expandTag (handle suffix : String) : NodeM (Option String) := do
  if handle = "" then return some (shortTag suffix)
  pure (((← get).handles.lookup handle).map fun expansion => shortTag (expansion ++ suffix))

def readProperties : NodeM Properties := do
  let first ← peek
  let expand (token : Token) (handle suffix : String) : NodeM String := do
    match ← expandTag handle suffix with
    | some tag => pure tag
    | none => throw (.structural .unknownTagHandle first.start token.start)
  match first.kind with
  | .anchor name =>
      let second ← takeAndPeek
      match second.kind with
      | .tag handle suffix =>
          let _ ← takeAndPeek
          pure ⟨first.start, some name, some (← expand second handle suffix)⟩
      | _ => pure ⟨first.start, some name, none⟩
  | .tag handle suffix =>
      let second ← takeAndPeek
      match second.kind with
      | .anchor name =>
          let _ ← takeAndPeek
          pure ⟨first.start, some name, some (← expand first handle suffix)⟩
      | _ => pure ⟨first.start, none, some (← expand first handle suffix)⟩
  | _ => pure { start := first.start }

def Properties.scalar (properties : Properties) (text : String) (isPlain : Bool) : Node :=
  let tagging := match properties.specificTag with
    | some tag => .tagged tag
    | none => if isPlain then .plain else .quoted
  .scalar (properties.start.line + 1) tagging text

def Properties.sequence (properties : Properties) (items : List Node) : Node :=
  .sequence (properties.start.line + 1) properties.specificTag items

def Properties.mapping (properties : Properties) (pairs : List (Node × Node)) : Node :=
  .mapping (properties.start.line + 1) properties.specificTag pairs

/-! ### Nodes -/

def endsBlockPart : TokenKind → Bool
  | .key | .value | .blockEnd => true
  | _ => false

mutual

/-- Read a node. Block collections begin only where `inBlock` allows them, and a
sequence without indentation only as a part of a block mapping. -/
def readNode (fuel : Nat) (inBlock indentless : Bool) : NodeM Node := do
  match fuel with
  | 0 => throw ⟨.noContent, none⟩
  | fuel + 1 =>
      let first ← peek
      if let .alias name := first.kind then
        takeLast
        let slot ← findAnchor name
        return .alias first.start name slot
      let properties ← readProperties
      let token ← peek
      let sequence (items : NodeM (List Node)) : NodeM Node :=
        anchored properties.anchor (properties.sequence []) do
          pure (properties.sequence (← items))
      let mapping (pairs : NodeM (List (Node × Node))) : NodeM Node :=
        anchored properties.anchor (properties.mapping []) do
          pure (properties.mapping (← pairs))
      match token.kind, inBlock, indentless with
      | .blockEntry, _, true => sequence (readIndentlessItems fuel)
      | .scalar text isPlain, _, _ => do
          let node := properties.scalar text isPlain
          addAnchor properties.anchor node
          takeLast
          pure node
      | .flowSequenceStart, _, _ => sequence (do take; readFlowItems fuel token.start true)
      | .flowMappingStart, _, _ => mapping (do take; readFlowPairs fuel token.start true)
      | .blockSequenceStart, true, _ => sequence (do take; readBlockItems fuel token.start)
      | .blockMappingStart, true, _ => mapping (do take; readBlockPairs fuel token.start)
      | _, _, _ =>
          if properties.isEmpty then
            throw (.structural .noContent properties.start token.start)
          let node := properties.scalar "" true
          addAnchor properties.anchor node
          checkText
          pure node

def readBlockItems (fuel : Nat) (start : Mark) : NodeM (List Node) := do
  match fuel with
  | 0 => pure []
  | fuel + 1 =>
      let token ← peek
      match token.kind with
      | .blockEntry => do
          let next ← takeAndPeek
          let item ← match next.kind with
            | .blockEntry | .blockEnd => missing token.start
            | _ => readNode fuel true false
          pure (item :: (← readBlockItems fuel start))
      | .blockEnd => do
          takeLast
          pure []
      | _ => throw (.structural .noBlockEntry start token.start)

def readIndentlessItems (fuel : Nat) : NodeM (List Node) := do
  match fuel with
  | 0 => pure []
  | fuel + 1 =>
      let token ← peek
      match token.kind with
      | .blockEntry => do
          let next ← takeAndPeek
          let item ←
            if next.kind = .blockEntry || endsBlockPart next.kind then
              missing token.start
            else
              readNode fuel true false
          pure (item :: (← readIndentlessItems fuel))
      | _ => do
          checkText
          pure []

def readBlockPart (fuel : Nat) (mark : Mark) : NodeM Node := do
  match fuel with
  | 0 => pure (Node.missing mark)
  | fuel + 1 =>
      let next ← takeAndPeek
      if endsBlockPart next.kind then missing mark else readNode fuel true true

def readBlockPairs (fuel : Nat) (start : Mark) : NodeM (List (Node × Node)) := do
  match fuel with
  | 0 => pure []
  | fuel + 1 =>
      let token ← peek
      match token.kind with
      | .key => do
          let key ← readBlockPart fuel token.start
          let middle ← peek
          let value ←
            if middle.kind = .value then readBlockPart fuel middle.start
            else missing middle.start
          pure ((key, value) :: (← readBlockPairs fuel start))
      | .blockEnd => do
          takeLast
          pure []
      | _ => throw (.structural .noBlockKey start token.start)

def readFlowValue (fuel : Nat) (close : TokenKind) : NodeM Node := do
  match fuel with
  | 0 => pure (Node.missing {})
  | fuel + 1 =>
      let token ← peek
      if token.kind ≠ .value then return ← missing token.start
      let next ← takeAndPeek
      if next.kind = .flowEntry || next.kind = close then missing next.start
      else readNode fuel false false

def readFlowItems (fuel : Nat) (start : Mark) (isFirst : Bool) : NodeM (List Node) := do
  match fuel with
  | 0 => pure []
  | fuel + 1 =>
      let token ← peek
      if token.kind = .flowSequenceEnd then
        takeLast
        return []
      if !isFirst && token.kind ≠ .flowEntry then
        throw (.structural .unclosedFlowSequence start token.start)
      let token ← if isFirst then pure token else takeAndPeek
      match token.kind with
      | .flowSequenceEnd => do
          takeLast
          pure []
      | .key => do
          takeLast
          let next ← peek
          let key ←
            if next.kind = .value || next.kind = .flowEntry || next.kind = .flowSequenceEnd then do
              take
              missing next.start
            else
              readNode fuel false false
          let value ← readFlowValue fuel .flowSequenceEnd
          let _ ← peek
          checkText
          let item := .mapping (token.start.line + 1) none [(key, value)]
          pure (item :: (← readFlowItems fuel start false))
      | _ => do
          let item ← readNode fuel false false
          pure (item :: (← readFlowItems fuel start false))

def readFlowPairs (fuel : Nat) (start : Mark) (isFirst : Bool) :
    NodeM (List (Node × Node)) := do
  match fuel with
  | 0 => pure []
  | fuel + 1 =>
      let token ← peek
      if token.kind = .flowMappingEnd then
        takeLast
        return []
      if !isFirst && token.kind ≠ .flowEntry then
        throw (.structural .unclosedFlowMapping start token.start)
      let token ← if isFirst then pure token else takeAndPeek
      match token.kind with
      | .flowMappingEnd => do
          takeLast
          pure []
      | .key => do
          let next ← takeAndPeek
          let key ←
            if next.kind = .value || next.kind = .flowEntry || next.kind = .flowMappingEnd then
              missing next.start
            else
              readNode fuel false false
          let value ← readFlowValue fuel .flowMappingEnd
          pure ((key, value) :: (← readFlowPairs fuel start false))
      | _ => do
          let key ← readNode fuel false false
          let next ← peek
          let value ← missing next.start
          pure ((key, value) :: (← readFlowPairs fuel start false))

end

/-! ### Documents -/

def standardHandles : List (String × String) :=
  [("!", "!"), ("!!", "tag:yaml.org,2002:")]

def addHandle (handle expansion : String) (start : Mark) : NodeM Unit := do
  let source ← get
  if (source.handles.lookup handle).isSome then
    throw (.structural .repeatedTagHandle {} start)
  set { source with handles := (handle, expansion) :: source.handles }

def readDirectives : (fuel : Nat) → (isVersioned : Bool) → NodeM Unit
  | 0, _ => pure ()
  | fuel + 1, isVersioned => do
      let token ← peek
      match token.kind with
      | .version major minor =>
          if isVersioned then throw (.structural .repeatedVersion {} token.start)
          if major ≠ 1 || minor ≠ 1 then throw (.structural .unknownVersion {} token.start)
          take
          readDirectives fuel true
      | .tagHandle handle expansion =>
          addHandle handle expansion token.start
          take
          readDirectives fuel isVersioned
      | _ => modify fun source => { source with handles := source.handles ++ standardHandles }

def readMarkedDocument (fuel : Nat) : NodeM Node := do
  let token ← peek
  if token.kind ≠ .documentStart then
    throw (.structural .noDocumentStart {} token.start)
  takeLast
  let token ← peek
  match token.kind with
  | .version .. | .tagHandle .. | .documentStart | .documentEnd | .streamEnd =>
      missing token.start
  | _ => readNode fuel true false

def readDocument (fuel : Nat) : NodeM (Option Document) := do
  let _ ← peek
  takeLast
  let token ← peek
  match token.kind with
  | .streamEnd => pure none
  | kind => do
      readDirectives fuel false
      let root ← match kind with
        | .version .. | .tagHandle .. | .documentStart => readMarkedDocument fuel
        | _ => do
            checkText
            readNode fuel true false
      let _ ← peek
      checkText
      pure (some { root, anchored := (← get).anchored })

end NodeM

def Document.parse (text : String) : Except Error (Option Document) :=
  let cursor := Cursor.ofText text
  (NodeM.readDocument (10 * (cursor.bound + 10))).run' { stream := { cursor } }

end ComptimeTyping.Yaml
