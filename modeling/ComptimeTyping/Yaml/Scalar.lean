import ComptimeTyping.Literal.Digits
import ComptimeTyping.Yaml.Cursor

/-! The texts of YAML scalars: plain, quoted and block ones. -/

namespace ComptimeTyping.Yaml

open CursorM (fail need skip)

/-! ## White space inside scalars -/

structure Gap where
  blanks : String := ""
  first : Option String := none
  more : String := ""
deriving DecidableEq, Repr

namespace Gap

def isBroken (gap : Gap) : Bool :=
  gap.first.isSome

def text (gap : Gap) : String :=
  match gap.first with
  | none => gap.blanks
  | some first =>
      if first = "\n" then if gap.more = "" then " " else gap.more
      else first ++ gap.more

def addBlank (gap : Gap) (blank : Char) : Gap :=
  if gap.isBroken then gap else { gap with blanks := gap.blanks.push blank }

def addBreak (gap : Gap) (text : String) : Gap :=
  match gap.first with
  | none => { first := some text }
  | some _ => { gap with more := gap.more ++ text }

def readFrom (start : Mark) (margin : Nat) : (fuel : Nat) → Gap → CursorM Gap
  | 0, gap => pure gap
  | fuel + 1, gap => do
      let cursor ← get
      match cursor.next? with
      | none => pure gap
      | some char =>
          if isBlank char then
            if gap.isBroken && cursor.mark.column < margin && char == '\t' then
              fail .tabInPlain start
            skip 1
            need 1
            readFrom start margin fuel (gap.addBlank char)
          else if isBreak char then
            let text ← CursorM.readBreak
            need 1
            readFrom start margin fuel (gap.addBreak text)
          else
            pure gap

/-- Read white space that goes on with a gap. After a line break a tab has to stand at
column `margin` or right of it. -/
def read (start : Mark) (margin : Nat) (gap : Gap) : CursorM Gap := do
  need 1
  readFrom start margin (← get).bound gap

end Gap

/-! ## Plain scalars -/

def isFlowIndicator (char : Char) : Bool :=
  [',', '?', '[', ']', '\x7b', '\x7d'].contains char

def endsPlainWord (inFlow : Bool) : List Char → Bool
  | [] => true
  | char :: rest =>
      isBlank char || isBreak char || (char == ':' && endsWord rest)
        || (inFlow && isFlowIndicator char)

def readPlainWord (inFlow : Bool) : (fuel : Nat) → String → CursorM String
  | 0, word => pure word
  | fuel + 1, word => do
      match (← get).rest with
      | [] => pure word
      | char :: rest =>
          if endsPlainWord inFlow (char :: rest) then pure word
          else
            skip 1
            need 2
            readPlainWord inFlow fuel (word.push char)

def readPlainFrom (inFlow : Bool) (margin : Nat) (start : Mark) :
    (fuel : Nat) → String → Gap → CursorM (String × Bool)
  | 0, text, gap => pure (text, gap.isBroken)
  | fuel + 1, text, gap => do
      need 4
      let cursor ← get
      if cursor.isAtDocumentMark || cursor.next? == some '#' then return (text, gap.isBroken)
      let word ← readPlainWord inFlow cursor.bound ""
      if word = "" then return (text, gap.isBroken)
      let text := text ++ gap.text ++ word
      let gap ← Gap.read start margin {}
      if gap == {} || (!inFlow && (← get).mark.column < margin) then
        pure (text, gap.isBroken)
      else
        readPlainFrom inFlow margin start fuel text gap

/-- Read a plain scalar. Its continuation lines in a block stand at column `margin` or
right of it. Also tells whether a line break ended the scalar. -/
def readPlain (inFlow : Bool) (margin : Nat) : CursorM (String × Bool) := do
  let cursor ← get
  readPlainFrom inFlow margin cursor.mark cursor.bound "" {}

/-! ## Quoted scalars -/

def escaped? : Char → Option Char
  | '0' => some '\x00'
  | 'a' => some '\x07'
  | 'b' => some '\x08'
  | 't' => some '\t'
  | '\t' => some '\t'
  | 'n' => some '\n'
  | 'v' => some '\x0b'
  | 'f' => some '\x0c'
  | 'r' => some '\r'
  | 'e' => some '\x1b'
  | ' ' => some ' '
  | '"' => some '"'
  | '\x27' => some '\x27'
  | '\\' => some '\\'
  | 'N' => some '\u0085'
  | '_' => some '\u00a0'
  | 'L' => some '\u2028'
  | 'P' => some '\u2029'
  | _ => none

def escapeDigits? : Char → Option Nat
  | 'x' => some 2
  | 'u' => some 4
  | 'U' => some 8
  | _ => none

def readEscape (start : Mark) : CursorM Char := do
  let some char := (← get).rest.tail.head? | fail .unknownEscape start
  match escaped? char, escapeDigits? char with
  | some meaning, _ =>
      skip 2
      pure meaning
  | none, none => fail .unknownEscape start
  | none, some count =>
      skip 2
      need count
      let digits := ((← get).rest.take count).filterMap (Literal.digit? 16)
      let code := Literal.positional 16 digits
      if digits.length < count then fail .badEscapeDigits start
      if !code.isValidChar then fail .badEscapeCode start
      skip count
      pure (Char.ofNat code)

/-- Read up to white space or the closing `quote`. Only double quotes know escape
sequences, and two single quotes stand for one. Also tells whether an escaped line
break came last. -/
def readQuotedWord (quote : Char) (start : Mark) : (fuel : Nat) → String → CursorM (String × Bool)
  | 0, text => pure (text, false)
  | fuel + 1, text => do
      match (← get).rest with
      | [] => pure (text, false)
      | char :: rest =>
          if isBlank char || isBreak char then pure (text, false)
          else if char == quote then
            if quote == '\x27' && rest.head? == some quote then
              skip 2
              need 2
              readQuotedWord quote start fuel (text.push quote)
            else
              pure (text, false)
          else if quote == '"' && char == '\\' then
            if rest.head?.any isBreak then
              need 3
              skip 1
              let _ ← CursorM.readBreak
              pure (text, true)
            else
              let meaning ← readEscape start
              need 2
              readQuotedWord quote start fuel (text.push meaning)
          else
            skip 1
            need 2
            readQuotedWord quote start fuel (text.push char)

def readQuotedFrom (quote : Char) (start : Mark) : (fuel : Nat) → String → CursorM String
  | 0, _ => fail .unclosedQuotes start
  | fuel + 1, text => do
      need 4
      let cursor ← get
      if cursor.isAtDocumentMark then fail .markInQuotes start
      if cursor.isEnd then fail .unclosedQuotes start
      let (text, isBroken) ← readQuotedWord quote start cursor.bound text
      need 1
      if (← get).next? == some quote then
        skip 1
        pure text
      else
        let gap ← Gap.read start 0 { first := if isBroken then some "" else none }
        readQuotedFrom quote start fuel (text ++ gap.text)

def readQuoted (quote : Char) : CursorM String := do
  let cursor ← get
  skip 1
  readQuotedFrom quote cursor.mark cursor.bound ""

/-! ## Block scalars -/

inductive Chomp where
  | clip
  | strip
  | keep
deriving DecidableEq, Repr

structure BlockHeader where
  chomp : Chomp := .clip
  indent : Nat := 0
deriving DecidableEq, Repr

namespace BlockHeader

def readChomp (header : BlockHeader) : CursorM BlockHeader := do
  need 1
  match (← get).next? with
  | some '+' =>
      skip 1
      pure { header with chomp := .keep }
  | some '-' =>
      skip 1
      pure { header with chomp := .strip }
  | _ => pure header

def readIndent (start : Mark) (header : BlockHeader) : CursorM BlockHeader := do
  need 1
  match (← get).next?.bind (Literal.digit? 10) with
  | some 0 => fail .zeroIndent start
  | some indent =>
      skip 1
      pure { header with indent }
  | none => pure header

def read (start : Mark) : CursorM BlockHeader := do
  let header ← readChomp {}
  let isChomped := header.chomp != .clip
  let header ← readIndent start header
  if isChomped || header.indent = 0 then pure header else readChomp header

end BlockHeader

def readLineEnd (start : Mark) : CursorM Unit := do
  CursorM.skipWhile isBlank
  if (← get).next? == some '#' then CursorM.skipLine
  let cursor ← get
  if cursor.seesBreak then
    let _ ← CursorM.readBreak
  else if !cursor.isEnd then
    fail .unfinishedLine start

def skipIndent (indent : Nat) : (fuel : Nat) → CursorM Unit
  | 0 => pure ()
  | fuel + 1 => do
      need 1
      let cursor ← get
      if (indent = 0 || cursor.mark.column < indent) && cursor.next? == some ' ' then
        skip 1
        skipIndent indent fuel

/-- Read the indentation of the next line that is not empty, and the line breaks
before it. An `indent` of zero is unknown; `deepest` is the deepest column so far. -/
def readIndentation (start : Mark) (indent : Nat) :
    (fuel deepest : Nat) → String → CursorM (String × Nat)
  | 0, deepest, breaks => pure (breaks, deepest)
  | fuel + 1, deepest, breaks => do
      skipIndent indent (← get).bound
      let cursor ← get
      let deepest := max deepest cursor.mark.column
      if (indent = 0 || cursor.mark.column < indent) && cursor.next? == some '\t' then
        fail .tabInBlock start
      if cursor.seesBreak then
        let text ← CursorM.readBreak
        readIndentation start indent fuel deepest (breaks ++ text)
      else
        pure (breaks, deepest)

/-- The text of a block scalar, the break that ended its last line and the empty lines
after that. -/
structure BlockLines where
  text : String := ""
  lead : String := ""
  breaks : String := ""
deriving DecidableEq, Repr

def readBlockLines (isLiteral : Bool) (start : Mark) (indent : Nat) :
    (fuel : Nat) → (wasBlank : Bool) → BlockLines → CursorM BlockLines
  | 0, _, lines => pure lines
  | fuel + 1, wasBlank, lines => do
      need 1
      let cursor ← get
      if cursor.mark.column ≠ indent || cursor.isEnd then return lines
      let isBlank := cursor.seesBlank
      let folds := !isLiteral && !wasBlank && !isBlank && lines.lead == "\n"
      let lead := if folds then if lines.breaks = "" then " " else "" else lines.lead
      let line ← CursorM.takeLine
      let text := lines.text ++ lead ++ lines.breaks ++ line
      let lead ← CursorM.readBreak
      let (breaks, _) ← readIndentation start indent cursor.bound 0 ""
      readBlockLines isLiteral start indent fuel isBlank { text, lead, breaks }

def readBlock (isLiteral : Bool) (margin : Nat) : CursorM String := do
  let cursor ← get
  let start := cursor.mark
  skip 1
  let header ← BlockHeader.read start
  readLineEnd start
  let given := if header.indent = 0 then 0 else margin - 1 + header.indent
  let (breaks, deepest) ← readIndentation start given cursor.bound 0 ""
  let indent := if given = 0 then max deepest (max margin 1) else given
  let lines ← readBlockLines isLiteral start indent cursor.bound false { breaks }
  match header.chomp with
  | .strip => pure lines.text
  | .clip => pure (lines.text ++ lines.lead)
  | .keep => pure (lines.text ++ lines.lead ++ lines.breaks)

end ComptimeTyping.Yaml
