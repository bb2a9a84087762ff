/-! What can be wrong with a YAML text, and where. -/

namespace ComptimeTyping.Yaml

structure Mark where
  line : Nat := 0
  column : Nat := 0
  index : Nat := 0
deriving DecidableEq, Repr

/-! ## Problems -/

inductive Problem where
  | controlCharacter
  -- Tokens
  | unknownToken
  | missingColon
  | misplacedEntry
  | misplacedKey
  | misplacedValue
  | unfinishedLine
  | noDirectiveName
  | badDirectiveName
  | unknownDirective
  | noVersion
  | longVersion
  | noVersionPoint
  | noTagMark
  | noTagGap
  | badAnchor
  | noTag
  | unclosedTag
  | unfinishedTag
  | noTagOctet
  | badTagLead
  | badTagTail
  | tooDeep
  -- Scalars
  | tabInPlain
  | markInQuotes
  | unclosedQuotes
  | unknownEscape
  | badEscapeDigits
  | badEscapeCode
  | zeroIndent
  | tabInBlock
  -- Structure
  | noDocumentStart
  | unknownVersion
  | repeatedVersion
  | repeatedTagHandle
  | noContent
  | noBlockEntry
  | noBlockKey
  | unclosedFlowSequence
  | unclosedFlowMapping
  | unknownTagHandle
  | unknownAnchor (name : String)
  -- Meaning
  | mistagged (found text wanted : String)
  | badBinary
  | badMerge
  | selfReference (name : String)
  | tooManyAliases
deriving DecidableEq, Repr

def greatestDepth : Nat := 10000

def Problem.message : Problem → String
  | .controlCharacter => "control characters are not allowed"
  | .unknownToken => "found character that cannot start any token"
  | .missingColon => "could not find expected ':'"
  | .misplacedEntry => "block sequence entries are not allowed in this context"
  | .misplacedKey => "mapping keys are not allowed in this context"
  | .misplacedValue => "mapping values are not allowed in this context"
  | .unfinishedLine => "did not find expected comment or line break"
  | .noDirectiveName => "could not find expected directive name"
  | .badDirectiveName => "found unexpected non-alphabetical character"
  | .unknownDirective => "found unknown directive name"
  | .noVersion => "did not find expected version number"
  | .longVersion => "found extremely long version number"
  | .noVersionPoint => "did not find expected digit or '.' character"
  | .noTagMark => "did not find expected '!'"
  | .noTagGap => "did not find expected whitespace"
  | .badAnchor => "did not find expected alphabetic or numeric character"
  | .noTag => "did not find expected tag URI"
  | .unclosedTag => "did not find the expected '>'"
  | .unfinishedTag => "did not find expected whitespace or line break"
  | .noTagOctet => "did not find URI escaped octet"
  | .badTagLead => "found an incorrect leading UTF-8 octet"
  | .badTagTail => "found an incorrect trailing UTF-8 octet"
  | .tooDeep => "exceeded max depth of " ++ toString greatestDepth
  | .tabInPlain => "found a tab character that violates indentation"
  | .markInQuotes => "found unexpected document indicator"
  | .unclosedQuotes => "found unexpected end of stream"
  | .unknownEscape => "found unknown escape character"
  | .badEscapeDigits => "did not find expected hexdecimal number"
  | .badEscapeCode => "found invalid Unicode character escape code"
  | .zeroIndent => "found an indentation indicator equal to 0"
  | .tabInBlock => "found a tab character where an indentation space is expected"
  | .noDocumentStart => "did not find expected <document start>"
  | .unknownVersion => "found incompatible YAML document"
  | .repeatedVersion => "found duplicate %YAML directive"
  | .repeatedTagHandle => "found duplicate %TAG directive"
  | .noContent => "did not find expected node content"
  | .noBlockEntry => "did not find expected '-' indicator"
  | .noBlockKey => "did not find expected key"
  | .unclosedFlowSequence => "did not find expected ',' or ']'"
  | .unclosedFlowMapping => "did not find expected ',' or '\x7d'"
  | .unknownTagHandle => "found undefined tag handle"
  | .unknownAnchor name => "unknown anchor '" ++ name ++ "' referenced"
  | .mistagged found text wanted =>
      "cannot decode " ++ found ++ " `" ++ text ++ "` as a " ++ wanted
  | .badBinary => "!!binary value contains invalid base64 data"
  | .badMerge => "map merge requires map or sequence of maps as the value"
  | .selfReference name => "anchor '" ++ name ++ "' value contains itself"
  | .tooManyAliases => "document contains excessive aliasing"

/-! ## Errors -/

structure Error where
  problem : Problem
  line : Option Nat := none
deriving DecidableEq, Repr

namespace Error

def message (error : Error) : String :=
  let place := match error.line with
    | some line => "line " ++ toString line ++ ": "
    | none => ""
  "yaml: " ++ place ++ error.problem.message

/-- The first of two lines, counted from zero, that is not the first of the text,
which is never named. -/
def laterLine (first second : Nat) : Option Nat :=
  if first ≠ 0 then some first else if second ≠ 0 then some second else none

/-- An error of tokens: `start` is where the token began and `here` where it broke.
Its line is counted from one. -/
def lexical (problem : Problem) (start here : Mark) : Error :=
  ⟨problem, (laterLine start.line here.line).map (· + 1)⟩

/-- An error of structure: `start` is where the collection began and `here` the token
that does not belong to it. Its line is counted from zero. -/
def structural (problem : Problem) (start here : Mark) : Error :=
  ⟨problem, laterLine start.line here.line⟩

end Error

end ComptimeTyping.Yaml
