import ComptimeTyping.Analysis.State
import ComptimeTyping.Text.Octets

/-! The options of an analysis. -/

namespace ComptimeTyping

/-- Options as they are given. Only `Draft.validate` promises that the texts and
numbers are among those that mean something. -/
structure Options where
  branchPolicy : String := "defer"
  pointerWidth : Int := 64
  maxErrors : Int := 0
  color : String := "auto"
deriving DecidableEq, Repr

namespace Options

/-! ## Meaning -/

def policy (options : Options) : BranchPolicy :=
  if options.branchPolicy = "strict" then .strict else .defer

def width (options : Options) : PointerWidth :=
  .ofInt options.pointerWidth

/-- Where the analysis of a unit with these options starts. -/
def context (options : Options) : Context :=
  { policy := options.policy, width := options.width }

/-- Whether text that does not go to a terminal is colored. -/
def isColored (options : Options) : Bool :=
  options.color = "always"

end Options

/-! ## Validation -/

namespace Options

open Text (Octets)

/-- Options that have not been checked. One that is left out is empty or zero. -/
structure Draft where
  branchPolicy : Octets := []
  pointerWidth : Int := 0
  maxErrors : Int := 0
  color : Octets := []
deriving DecidableEq, Repr

inductive Invalid where
  | branchPolicy (given : Octets)
  | pointerWidth (given : Int)
  | maxErrors (given : Int)
  | color (given : Octets)
deriving DecidableEq, Repr

def Invalid.message : Invalid → String
  | .branchPolicy given =>
      "branch_policy must be \"defer\" or \"strict\", got " ++ given.quoted
  | .pointerWidth given => "pointer_width must be 32 or 64, got " ++ toString given
  | .maxErrors given => "max_errors must not be negative, got " ++ toString given
  | .color given => "color must be auto, always or never, got " ++ given.quoted

/-- The first of some texts where none is given, or else the one that is given. -/
def choose? (choices : List String) (given : Octets) : Option String :=
  if given = [] then choices.head? else choices.find? fun choice => given = .ofString choice

/-- Check the options in order and fill in those that are left out. The first one that
is wrong is named. -/
def Draft.validate (draft : Draft) : Except Invalid Options := do
  let some branchPolicy := choose? ["defer", "strict"] draft.branchPolicy
    | .error (.branchPolicy draft.branchPolicy)
  if draft.pointerWidth ∉ [0, 32, 64] then .error (.pointerWidth draft.pointerWidth)
  if draft.maxErrors < 0 then .error (.maxErrors draft.maxErrors)
  let some color := choose? ["auto", "always", "never"] draft.color
    | .error (.color draft.color)
  let pointerWidth := if draft.pointerWidth = 0 then 64 else draft.pointerWidth
  pure { branchPolicy, pointerWidth, maxErrors := draft.maxErrors, color }

end Options

end ComptimeTyping
