import ComptimeTyping.Compilation
import ComptimeTyping.Constant.Bounds
import ComptimeTyping.Program.Builder
import ComptimeTyping.Proofs.Computation
import ComptimeTyping.Proofs.Reporting
import ComptimeTyping.Proofs.Frame
import ComptimeTyping.Proofs.Notes
import ComptimeTyping.Proofs.Coverage
import ComptimeTyping.Proofs.Discipline
import ComptimeTyping.Proofs.Preservation
import ComptimeTyping.Proofs.Clean
import ComptimeTyping.Proofs.Typing
import ComptimeTyping.Proofs.Folding
import ComptimeTyping.Proofs.Moments
import ComptimeTyping.Proofs.Coherence
import ComptimeTyping.Proofs.Once
import ComptimeTyping.Proofs.Parts
import ComptimeTyping.Proofs.Conversions
import ComptimeTyping.Proofs.Slots
import ComptimeTyping.Proofs.Literals
import ComptimeTyping.Proofs.Asked
import ComptimeTyping.Proofs.ArrayElements
import ComptimeTyping.Proofs.Initialization
import ComptimeTyping.Proofs.Leniency
import ComptimeTyping.Proofs.Bindings
import ComptimeTyping.Proofs.Stops
import ComptimeTyping.Proofs.Sink
import ComptimeTyping.Proofs.Checked
import ComptimeTyping.Proofs.Sizes
import ComptimeTyping.Proofs.TypeRule
import ComptimeTyping.Proofs.Operations
import ComptimeTyping.Proofs.Ledger
import ComptimeTyping.Proofs.Histories
import ComptimeTyping.Proofs.Locality
import ComptimeTyping.Proofs.FunctionOrder
import ComptimeTyping.Proofs.Formation
import ComptimeTyping.Proofs.FloatSteps
import ComptimeTyping.Proofs.Joins
import ComptimeTyping.Proofs.Slices
import ComptimeTyping.Proofs.RangeBounds
import ComptimeTyping.Proofs.Assignment
import ComptimeTyping.Proofs.Checks
import ComptimeTyping.Proofs.Results
import ComptimeTyping.Proofs.JoinedValues
import ComptimeTyping.Proofs.IndexBounds
import ComptimeTyping.Proofs.Shapes
import ComptimeTyping.Proofs.TagOrder
import ComptimeTyping.Proofs.ElementOrder
import ComptimeTyping.Proofs.BranchPolicies
import ComptimeTyping.Proofs.Grids
import ComptimeTyping.Proofs.KnownElements
import ComptimeTyping.Proofs.FoldedElements
import ComptimeTyping.Proofs.NumberKinds
import ComptimeTyping.Proofs.Mistakes
import ComptimeTyping.Proofs.Indifference
import ComptimeTyping.Proofs.FirstReports
import ComptimeTyping.Proofs.ValueRanges
import ComptimeTyping.Proofs.OptionsSearch
import ComptimeTyping.Proofs.TypeNames
import ComptimeTyping.Proofs.ArrayTypes
import ComptimeTyping.Proofs.Problems
import ComptimeTyping.Proofs.SequenceProblems
import ComptimeTyping.Proofs.DeclarationProblems
import ComptimeTyping.Proofs.ProgramProblems
import ComptimeTyping.Proofs.Completion
import ComptimeTyping.Proofs.IntegerTexts
