import ComptimeTyping.Analysis.Unit
import ComptimeTyping.Diagnostic.Render
import ComptimeTyping.Diagnostic.Report
import ComptimeTyping.Options.Search

/-! A compilation unit on its way through the stages of a compilation. A stage that
fails is noted and the later ones run all the same. -/

namespace ComptimeTyping

/-- Why a stage failed. Problems of the program itself are diagnostics. -/
inductive StageFailure where
  | options (path : Path) (error : Options.FileError)
  | analysis (file : String) (abort : Abort)
deriving DecidableEq, Repr

def StageFailure.message : StageFailure → String
  | .options path error => error.message path.text
  | .analysis file abort => abort.message file

structure Compilation where
  source : Option Path
  program : Option Program
  table : Option SymbolTable := none
  bag : Option Bag := none
  options : Option Options := none
  /-- What the last analysis left, unless it stopped before the first statement. -/
  analyzed : Option State := none
  failures : List StageFailure := []

inductive Stage where
  /-- Find options, in directories up to and including `last`. -/
  | options (last : Option Path)
  | analysis
deriving DecidableEq, Repr

namespace Compilation

def file (unit : Compilation) : String :=
  (unit.source.map (·.text)).getD ""

/-- A unit with an empty table and an empty bag. -/
def start (source : Option Path) (program : Option Program) : Compilation :=
  let bare : Compilation := { source, program }
  { bare with table := some .empty, bag := some { file := bare.file } }

def fail (unit : Compilation) (failure : StageFailure) : Compilation :=
  { unit with failures := unit.failures ++ [failure] }

/-! ## Options -/

/-- Use options, also for the size of the bag. -/
def withOptions (unit : Compilation) (options : Options) : Compilation :=
  { unit with
    options := some options,
    bag := unit.bag.map fun bag => { bag with limit := options.maxErrors } }

/-- Find the options, unless they are given. A bad file leaves the defaults. -/
def findOptions (files : FileSystem) (last : Option Path) (unit : Compilation) : Compilation :=
  match unit.options with
  | some options => unit.withOptions options
  | none =>
      match Options.loadFor files unit.source last with
      | .ok options => unit.withOptions options
      | .error (path, error) => (unit.fail (.options path error)).withOptions {}

/-! ## Analysis -/

/-- The bag to report to: a new one has the size that the options ask for. -/
def openBag (unit : Compilation) : Bag :=
  unit.bag.getD { file := unit.file, limit := (unit.options.map (·.maxErrors)).getD 0 }

/-- Take over what an analysis has found so far. -/
def withState (unit : Compilation) (state : State) : Compilation :=
  { unit with
    table := some state.table,
    bag := some (unit.openBag.reportAll state.reports) }

/-- Take over a stop of the analysis. Arithmetic without a result stops everything. -/
def stopped (unit : Compilation) (program : Program) (abort : Abort) :
    Except BigFloat.Undefined Compilation :=
  match abort with
  | .undefined cause => .error cause
  | abort => .ok (unit.fail (.analysis program.file abort))

/-- Analyze the program, if there is one. -/
def analyze (unit : Compilation) : Except BigFloat.Undefined Compilation :=
  match unit.program with
  | none => .ok unit
  | some program =>
      let ctx := (unit.options.getD {}).context
      let start := State.ofTable (unit.table.getD .empty)
      match (program.analyze ctx .headers).run start with
      | .error abort state => (unit.withState state).stopped program abort
      | .ok _ state =>
          match (program.analyze ctx .bodies).run state with
          | .error abort state =>
              { unit.withState state with analyzed := some state }.stopped program abort
          | .ok _ state => .ok { unit.withState state with analyzed := some state }

/-! ## Stages -/

def runStage (files : FileSystem) (unit : Compilation) :
    Stage → Except BigFloat.Undefined Compilation
  | .options last => .ok (unit.findOptions files last)
  | .analysis => unit.analyze

def run (files : FileSystem) (unit : Compilation) (stages : List Stage) :
    Except BigFloat.Undefined Compilation :=
  stages.foldlM (runStage files) unit

/-! ## Results -/

def hasFailed (unit : Compilation) : Bool :=
  !unit.failures.isEmpty || unit.bag.any fun bag => !bag.isEmpty

def report (unit : Compilation) (identifier : String) : String :=
  Report.render identifier (unit.bag.getD { file := unit.file })

/-- The diagnostics in report order, if there is a bag. Only options color them. -/
def rendered (unit : Compilation) : Option String :=
  unit.bag.map fun bag => Render.render (unit.options.any (·.isColored)) bag.recorded

end Compilation

end ComptimeTyping
