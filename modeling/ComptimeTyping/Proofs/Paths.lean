import Mathlib.Logic.Function.Basic
import ComptimeTyping.Program.Tree

/-! The paths of a program. A path executes one arm of every conditional. It still goes
through the whole text in order, since what is assigned in an arm that it does not execute
is written before what comes later; such text is passed by. -/

namespace ComptimeTyping

/-! ## Flow -/

/-- What a text does to variables at one place. -/
inductive Step where
  | enter
  | leave
  /-- A new variable of the innermost scope, which has a value unless it is `undef`. -/
  | declare (name : String) (valued : Bool)
  | assign (name : String)
  | read (name : String)
deriving DecidableEq, Repr

/-- The steps of a text in order, with the places where ways part. -/
inductive Flow where
  | done
  | single (step : Step)
  | seq (first second : Flow)
  /-- Exactly one of two arms is executed. -/
  | fork (left right : Flow)
  /-- Text that is not executed where it stands. -/
  | aside (text : Flow)
deriving DecidableEq, Repr

/-- A step of the text that a path executes or passes by. -/
structure Passage where
  step : Step
  taken : Bool
deriving DecidableEq, Repr

namespace Flow

/-- Everything that is written, in order. -/
def steps : Flow → List Step
  | .done => []
  | .single step => [step]
  | .seq first second => first.steps ++ second.steps
  | .fork left right => left.steps ++ right.steps
  | .aside text => text.steps

def passedBy (flow : Flow) : List Passage :=
  flow.steps.map fun step => ⟨step, false⟩

def paths : Flow → List (List Passage)
  | .done => [[]]
  | .single step => [[⟨step, true⟩]]
  | .seq first second => first.paths.flatMap fun path => second.paths.map (path ++ ·)
  | .fork left right =>
      left.paths.map (· ++ right.passedBy) ++ right.paths.map (left.passedBy ++ ·)
  | .aside text => [text.passedBy]

def enclosed (inside : Flow) : Flow :=
  .seq (.single .enter) (.seq inside (.single .leave))

def declareAll : List String → Flow
  | [] => .done
  | name :: names => .seq (.single (.declare name true)) (declareAll names)

theorem map_step_passedBy (flow : Flow) : flow.passedBy.map Passage.step = flow.steps := by
  unfold passedBy
  rw [List.map_map]
  exact List.map_id _

/-- Every path goes through the whole text. -/
theorem map_step_of_mem_paths {flow : Flow} {path : List Passage} (member : path ∈ flow.paths) :
    path.map Passage.step = flow.steps := by
  induction flow generalizing path with
  | done =>
      rcases List.mem_singleton.mp member with rfl
      rfl
  | single step =>
      rcases List.mem_singleton.mp member with rfl
      rfl
  | seq first second firstInduction secondInduction =>
      rcases List.mem_flatMap.mp member with ⟨start, inFirst, rest⟩
      rcases List.mem_map.mp rest with ⟨last, inSecond, rfl⟩
      rw [List.map_append, firstInduction inFirst, secondInduction inSecond]
      rfl
  | fork left right leftInduction rightInduction =>
      unfold steps
      rcases List.mem_append.mp member with here | there
      · rcases List.mem_map.mp here with ⟨arm, inLeft, rfl⟩
        rw [List.map_append, leftInduction inLeft, map_step_passedBy]
      · rcases List.mem_map.mp there with ⟨arm, inRight, rfl⟩
        rw [List.map_append, rightInduction inRight, map_step_passedBy]
  | aside text =>
      rcases List.mem_singleton.mp member with rfl
      exact text.map_step_passedBy

theorem steps_enclosed (inside : Flow) :
    inside.enclosed.steps = .enter :: (inside.steps ++ [.leave]) := rfl

theorem steps_declareAll (names : List String) :
    (declareAll names).steps = names.map (.declare · true) := by
  induction names with
  | nil => rfl
  | cons name names induction =>
      unfold declareAll steps
      rw [induction]
      rfl

end Flow

/-! ## Programs -/

def parameterNames (parameters : List (Option ParameterExpr)) : List String :=
  parameters.filterMap fun parameter => (parameter.bind ParameterExpr.name).map Ident.name

/-- What a function does when it is called, in the scope of its own. -/
def Flow.function (parameters : List (Option ParameterExpr)) (body : Flow) : Flow :=
  .seq (.declareAll (parameterNames parameters)) body

/-- A step at a name, which may be missing. -/
def Flow.named (name : Option Ident) (step : String → Step) : Flow :=
  match name with
  | none => .done
  | some name => .single (step name.name)

mutual

def Expr.flow : Expr → Flow
  | .missing => .done
  | .int _ _ => .done
  | .float _ _ => .done
  | .bool _ _ => .done
  | .string _ _ => .done
  | .undef _ => .done
  | .ident name => .single (.read name.name)
  | .prefixOp _ _ right => right.flow
  | .infixOp _ left _ right => .seq left.flow right.flow
  | .conversion _ value _ => value.flow
  | .array _ items => items.flow
  | .range _ start stop step _ => .seq start.flow (.seq stop.flow step.flow)
  | .index _ left index => .seq left.flow index.flow
  | .member _ left _ => left.flow
  | .call _ _ arguments => arguments.flow
  | .block _ statements => .enclosed statements.flow
  | .conditional _ condition consequence alternative =>
      .seq condition.flow (.fork (.enclosed consequence.flow) alternative.flow)

def Exprs.flow : Exprs → Flow
  | .nil => .done
  | .cons head tail => .seq head.flow tail.flow

/-- The statements of a body, without the scope that they stand in. -/
def Body.flow : Body → Flow
  | .missing => .done
  | .block _ statements => statements.flow

def Stmt.flow : Stmt → Flow
  | .missing => .done
  | .declaration _ _ name _ value =>
      .seq value.flow (.named name (.declare · !value.isUndef))
  | .assignment _ name value => .seq value.flow (.named name .assign)
  | .returning _ value => value.flow
  | .yielding _ value => value.flow
  | .expression _ value => value.flow
  | .function _ _ parameters _ body => .aside (.enclosed (.function parameters body.flow))

def Stmts.flow : Stmts → Flow
  | .nil => .done
  | .cons head tail => .seq head.flow tail.flow

end

/-! ## Walks -/

/-- What a path has done for a variable. -/
inductive Status where
  /-- It was declared with `undef`, and nothing that is written so far assigns it. -/
  | unassigned
  /-- It was assigned only in text that the path passed by. -/
  | passedBy
  /-- It was declared with a value or assigned on the path. -/
  | assigned
deriving DecidableEq, Repr

/-- The status of a variable after one more assignment. -/
def Status.next (status : Status) (taken : Bool) : Status :=
  if taken || status == .assigned then .assigned else .passedBy

/-- The variables of one scope. -/
abbrev Standing := String → Option Status

namespace Standing

def empty : Standing := fun _ => none

/-- An assignment to the nearest variable of a name, if there is one. -/
def assign (name : String) (taken : Bool) : List Standing → List Standing
  | [] => []
  | inner :: outer =>
      match inner name with
      | some status => Function.update inner name (some (status.next taken)) :: outer
      | none => inner :: assign name taken outer

/-- A new variable of the innermost scope. -/
def declare (name : String) (status : Status) : List Standing → List Standing
  | [] => []
  | inner :: outer => Function.update inner name (some status) :: outer

end Standing

namespace Passage

/-- What the scopes are after a step, from the innermost outwards. -/
def after (passage : Passage) (standings : List Standing) : List Standing :=
  match passage.step with
  | .enter => .empty :: standings
  | .leave => standings.tail
  | .declare name valued =>
      Standing.declare name (if valued then .assigned else .unassigned) standings
  | .assign name => Standing.assign name passage.taken standings
  | .read _ => standings

/-- The status that is met where a path reads a variable of these scopes. -/
def observed? (passage : Passage) (standings : List Standing) : Option Status :=
  match passage.step with
  | .read name => if passage.taken then standings.findSome? (· name) else none
  | _ => none

end Passage

/-- The scopes after a path. -/
def walk (standings : List Standing) (path : List Passage) : List Standing :=
  path.foldl (fun standings passage => passage.after standings) standings

/-- What a path observes where it reads, in order. -/
def observations (standings : List Standing) : List Passage → List Status
  | [] => []
  | passage :: path =>
      (passage.observed? standings).toList ++ observations (passage.after standings) path

theorem walk_append (standings : List Standing) (first second : List Passage) :
    walk standings (first ++ second) = walk (walk standings first) second :=
  List.foldl_append

theorem observations_append (standings : List Standing) (first second : List Passage) :
    observations standings (first ++ second) =
      observations standings first ++ observations (walk standings first) second := by
  induction first generalizing standings with
  | nil => rfl
  | cons passage first induction =>
      rw [List.cons_append, observations, observations, induction, List.append_assoc]
      rfl

end ComptimeTyping
