import ComptimeTyping.Analysis.Materialize

/-! The values of a block or a conditional, joined to one. -/

namespace ComptimeTyping.Analysis

/-- Whether two types are the two comptime number types. -/
def mixesComptime (left right : Ty) : Bool :=
  match left.scalarTag?, right.scalarTag? with
  | some leftTag, some rightTag =>
      leftTag.isComptime && rightTag.isComptime && leftTag != rightTag
  | _, _ => false

/-- Join one more branch to those before it. -/
def joinBranch (policy : BranchPolicy) (joined : Operand) (branch : Resolved) :
    Except Complaint Operand :=
  if mixesComptime joined.type branch.type then
    match policy with
    | .strict => .error (branch.position, .branchesDisagree joined.type branch.type)
    | .defer => .ok (.typed .comptimeFloat)
  else
    match joined.type.resolve branch.type false with
    | .ok type => .ok (.typed type)
    | .error failure => .error (branch.position, .coercion "branch value" failure)

/-- Joined branches give a type of their own: a float for mixed comptime numbers, or what
both agree on. -/
theorem joinBranch_cases {policy : BranchPolicy} {joined result : Operand} {branch : Resolved}
    (ended : joinBranch policy joined branch = .ok result) :
    ∃ type, result = .typed type ∧
      (type = .comptimeFloat ∨ joined.type.resolve branch.type false = .ok type) := by
  unfold joinBranch at ended
  split at ended
  · cases policy with
    | strict => cases ended
    | defer =>
        cases ended
        exact ⟨_, rfl, .inl rfl⟩
  · split at ended
    · next type resolved =>
        cases ended
        exact ⟨type, rfl, .inr resolved⟩
    · cases ended

/-- Join the branches whose type is known. -/
def joinFrom (policy : BranchPolicy) (joined : Option Operand) :
    List Resolved → Except Complaint (Option Operand)
  | [] => .ok joined
  | branch :: branches =>
      if branch.isUnknown then joinFrom policy joined branches
      else
        match joined with
        | none => joinFrom policy (some branch.operand) branches
        | some operand =>
            match joinBranch policy operand branch with
            | .ok operand => joinFrom policy (some operand) branches
            | .error complaint => .error complaint

section

variable {policy : BranchPolicy} {good : Operand → Prop} {branches : List Resolved}
  {result : Option Operand}
  (keeps : ∀ branch ∈ branches, ∀ operand joint, good operand →
    joinBranch policy operand branch = .ok joint → good joint)

include keeps

/-- A property that joining keeps is one of the joined value if it was one before. -/
theorem forall_joinFrom_some {operand : Operand} (before : good operand)
    (ended : joinFrom policy (some operand) branches = .ok result) :
    ∀ joined ∈ result, good joined := by
  induction branches generalizing operand with
  | nil =>
      cases ended
      rintro _ ⟨⟩
      exact before
  | cons branch branches induction =>
      rw [List.forall_mem_cons] at keeps
      simp only [joinFrom] at ended
      split at ended
      · exact induction keeps.2 before ended
      · split at ended
        · next joinedNext => exact induction keeps.2 (keeps.1 _ _ before joinedNext) ended
        · cases ended

/-- A property of every branch that joining keeps is one of the joined value. -/
theorem forall_joinFrom_none (every : ∀ branch ∈ branches, good branch.operand)
    (ended : joinFrom policy none branches = .ok result) : ∀ joined ∈ result, good joined := by
  induction branches with
  | nil =>
      cases ended
      rintro _ ⟨⟩
  | cons branch branches induction =>
      rw [List.forall_mem_cons] at keeps every
      simp only [joinFrom] at ended
      split at ended
      · exact induction keeps.2 every.2 ended
      · exact forall_joinFrom_some keeps.2 every.1 ended

end

/-- Comptime branches take on a concrete joint type, so they have to fit. -/
def checkBranchesFit (ctx : Context) (tag : Tag) : List Resolved → Analysis Unit
  | [] => return
  | branch :: branches => do
      if branch.type.isComptime then
        discard <| checkFits ctx branch.position branch.operand.value tag
      checkBranchesFit ctx tag branches

/-- Join branches that nothing asks a type of. A single branch stays as it is. -/
def joinBranches (ctx : Context) (branches : List Resolved) : Analysis Operand := do
  match joinFrom ctx.policy none branches with
  | .error (position, finding) =>
      report position finding
      return .unknown
  | .ok none => return .unknown
  | .ok (some joined) =>
      match joined.type.scalarTag? with
      | some tag => if tag.isConcrete then checkBranchesFit ctx tag branches
      | none => pure ()
      match branches with
      | [branch] => return branch.operand
      | _ => return joined

def fillBranches (ctx : Context) (target : Ty) : List Resolved → Analysis Unit
  | [] => return
  | branch :: branches => do
      discard <| materialize ctx branch target "branch value"
      fillBranches ctx target branches

/-- The value of several branches. Where a type is asked for, each branch fills
it; otherwise the branches have to agree. -/
def unifyBranches (ctx : Context) (branches : List Resolved) (target : Option Ty) :
    Analysis Operand := do
  match target.filter (!·.isVoid) with
  | some target =>
      fillBranches ctx target branches
      return .typed target
  | none => joinBranches ctx branches

end ComptimeTyping.Analysis
