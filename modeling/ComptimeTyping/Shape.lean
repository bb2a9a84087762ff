import ComptimeTyping.Dim

/-! Whether a value of one shape fits an array type of another. Nothing is ever
truncated or padded: a fixed axis takes exactly its own length and a wildcard
axis takes any. -/

namespace ComptimeTyping

/-- A fixed target axis whose size differs from the source. -/
structure AxisMismatch where
  axis : Nat
  source : Dim
  target : Int
deriving DecidableEq, Repr

/-- Why a source shape does not fit a target shape. Axes are compared only once
the ranks agree. -/
inductive ShapeMismatch where
  | rank (source target : List Dim)
  | axes (source target : List Dim) (mismatches : List AxisMismatch)
deriving DecidableEq, Repr

namespace Shape

/-- The axes at which `source` does not fit `target`, numbered from `first`. -/
def mismatchesFrom (first : Nat) : List Dim → List Dim → List AxisMismatch
  | source :: sources, .fixed size :: targets =>
      if source = .fixed size then mismatchesFrom (first + 1) sources targets
      else ⟨first, source, size⟩ :: mismatchesFrom (first + 1) sources targets
  | _ :: sources, .wildcard :: targets => mismatchesFrom (first + 1) sources targets
  | _, _ => []

/-- Compare two concrete shapes. A wildcard source axis has no length before run
time, so it fits only a wildcard. -/
def checkConcrete (source target : List Dim) : Option ShapeMismatch :=
  if source.length = target.length then
    match mismatchesFrom 0 source target with
    | [] => none
    | mismatches => some (.axes source target mismatches)
  else
    some (.rank source target)

/-- The axes at which known lengths do not fit `target`, numbered from `first`. -/
def sizeMismatchesFrom (first : Nat) : List Int → List Dim → List AxisMismatch
  | size :: sizes, .fixed wanted :: targets =>
      if Dim.ofInt size = .fixed wanted then sizeMismatchesFrom (first + 1) sizes targets
      else ⟨first, .ofInt size, wanted⟩ :: sizeMismatchesFrom (first + 1) sizes targets
  | _ :: sizes, .wildcard :: targets => sizeMismatchesFrom (first + 1) sizes targets
  | _, _ => []

/-- Compare a shape whose lengths are all known. -/
def check (source : List Int) (target : List Dim) : Option ShapeMismatch :=
  if source.length = target.length then
    match sizeMismatchesFrom 0 source target with
    | [] => none
    | mismatches => some (.axes (source.map Dim.ofInt) target mismatches)
  else
    some (.rank (source.map Dim.ofInt) target)

theorem sizeMismatchesFrom_eq (first : Nat) (source : List Int) (target : List Dim) :
    sizeMismatchesFrom first source target =
      mismatchesFrom first (source.map Dim.ofInt) target := by
  induction source generalizing first target with
  | nil => rfl
  | cons size sizes induction =>
      rcases target with _ | ⟨_ | wanted, targets⟩
      · rfl
      · exact induction (first + 1) targets
      · simp only [List.map_cons, sizeMismatchesFrom, mismatchesFrom, induction]

/-- Known lengths are compared like those of a concrete type. -/
theorem check_eq (source : List Int) (target : List Dim) :
    check source target = checkConcrete (source.map Dim.ofInt) target := by
  simp only [check, checkConcrete, sizeMismatchesFrom_eq, List.length_map]

end Shape

namespace ShapeMismatch

def source : ShapeMismatch → List Dim
  | .rank source _ => source
  | .axes source _ _ => source

def target : ShapeMismatch → List Dim
  | .rank _ target => target
  | .axes _ target _ => target

def mismatches : ShapeMismatch → List AxisMismatch
  | .rank _ _ => []
  | .axes _ _ mismatches => mismatches

def isRank : ShapeMismatch → Bool
  | .rank _ _ => true
  | .axes _ _ _ => false

def message : ShapeMismatch → String
  | .rank source target =>
      toString source.length ++ "-dimensional array " ++ Dim.renderAll source
        ++ " does not fit " ++ toString target.length ++ "-dimensional "
        ++ Dim.renderAll target
  | .axes _ _ mismatches =>
      "array size mismatch ("
        ++ ", ".intercalate (mismatches.map fun mismatch =>
            "dimension " ++ toString mismatch.axis ++ ": " ++ mismatch.source.render
              ++ " vs " ++ toString mismatch.target)
        ++ ")"

/-- Relax to a wildcard every target axis that was at fault. -/
def relaxed (mismatch : ShapeMismatch) : List Dim :=
  mismatch.target.mapIdx fun axis dim =>
    if mismatch.mismatches.any (·.axis == axis) then .wildcard else dim

/-- A shape that the same source fits. -/
def suggestion : ShapeMismatch → List Dim
  | .rank source _ => source.map fun _ => .wildcard
  | mismatch => mismatch.relaxed

def help (mismatch : ShapeMismatch) : String :=
  match mismatch with
  | .rank source _ =>
      let rank := toString source.length
      "the value is " ++ rank ++ "-dimensional; use a " ++ rank
        ++ "-dimensional type such as `" ++ Dim.renderAll mismatch.suggestion
        ++ "`, or reshape the literal"
  | .axes _ target _ =>
      "accept any length with a wildcard dimension such as `"
        ++ Dim.renderAll mismatch.suggestion ++ "`, or resize the literal to "
        ++ Dim.renderAll target

end ShapeMismatch

end ComptimeTyping
