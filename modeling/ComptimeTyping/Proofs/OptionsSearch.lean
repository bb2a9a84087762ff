import ComptimeTyping.Options.Search

/-! The search for an options file. It looks at a directory and climbs to its parent, until it
finds a file or has looked at the last directory or at the root, which is its own parent. So it
comes to an end in every file system, with the file of the nearest directory that has one. -/

namespace ComptimeTyping

/-! ## Directories above -/

namespace Path

theorem isWithin_iff {path directory : Path} :
    path.isWithin directory = true ↔ directory.names <:+ path.names :=
  List.isSuffixOf_iff_suffix

theorem isWithin_self (path : Path) : path.isWithin path = true :=
  isWithin_iff.mpr List.suffix_rfl

theorem isWithin_root (path : Path) : path.isWithin .root = true :=
  isWithin_iff.mpr List.nil_suffix

theorem eq_of_isWithin {path other : Path} (below : path.isWithin other = true)
    (above : other.isWithin path = true) : path = other := by
  rw [isWithin_iff] at below above
  have longer := below.length_le
  have shorter := above.length_le
  have names := below.eq_of_length (by omega)
  cases path
  cases other
  exact congrArg Path.mk names.symm

/-- What is above a path is the path itself or above its parent. -/
theorem isWithin_iff_parent {path other : Path} :
    path.isWithin other = true ↔ other = path ∨ path.parent.isWithin other = true := by
  rcases path with ⟨_ | ⟨name, above⟩⟩
  · rw [isWithin_iff, isWithin_iff]
    constructor
    · exact .inr
    · rintro (rfl | suffix)
      · exact List.suffix_rfl
      · exact suffix
  · rw [isWithin_iff, isWithin_iff, List.suffix_cons_iff]
    constructor
    · rintro (same | suffix)
      · cases other
        exact .inl (congrArg Path.mk same)
      · exact .inr suffix
    · rintro (rfl | suffix)
      · exact .inl rfl
      · exact .inr suffix

/-- Only the root is its own parent. -/
theorem parent_eq_self_iff {path : Path} : path.parent = path ↔ path = .root := by
  rcases path with ⟨_ | ⟨name, above⟩⟩
  · exact ⟨fun _ => rfl, fun _ => rfl⟩
  · constructor
    · intro same
      have names : above = name :: above := congrArg Path.names same
      have lengths := congrArg List.length names
      rw [List.length_cons] at lengths
      omega
    · nofun

end Path

namespace Options

variable {isPresent : Path → Bool} {last : Option Path} {directory top : Path}

/-! ## Rounds -/

/-- What comes of a look at one directory. -/
inductive Round where
  | ends (result : Option Path)
  | climbs (directory : Path)

/-- Look at one directory. The search goes on at its parent, unless there is a file or nowhere
to go. -/
def round (isPresent : Path → Bool) (last : Option Path) (directory : Path) : Round :=
  if isPresent (fileIn directory) then .ends (some (fileIn directory))
  else if directory.parent = directory ∨ last = some directory then .ends none
  else .climbs directory.parent

theorem round_cases (isPresent : Path → Bool) (last : Option Path) (directory : Path) :
    (isPresent (fileIn directory) = true ∧
      round isPresent last directory = .ends (some (fileIn directory))) ∨
    (isPresent (fileIn directory) = false ∧ (directory = .root ∨ last = some directory) ∧
      round isPresent last directory = .ends none) ∨
    (isPresent (fileIn directory) = false ∧ (directory ≠ .root ∧ last ≠ some directory) ∧
      round isPresent last directory = .climbs directory.parent) := by
  unfold round
  simp only [Path.parent_eq_self_iff]
  cases isPresent (fileIn directory) with
  | true => exact .inl ⟨rfl, rfl⟩
  | false =>
      by_cases stops : directory = .root ∨ last = some directory
      · exact .inr (.inl ⟨rfl, stops, if_pos stops⟩)
      · exact .inr (.inr ⟨rfl, not_or.mp stops, if_neg stops⟩)

/-- A search from a directory ends with a result after a number of rounds. -/
inductive Ends (isPresent : Path → Bool) (last : Option Path) :
    Nat → Path → Option Path → Prop
  | here {directory : Path} {result : Option Path}
      (ends : round isPresent last directory = .ends result) :
      Ends isPresent last 1 directory result
  | above {directory next : Path} {rounds : Nat} {result : Option Path}
      (climbs : round isPresent last directory = .climbs next)
      (rest : Ends isPresent last rounds next result) :
      Ends isPresent last (rounds + 1) directory result

theorem Ends.unique {rounds others : Nat} {result other : Option Path}
    (left : Ends isPresent last rounds directory result)
    (right : Ends isPresent last others directory other) : result = other := by
  induction left generalizing others with
  | here ends =>
      cases right with
      | here same =>
          rw [ends] at same
          cases same
          rfl
      | above climbs _ =>
          rw [ends] at climbs
          cases climbs
  | above climbs _ induction =>
      cases right with
      | here ends =>
          rw [climbs] at ends
          cases ends
      | above same rest =>
          rw [climbs] at same
          cases same
          exact induction rest

/-- The last directory of a search: the given one if it is on the way, or else the root. -/
def topmost (directory : Path) : Option Path → Path
  | none => .root
  | some last => if directory.isWithin last then last else .root

theorem isWithin_topmost (directory : Path) (last : Option Path) :
    directory.isWithin (topmost directory last) = true := by
  unfold topmost
  split
  · exact directory.isWithin_root
  · split
    · assumption
    · exact directory.isWithin_root

theorem topmost_parent (notLast : last ≠ some directory) :
    topmost directory.parent last = topmost directory last := by
  cases last with
  | none => rfl
  | some last =>
      have other : last ≠ directory := fun same => notLast (congrArg some same)
      have same : directory.isWithin last = directory.parent.isWithin last := by
        rw [Bool.eq_iff_iff, Path.isWithin_iff_parent, or_iff_right other]
      unfold topmost
      dsimp only
      rw [same]

/-- Between a directory and itself there is nothing else. -/
theorem topmost_self (stops : directory = .root ∨ last = some directory) :
    topmost directory last = directory := by
  rcases stops with rfl | rfl
  · exact (Path.eq_of_isWithin (isWithin_topmost .root last) (Path.isWithin_root _)).symm
  · unfold topmost
    exact if_pos directory.isWithin_self

/-- A directory with an options file, between two others, such that no directory nearer to the
first one has one. -/
structure IsNearest (isPresent : Path → Bool) (directory top found : Path) : Prop where
  above : directory.isWithin found = true
  below : found.isWithin top = true
  present : isPresent (fileIn found) = true
  nearest : ∀ other, directory.isWithin other = true → other.isWithin found = true →
    isPresent (fileIn other) = true → other = found

/-- A result is the nearest options file between two directories, or there is none. -/
def Answers (isPresent : Path → Bool) (directory top : Path) : Option Path → Prop
  | some path => ∃ found, path = fileIn found ∧ IsNearest isPresent directory top found
  | none => ∀ other, directory.isWithin other = true → other.isWithin top = true →
      isPresent (fileIn other) = false

theorem answers_present (present : isPresent (fileIn directory) = true)
    (within : directory.isWithin top = true) :
    Answers isPresent directory top (some (fileIn directory)) := by
  refine ⟨directory, rfl, directory.isWithin_self, within, present, ?_⟩
  intro other above below _
  exact (Path.eq_of_isWithin above below).symm

theorem answers_last (absent : isPresent (fileIn directory) = false) :
    Answers isPresent directory directory none := by
  intro other above below
  rw [← Path.eq_of_isWithin above below]
  exact absent

/-- A directory without a file can be passed. -/
theorem answers_parent {result : Option Path} (absent : isPresent (fileIn directory) = false)
    (answers : Answers isPresent directory.parent top result) :
    Answers isPresent directory top result := by
  cases result with
  | none =>
      intro other above below
      rcases Path.isWithin_iff_parent.mp above with rfl | above
      · exact absent
      · exact answers other above below
  | some path =>
      rcases answers with ⟨found, isFile, nearest⟩
      refine ⟨found, isFile, Path.isWithin_iff_parent.mpr (.inr nearest.above), nearest.below,
        nearest.present, ?_⟩
      intro other above below present
      rcases Path.isWithin_iff_parent.mp above with rfl | above
      · rw [absent] at present
        cases present
      · exact nearest.nearest other above below present

theorem Ends.answers {rounds : Nat} {result : Option Path}
    (ends : Ends isPresent last rounds directory result) :
    Answers isPresent directory (topmost directory last) result := by
  induction ends with
  | @here directory result ends =>
      rcases round_cases isPresent last directory with
        ⟨present, round⟩ | ⟨absent, stops, round⟩ | ⟨_, _, round⟩
      all_goals
        rw [ends] at round
        cases round
      · exact answers_present present (isWithin_topmost directory last)
      · rw [topmost_self stops]
        exact answers_last absent
  | @above directory next rounds result climbs _ induction =>
      rcases round_cases isPresent last directory with
        ⟨_, round⟩ | ⟨_, _, round⟩ | ⟨absent, ⟨_, notLast⟩, round⟩
      all_goals
        rw [climbs] at round
        cases round
      rw [topmost_parent notLast] at induction
      exact answers_parent absent induction

end Options

end ComptimeTyping
