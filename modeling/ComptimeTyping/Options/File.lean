import ComptimeTyping.Options.Basic
import ComptimeTyping.Yaml.Meaning

/-! Options from the text of an options file. -/

namespace ComptimeTyping.Options

open Text (Octets)
open Yaml (Meaning Tagging)

/-! ## What can be wrong with a file -/

inductive Mismatch where
  | kind (line : Nat) (tag text wanted : String)
  | repeatedKey (line : Nat) (key : String) (first : Nat)
  | repeatedField (line : Nat) (name : String)
deriving DecidableEq, Repr

def excerpt (text : String) : String :=
  if text.utf8ByteSize ≤ 10 then text
  else Octets.text ((Octets.ofString text).take 7) ++ "..."

namespace Mismatch

def wholeName : String := "config.Options"

def message : Mismatch → String
  | .kind line tag text wanted =>
      let text :=
        if tag = "!!seq" || tag = "!!map" then text else " `" ++ excerpt text ++ "`"
      "line " ++ toString line ++ ": cannot unmarshal " ++ tag ++ text ++ " into " ++ wanted
  | .repeatedKey line key first =>
      "line " ++ toString line ++ ": mapping key " ++ Text.quoted key
        ++ " already defined at line " ++ toString first
  | .repeatedField line name =>
      "line " ++ toString line ++ ": field " ++ name ++ " already set in type " ++ wholeName

def scalar (line : Nat) (tagging : Tagging) (text : String) (meaning : Meaning)
    (wanted : String) : Mismatch :=
  let tag := match tagging with
    | .tagged tag => tag
    | _ => meaning.tag
  .kind line tag text wanted

end Mismatch

inductive FileError where
  | isDirectory
  | malformed (error : Yaml.Error)
  | mismatched (mismatches : List Mismatch)
  | invalid (reason : Invalid)
deriving DecidableEq, Repr

def FileError.message (path : String) : FileError → String
  | .isDirectory => "reading options " ++ path ++ ": read " ++ path ++ ": is a directory"
  | .malformed error => "parsing " ++ path ++ ": " ++ error.message
  | .mismatched mismatches =>
      "parsing " ++ path ++ ": yaml: unmarshal errors:\n  "
        ++ "\n  ".intercalate (mismatches.map Mismatch.message)
  | .invalid reason => path ++ ": " ++ reason.message

/-! ## Fields -/

inductive Field where
  | branchPolicy
  | pointerWidth
  | maxErrors
  | color
deriving DecidableEq, Repr

namespace Field

def all : List Field := [.branchPolicy, .pointerWidth, .maxErrors, .color]

def name : Field → String
  | .branchPolicy => "branch_policy"
  | .pointerWidth => "pointer_width"
  | .maxErrors => "max_errors"
  | .color => "color"

def ofName? (name : Octets) : Option Field :=
  all.find? fun field => name = .ofString field.name

def kindName : Field → String
  | .branchPolicy => "config.BranchPolicy"
  | .pointerWidth => "int"
  | .maxErrors => "int"
  | .color => "config.ColorMode"

def set? (field : Field) (text : String) (meaning : Meaning) (draft : Draft) : Option Draft :=
  match field with
  | .branchPolicy => some { draft with branchPolicy := meaning.octets text }
  | .pointerWidth => meaning.word?.map fun width => { draft with pointerWidth := width }
  | .maxErrors => meaning.word?.map fun limit => { draft with maxErrors := limit }
  | .color => some { draft with color := meaning.octets text }

end Field

/-! ## Reading -/

structure Reading where
  draft : Draft := {}
  mismatches : List Mismatch := []
  visits : Nat := 0
  aliasVisits : Nat := 0

abbrev ReadingM := ReaderT Yaml.Document (StateT Reading (Except Yaml.Error))

namespace ReadingM

def report (mismatches : List Mismatch) : ReadingM Unit :=
  modify fun reading => { reading with mismatches := reading.mismatches ++ mismatches }

/-! ### Aliases

A trail holds the places in the text of the aliases that have been followed. -/

/-- Whether too many visits are behind aliases. Up to 400000 visits these are 99 of 100,
and from there the limit goes down steadily to 10 of 100 at 4000000 visits. -/
def isExcessive (visits aliasVisits : Nat) : Bool :=
  if visits ≤ 400000 then 99 * visits < 100 * aliasVisits
  else if 4000000 ≤ visits then visits < 10 * aliasVisits
  else visits * (356400000 - 89 * (visits - 400000)) < 360000000 * aliasVisits

def visit (trail : List Nat) : ReadingM Unit := do
  let reading ← get
  let visits := reading.visits + 1
  let aliasVisits := reading.aliasVisits + if trail.isEmpty then 0 else 1
  if 100 < aliasVisits && 1000 < visits && isExcessive visits aliasVisits then
    throw ⟨.tooManyAliases, none⟩
  set { reading with visits, aliasVisits }

/-- Visit a node, and the one it refers to if it is an alias. An alias cannot be
followed twice on one trail. -/
def follow (trail : List Nat) (node : Yaml.Node) : ReadingM (Yaml.Node × List Nat) := do
  visit trail
  match node with
  | .alias start name slot => do
      if trail.contains start.index then throw ⟨.selfReference name, none⟩
      let trail := start.index :: trail
      visit trail
      pure ((← read).target slot, trail)
  | node => pure (node, trail)

/-! ### Values -/

def repeatedKeys : List (Yaml.Node × Yaml.Node) → List Mismatch
  | [] => []
  | (key, _) :: rest =>
      (rest.filter fun other => key.isSameKey other.1).map (fun other =>
        .repeatedKey other.1.line other.1.keyText key.line) ++ repeatedKeys rest

def rejectCollection (node : Yaml.Node) (wanted : String) : ReadingM Unit :=
  match node with
  | .sequence line tag _ => report [.kind line (tag.getD "!!seq") "" wanted]
  | .mapping line tag pairs =>
      match repeatedKeys pairs with
      | [] => report [.kind line (tag.getD "!!map") "" wanted]
      | repeated => report repeated
  | _ => pure ()

def setField (trail : List Nat) (field : Field) (node : Yaml.Node) : ReadingM Unit := do
  match (← follow trail node).1 with
  | .scalar line tagging text => do
      let meaning ← Meaning.ofScalar tagging text
      if meaning = .null then return
      let reading ← get
      match field.set? text meaning reading.draft with
      | some draft => set { reading with draft }
      | none => report [.scalar line tagging text meaning field.kindName]
  | node => rejectCollection node field.kindName

def keyName? (trail : List Nat) (node : Yaml.Node) : ReadingM (Option Octets) := do
  match (← follow trail node).1 with
  | .scalar _ tagging text => do
      let meaning ← Meaning.ofScalar tagging text
      pure (if meaning = .null then none else some (meaning.octets text))
  | node => do
      rejectCollection node "string"
      pure none

/-! ### Mappings -/

def isMergeKey : Yaml.Node → Bool
  | .scalar _ tagging text =>
      text == Meaning.mergeText && (tagging == .plain || tagging == .tagged Meaning.mergeTag)
  | _ => false

def merged? (pairs : List (Yaml.Node × Yaml.Node)) : Option Yaml.Node :=
  (pairs.reverse.find? (isMergeKey ·.1)).map (·.2)

def mergeSources : Yaml.Node → List Yaml.Node
  | .sequence _ _ items => items
  | node => [node]

def followMapping (trail : List Nat) (node : Yaml.Node) :
    ReadingM (List (Yaml.Node × Yaml.Node) × List Nat) := do
  let document ← read
  let target := match node with
    | .alias _ _ slot => document.target slot
    | node => node
  match target with
  | .mapping _ _ pairs => do
      let (_, trail) ← follow trail node
      pure (pairs, trail)
  | _ => throw ⟨.badMerge, none⟩

/-- Set the fields that pairs name. `known` are the names that pairs further out have
set, if these pairs are merged into others, and `done` the fields set by pairs before. -/
def setPairs (trail : List Nat) (known : Option (List Octets)) (done : List Field) :
    List (Yaml.Node × Yaml.Node) → ReadingM (Option (List Octets))
  | [] => pure known
  | (key, value) :: rest => do
      if isMergeKey key then return ← setPairs trail known done rest
      let some name ← keyName? trail key | setPairs trail known done rest
      if (known.getD []).contains name then return ← setPairs trail known done rest
      let known := known.map (name :: ·)
      match Field.ofName? name with
      | none => setPairs trail known done rest
      | some field =>
          if done.contains field then
            report [.repeatedField key.line field.name]
            setPairs trail known done rest
          else
            setField trail field value
            setPairs trail known (field :: done) rest

def keyNames (trail : List Nat) (pairs : List (Yaml.Node × Yaml.Node)) :
    ReadingM (List Octets) := do
  pure ((← pairs.mapM fun pair => keyName? trail pair.1).filterMap id)

/-- Set the fields that a mapping names, then those that its merge key brings in. A
mapping with equal keys sets none. -/
def setMapping : (fuel : Nat) → (trail : List Nat) → (known : Option (List Octets)) →
    List (Yaml.Node × Yaml.Node) → ReadingM (Option (List Octets))
  | 0, _, known, _ => pure known
  | fuel + 1, trail, known, pairs => do
      let repeated := repeatedKeys pairs
      if !repeated.isEmpty then
        report repeated
        return known
      let known ← setPairs trail known [] pairs
      match merged? pairs with
      | none => pure known
      | some value =>
          let outer ← match known with
            | some names => pure names
            | none => keyNames trail pairs
          let merged ← (mergeSources value).foldlM (fun names source => do
            let (pairs, trail) ← followMapping trail source
            setMapping fuel trail names pairs) (some outer)
          pure (if known.isSome then merged else none)

def setDocument (fuel : Nat) : ReadingM Unit := do
  visit []
  match (← follow [] (← read).root).1 with
  | .scalar line tagging text => do
      let meaning ← Meaning.ofScalar tagging text
      if meaning ≠ .null then
        report [.scalar line tagging text meaning Mismatch.wholeName]
  | .mapping _ _ pairs => do
      let _ ← setMapping fuel [] none pairs
  | node => rejectCollection node Mismatch.wholeName

end ReadingM

/-! ## Files -/

def Reading.ofYaml (text : String) : Except Yaml.Error Reading := do
  match ← Yaml.Document.parse text with
  | none => pure {}
  | some document => do
      let size := text.length + 1
      let (_, reading) ← (ReadingM.setDocument (size * size)).run document |>.run {}
      pure reading

def ofYaml (text : String) : Except FileError Options := do
  let reading ← (Reading.ofYaml text).mapError .malformed
  if !reading.mismatches.isEmpty then throw (.mismatched reading.mismatches)
  reading.draft.validate.mapError .invalid

end ComptimeTyping.Options
