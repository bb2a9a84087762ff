import ComptimeTyping.Options.File
import ComptimeTyping.Path

/-! The options file of a source file: the nearest one in the directories above. -/

namespace ComptimeTyping.Options

def fileName : String := "hexen.yaml"

/-- The options file of a directory, whether it exists or not. -/
def fileIn (directory : Path) : Path :=
  directory.child fileName

/-- Search a directory and those above it, up to and including `last` if the search
comes there. -/
def search (isPresent : Path → Bool) (last : Option Path) : (names : List String) → Option Path
  | [] => if isPresent (fileIn .root) then some (fileIn .root) else none
  | name :: above =>
      let directory : Path := ⟨name :: above⟩
      if isPresent (fileIn directory) then some (fileIn directory)
      else if last = some directory then none
      else search isPresent last above

/-- The options file that applies in a directory. -/
def find? (isPresent : Path → Bool) (directory : Path) (last : Option Path) : Option Path :=
  search isPresent last directory.names

/-- The options in a file that exists. -/
def load (files : FileSystem) (path : Path) : Except FileError Options :=
  match files.entry? path with
  | some (.file text) => ofYaml text
  | _ => .error .isDirectory

/-- The options for a source file, or what is wrong with their file. Without a source
file, or without an options file, the defaults hold. -/
def loadFor (files : FileSystem) (source last : Option Path) :
    Except (Path × FileError) Options :=
  match source.bind fun source => find? files.hasEntry source.parent last with
  | none => .ok {}
  | some path => (load files path).mapError fun error => (path, error)

end ComptimeTyping.Options
