/-! Absolute paths of files and directories, without `.`, `..` or empty names. -/

namespace ComptimeTyping

structure Path where
  /-- The names on the way, innermost first. -/
  names : List String
deriving DecidableEq, Repr

namespace Path

/-- The directory that holds everything. -/
def root : Path := ⟨[]⟩

def child (path : Path) (name : String) : Path :=
  ⟨name :: path.names⟩

/-- The directory of a path; the root is in itself. -/
def parent (path : Path) : Path :=
  ⟨path.names.tail⟩

def text (path : Path) : String :=
  "/" ++ "/".intercalate path.names.reverse

/-- Whether `path` is `directory` or lies somewhere below it. -/
def isWithin (path directory : Path) : Bool :=
  directory.names.isSuffixOf path.names

/-- Take one step of a written path. -/
def step (path : Path) (name : String) : Path :=
  if name = "" || name = "." then path
  else if name = ".." then path.parent
  else path.child name

/-- Follow a written path from a directory. -/
def follow (path : Path) (written : String) : Path :=
  (written.splitOn "/").foldl step path

end Path

/-! ## File systems -/

inductive FileEntry where
  | file (text : String)
  | directory
deriving DecidableEq, Repr

/-- Files and directories as they were made, one after the other. -/
structure FileSystem where
  entries : List (Path × FileEntry) := []
deriving DecidableEq, Repr

namespace FileSystem

/-- What is at a path: the latest entry there, or a directory that holds an entry. -/
def entry? (files : FileSystem) (path : Path) : Option FileEntry :=
  match files.entries.reverse.lookup path with
  | some entry => some entry
  | none =>
      if files.entries.any fun entry => entry.1.isWithin path then some .directory else none

def hasEntry (files : FileSystem) (path : Path) : Bool :=
  (files.entry? path).isSome

end FileSystem

end ComptimeTyping
