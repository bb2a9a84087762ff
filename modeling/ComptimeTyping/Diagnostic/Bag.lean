import ComptimeTyping.Diagnostic.Basic

/-! The diagnostics of one unit: each problem once, up to a limit. -/

namespace ComptimeTyping

structure Bag where
  /-- The file of a diagnostic that names none. -/
  file : String
  /-- How many diagnostics to keep; zero or less keeps all. -/
  limit : Int := 0
  /-- In report order. -/
  recorded : List Diagnostic := []
  /-- How many new diagnostics arrived at a full bag. -/
  dropped : Nat := 0
deriving DecidableEq, Repr

namespace Bag

def isFull (bag : Bag) : Bool :=
  decide (0 < bag.limit ∧ bag.limit ≤ bag.recorded.length)

def isRecorded (bag : Bag) (diagnostic : Diagnostic) : Bool :=
  bag.recorded.any (·.key == diagnostic.key)

/-- Record a diagnostic unless the same one is there or the bag is full. -/
def report (bag : Bag) (diagnostic : Diagnostic) : Bag :=
  if bag.isRecorded diagnostic then bag
  else if bag.isFull then { bag with dropped := bag.dropped + 1 }
  else
    let placed := if diagnostic.file = "" then { diagnostic with file := bag.file } else diagnostic
    { bag with recorded := bag.recorded ++ [placed] }

def reportAll (bag : Bag) (diagnostics : List Diagnostic) : Bag :=
  diagnostics.foldl report bag

/-- Take what may be no diagnostic at all. -/
def receive (bag : Bag) (diagnostic : Option Diagnostic) : Bag :=
  diagnostic.elim bag bag.report

def receiveAll (bag : Bag) (diagnostics : List (Option Diagnostic)) : Bag :=
  diagnostics.foldl receive bag

/-- Ordered by position; diagnostics at one position keep their report order. -/
def sorted (bag : Bag) : List Diagnostic :=
  bag.recorded.mergeSort fun left right => left.position.le right.position

def isEmpty (bag : Bag) : Bool :=
  bag.recorded.isEmpty

end Bag

end ComptimeTyping
