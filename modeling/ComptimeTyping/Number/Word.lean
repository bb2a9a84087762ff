/-! Signed 64-bit words. -/

namespace ComptimeTyping.Word

def least : Int := -0x8000000000000000

def greatest : Int := 0x7fffffffffffffff

/-- Whether a number has a word of its own. -/
def holds (value : Int) : Bool :=
  decide (least ≤ value ∧ value ≤ greatest)

/-- The word of a number: two's complement, so it wraps around at either end. -/
def wrap (value : Int) : Int :=
  value.bmod 0x10000000000000000

theorem wrap_of_holds {value : Int} (inside : holds value = true) : wrap value = value := by
  have bounds : least ≤ value ∧ value ≤ greatest := of_decide_eq_true inside
  unfold least greatest at bounds
  unfold wrap
  rw [Int.bmod_def]
  split <;> omega

/-- The value as a word, if it is one. -/
def ofInt? (value : Int) : Option Int :=
  if holds value then some value else none

end ComptimeTyping.Word
