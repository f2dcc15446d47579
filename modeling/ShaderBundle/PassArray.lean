import ShaderBundle.Text.Digit
/-!
# Pass arrays

Some full-screen passes come in numbered arrays. The first slot of an array is named by the array's
stem alone, the others by the stem and their number in decimal.
-/

namespace ShaderBundle

/-- The arrays of full-screen passes, in the order of listings. -/
inductive PassArray where
  | setup
  | begin
  | shadowComposite
  | prepare
  | deferred
  | composite
deriving DecidableEq

namespace PassArray

/-- Every array of passes. -/
def all : List PassArray := [.setup, .begin, .shadowComposite, .prepare, .deferred, .composite]

/-- Every array of passes is listed. -/
theorem mem_all (array : PassArray) : array ∈ all := by
  cases array <;> decide

/-- The word with which the names of the array's slots start. -/
def word : PassArray → String
  | .setup => "setup"
  | .begin => "begin"
  | .shadowComposite => "shadowcomp"
  | .prepare => "prepare"
  | .deferred => "deferred"
  | .composite => "composite"

/-- The stem of the names of the array's slots. -/
def stem (a : PassArray) : Text := a.word.toList

/-- The name by which listings speak of the array. -/
def label : PassArray → String
  | .setup => "Setup"
  | .begin => "Begin"
  | .shadowComposite => "ShadowComposite"
  | .prepare => "Prepare"
  | .deferred => "Deferred"
  | .composite => "Composite"

/-- The number of slots in every array. -/
def slotCount : Nat := 100

/-- The name of a slot, if the array has it. -/
def slotName? (a : PassArray) (slot : Nat) : Option Text :=
  if slot = 0 then some a.stem
  else if slot < slotCount then some (a.stem ++ Text.decimal slot)
  else none

/-- A name of a slot is the stem, for the first slot, or the stem and the slot's number. -/
theorem slotName?_eq_some_iff {a : PassArray} {slot : Nat} {name : Text} :
    a.slotName? slot = some name ↔
      slot = 0 ∧ a.stem = name ∨
        0 < slot ∧ slot < slotCount ∧ a.stem ++ Text.decimal slot = name := by
  rw [slotName?]
  by_cases first : slot = 0
  · simp [first]
  · have later : 0 < slot := by omega
    by_cases inside : slot < slotCount
    · simp [first, later, inside]
    · simp [first, inside]

/-- The slot that follows a stem in a name: none written for the first, else a numeral without leading
zeros. The number has to fit a machine word before it is compared with the number of slots. -/
def slot? (digits : Text) : Option Nat :=
  if digits = [] then some 0
  else if digits.head? = some '0' || !digits.all Char.isDigit then none
  else (Text.unsigned? (UInt64.size - 1) digits).filter fun slot => 0 < slot && slot < slotCount

/-- The array and slot that a name stands for. -/
def ofSlotName? (t : Text) : Option (PassArray × Nat) :=
  all.findSome? fun a => ((a.stem.isPrefixOf? t).bind slot?).map fun slot => (a, slot)

end PassArray

end ShaderBundle
