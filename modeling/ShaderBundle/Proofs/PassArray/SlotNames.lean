import ShaderBundle.PassArray
import ShaderBundle.Proofs.Text.Numerals
import Mathlib.Data.List.TakeWhile
/-!
# Names of slots

The name of a slot is the stem of its array, behind which the number stands in decimal unless it is that of the
first slot. No stem holds a digit, so a name shows where its stem ends, and with it which array it belongs to,
even where one stem begins another word. A number without a leading zero is the only way to write it. So a name
is read as the slot that it names, and nothing else is read at all.
-/

namespace ShaderBundle

namespace Text

/-- Digits have no sign, so reading them takes no account of one. -/
theorem unsigned?_of_digits {t : Text} (limit : Nat) (digits : ∀ c ∈ t, c.isDigit = true) :
    unsigned? limit t = (numeral? t).filter (· ≤ limit) := by
  have unsigned : ['+'].isPrefixOf? t = none := by
    by_contra signed
    obtain ⟨rest, found⟩ := Option.ne_none_iff_exists'.1 signed
    rw [← List.append_eq_of_isPrefixOf?_eq_some found] at digits
    exact absurd (digits '+' List.mem_cons_self) (by decide)
  rw [unsigned?, unsigned, Option.getD_none]

end Text

namespace PassArray

variable {name digits : Text} {array other : PassArray} {slot slot' : Nat}

/-- Behind a stem a slot is read from nothing, as the first one, and from its number in decimal. -/
theorem slot?_eq_some_iff :
    slot? digits = some slot ↔
      digits = [] ∧ slot = 0 ∨ digits = Text.decimal slot ∧ 0 < slot ∧ slot < slotCount := by
  rw [slot?]
  by_cases nothing : digits = []
  · have unwritten : ¬ [] = Text.decimal slot := fun same => Text.decimal_ne_nil slot same.symm
    simp [nothing, unwritten, eq_comm]
  · rw [if_neg nothing]
    by_cases leading : digits.head? = some '0'
    · have unwritten : ¬ (digits = Text.decimal slot ∧ 0 < slot ∧ slot < slotCount) := by
        rintro ⟨rfl, positive, _⟩
        exact Text.head?_decimal_ne positive leading
      simp [nothing, leading, unwritten]
    · by_cases numeric : digits.all Char.isDigit = true
      · have read := Text.unsigned?_of_digits (UInt64.size - 1) (List.all_eq_true.1 numeric)
        have word : slotCount ≤ UInt64.size - 1 := by decide
        simp only [leading, numeric, decide_false, Bool.not_true, Bool.or_self, Bool.false_eq_true, if_false, read,
          Option.filter_eq_some_iff, Text.numeral?_eq_some_iff_decimal leading, nothing, false_and, false_or,
          Bool.and_eq_true, decide_eq_true_eq]
        constructor
        · rintro ⟨⟨⟨_, same⟩, _⟩, inside⟩
          exact ⟨same, inside⟩
        · rintro ⟨same, positive, inside⟩
          exact ⟨⟨⟨positive, same⟩, by omega⟩, positive, inside⟩
      · have unwritten : ¬ digits = Text.decimal slot := by
          rintro rfl
          exact numeric (List.all_eq_true.2 fun _ => Text.isDigit_of_mem_decimal)
        simp [nothing, numeric, unwritten]

/-- What is read behind the stem of an array is a slot by whose name the array has it. -/
theorem bind_slot?_eq_some_iff :
    (array.stem.isPrefixOf? name).bind slot? = some slot ↔ array.slotName? slot = some name := by
  rw [slotName?_eq_some_iff, Option.bind_eq_some_iff]
  simp only [List.isPrefixOf?_eq_some_iff_append_eq, slot?_eq_some_iff]
  constructor
  · rintro ⟨_, rfl, ⟨rfl, rfl⟩ | ⟨rfl, positive, inside⟩⟩
    · exact Or.inl ⟨rfl, (List.append_nil _).symm⟩
    · exact Or.inr ⟨positive, inside, rfl⟩
  · rintro (⟨rfl, rfl⟩ | ⟨positive, inside, rfl⟩)
    · exact ⟨[], List.append_nil _, Or.inl ⟨rfl, rfl⟩⟩
    · exact ⟨Text.decimal slot, rfl, Or.inr ⟨rfl, positive, inside⟩⟩

/-- No stem holds a digit. -/
theorem isDigit_of_mem_stem {c : Char} (inside : c ∈ array.stem) : c.isDigit = false := by
  have plain : (array.stem.all fun c => !c.isDigit) = true := by cases array <;> decide
  have apart := List.all_eq_true.1 plain c inside
  rwa [Bool.not_eq_true'] at apart

/-- An array is told by its stem. -/
theorem stem_injective : Function.Injective stem := by
  intro array other same
  cases array <;> cases other <;> first | rfl | exact absurd same (by decide)

/-- The name of a slot up to its first digit is the stem of the array. -/
theorem takeWhile_of_slotName? (named : array.slotName? slot = some name) :
    name.takeWhile (fun c => !c.isDigit) = array.stem := by
  have letters : ∀ c ∈ array.stem, (!c.isDigit) = true := by
    intro c inside
    rw [isDigit_of_mem_stem inside, Bool.not_false]
  have numberless : (Text.decimal slot).takeWhile (fun c => !c.isDigit) = [] := by
    rw [List.takeWhile_eq_nil_iff]
    intro filled digit
    rw [Text.isDigit_of_mem_decimal (List.get_mem _ ⟨0, filled⟩)] at digit
    cases digit
  rcases slotName?_eq_some_iff.1 named with ⟨_, rfl⟩ | ⟨_, _, rfl⟩
  · rw [List.takeWhile_eq_self_iff]
    exact letters
  · rw [List.takeWhile_append_of_pos letters, numberless, List.append_nil]

/-- A name is that of one slot only. -/
theorem eq_of_slotName? (named : array.slotName? slot = some name)
    (named' : other.slotName? slot' = some name) : array = other ∧ slot = slot' := by
  have same : array = other :=
    stem_injective ((takeWhile_of_slotName? named).symm.trans (takeWhile_of_slotName? named'))
  subst same
  have read := bind_slot?_eq_some_iff.2 named
  rw [bind_slot?_eq_some_iff.2 named'] at read
  exact ⟨rfl, (Option.some.inj read).symm⟩

/-- A text is read as a slot exactly if it is the name of that slot, and as none if it is the name of none. -/
theorem readsNames (name : Text) :
    (∀ (array : PassArray) slot, ofSlotName? name = some (array, slot) ↔ array.slotName? slot = some name) ∧
      (ofSlotName? name = none ↔ ∀ (array : PassArray) slot, array.slotName? slot ≠ some name) := by
  have found {array : PassArray} {slot : Nat} (read : ofSlotName? name = some (array, slot)) :
      array.slotName? slot = some name := by
    obtain ⟨tried, _, at_tried⟩ := List.exists_of_findSome?_eq_some read
    obtain ⟨at_slot, behind, same⟩ := Option.map_eq_some_iff.1 at_tried
    obtain ⟨rfl, rfl⟩ := Prod.mk.inj same
    exact bind_slot?_eq_some_iff.1 behind
  have reads {array : PassArray} {slot : Nat} (named : array.slotName? slot = some name) :
      ofSlotName? name = some (array, slot) := by
    cases read : ofSlotName? name with
    | none =>
      have passed := List.findSome?_eq_none_iff.1 read array array.mem_all
      rw [bind_slot?_eq_some_iff.2 named] at passed
      contradiction
    | some answer =>
      -- whichever array the search stops at, the name is that of its slot, and no name has two
      obtain ⟨rfl, rfl⟩ := eq_of_slotName? (found read) named
      rfl
  refine ⟨fun array slot => ⟨found, reads⟩, fun unread array slot named => ?_, fun unnamed => ?_⟩
  · rw [reads named] at unread
    contradiction
  · cases read : ofSlotName? name with
    | none => rfl
    | some answer => exact absurd (found read) (unnamed answer.1 answer.2)

example : ofSlotName? "shadowcomp3".toList = some (.shadowComposite, 3) := by decide +kernel

example : ofSlotName? "composite07".toList = none := by decide +kernel

end PassArray

end ShaderBundle
