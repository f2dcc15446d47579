import ShaderBundle.Text.Digit
import Mathlib.Data.List.Basic
import Mathlib.Data.List.Induction
import Mathlib.Data.Nat.Digits.Defs
/-!
# What numerals denote

A numeral is read as the number that its digits denote by their position. Leading zeros do not matter, however
many there are, and a plus sign may stand in front where numbers without a sign are read up to a limit. A
numeral without a leading zero is the one that its number is written as.
-/

namespace ShaderBundle.Text

variable {t : Text} {n : Nat}

/-- A text of ASCII digits denotes a number in decimal; leading zeros are allowed. -/
def Denotes (t : Text) (n : Nat) : Prop :=
  t ≠ [] ∧ (∀ c ∈ t, c.isDigit = true) ∧ n = Nat.ofDigits 10 (t.reverse.map fun c => c.toNat - '0'.toNat)

/-- Digits that are read from the left have their value by position. -/
theorem digitsValue_eq_ofDigits (t : Text) :
    digitsValue 0 t = Nat.ofDigits 10 (t.reverse.map fun c => c.toNat - '0'.toNat) := by
  induction t using List.reverseRecOn with
  | nil => rfl
  | append_singleton t c ih =>
    have last : digitsValue 0 (t ++ [c]) = 10 * digitsValue 0 t + (c.toNat - '0'.toNat) :=
      digitsValue_append 0 t [c]
    rw [last, ih, List.reverse_append, List.reverse_singleton, List.singleton_append, List.map_cons,
      Nat.ofDigits_cons]
    omega

/-- A numeral is read as the number that it denotes. -/
theorem numeral?_eq_some_iff : numeral? t = some n ↔ t.Denotes n := by
  rw [numeral?, digitsValue_eq_ofDigits, Denotes, ← List.all_eq_true]
  by_cases digits : t ≠ [] ∧ t.all Char.isDigit = true
  · rw [if_pos digits, Option.some_inj]
    exact ⟨fun same => ⟨digits.1, digits.2, same.symm⟩, fun denotes => denotes.2.2.symm⟩
  · rw [if_neg digits]
    constructor
    · intro none
      contradiction
    · intro denotes
      exact absurd ⟨denotes.1, denotes.2.1⟩ digits

/-- A single digit denotes its value. -/
theorem denotes_singleton_iff {c : Char} : Denotes [c] n ↔ c.isDigit = true ∧ n = c.toNat - '0'.toNat := by
  have value : Nat.ofDigits 10 ([c].reverse.map fun c => c.toNat - '0'.toNat) = c.toNat - '0'.toNat :=
    Nat.ofDigits_singleton
  rw [Denotes, value, List.forall_mem_singleton]
  exact and_iff_right (List.cons_ne_nil c [])

/-- A text denotes a number without a sign, or with a plus sign in front of the numeral. -/
def DenotesUnsigned (t : Text) (n : Nat) : Prop :=
  t.Denotes n ∨ ∃ digits : Text, t = '+' :: digits ∧ digits.Denotes n

/-- A number up to a limit is read from the texts that denote it. -/
theorem unsigned?_eq_some_iff {limit : Nat} :
    unsigned? limit t = some n ↔ t.DenotesUnsigned n ∧ n ≤ limit := by
  have read : numeral? ((['+'].isPrefixOf? t).getD t) = some n ↔ t.DenotesUnsigned n := by
    rw [numeral?_eq_some_iff, DenotesUnsigned]
    cases sign : ['+'].isPrefixOf? t with
    | none =>
      refine ⟨Or.inl, fun denotes => denotes.resolve_right ?_⟩
      rintro ⟨digits, rfl, _⟩
      cases sign
    | some digits =>
      obtain rfl : t = '+' :: digits := (List.append_eq_of_isPrefixOf?_eq_some sign).symm
      have plus : ¬ Denotes ('+' :: digits) n := fun denotes =>
        absurd (denotes.2.1 '+' List.mem_cons_self) (by decide)
      refine ⟨fun denotes => .inr ⟨digits, rfl, denotes⟩, fun denotes => ?_⟩
      obtain ⟨_, same, denotes⟩ := denotes.resolve_left plus
      obtain rfl := (List.cons.inj same).2
      exact denotes
  rw [unsigned?, Option.filter_eq_some_iff, read, decide_eq_true_eq]

/-- A digit is the one that its value is written with. -/
theorem digitChar_sub_of_isDigit {c : Char} (digit : c.isDigit = true) :
    c.toNat - '0'.toNat < 10 ∧ Nat.digitChar (c.toNat - '0'.toNat) = c := by
  obtain ⟨low, high⟩ := Char.isDigit_iff_toNat.1 digit
  have zero : '0'.toNat = 48 := rfl
  have nine : '9'.toNat = 57 := rfl
  have small : c.toNat - '0'.toNat < 10 := by omega
  refine ⟨small, Char.toNat_inj.1 ?_⟩
  rw [Nat.toNat_digitChar_of_lt_ten small]
  omega

/-- Zero is written as one digit. -/
theorem decimal_zero : decimal 0 = ['0'] := by
  rw [decimal]
  rfl

/-- A number other than zero is written without a leading zero. -/
theorem head?_decimal_ne (positive : 0 < n) : (decimal n).head? ≠ some '0' := by
  fun_induction decimal n with
  | case1 n small =>
    intro zero
    have value := Nat.toNat_digitChar_of_lt_ten small
    rw [Option.some.inj zero] at value
    have zero : '0'.toNat = 48 := rfl
    omega
  | case2 n large ih =>
    have tens : 0 < n / 10 := by omega
    rw [List.head?_append_of_ne_nil _ (decimal_ne_nil _)]
    exact ih tens

/-- Digits without a leading zero are what their value is written as. -/
theorem decimal_digitsValue (filled : t ≠ []) (digits : ∀ c ∈ t, c.isDigit = true)
    (first : t.head? ≠ some '0') : decimal (digitsValue 0 t) = t := by
  induction t using List.reverseRecOn with
  | nil => contradiction
  | append_singleton front c ih =>
    obtain ⟨small, written⟩ := digitChar_sub_of_isDigit (digits c (by simp))
    have value : digitsValue 0 (front ++ [c]) = 10 * digitsValue 0 front + (c.toNat - '0'.toNat) :=
      digitsValue_append 0 front [c]
    rw [value, decimal]
    by_cases single : front = []
    · subst single
      have alone : 10 * digitsValue 0 [] + (c.toNat - '0'.toNat) = c.toNat - '0'.toNat := by
        rw [digitsValue, List.foldl_nil, Nat.mul_zero, Nat.zero_add]
      rw [alone, if_pos small, written, List.nil_append]
    · rw [List.head?_append_of_ne_nil _ single] at first
      have front_eq := ih single (fun d inside => digits d (List.mem_append_left _ inside)) first
      have positive : 0 < digitsValue 0 front := by
        by_contra zero
        rw [Nat.eq_zero_of_not_pos zero, decimal_zero] at front_eq
        exact first (by rw [← front_eq]; rfl)
      have tens : (10 * digitsValue 0 front + (c.toNat - '0'.toNat)) / 10 = digitsValue 0 front := by omega
      have ones : (10 * digitsValue 0 front + (c.toNat - '0'.toNat)) % 10 = c.toNat - '0'.toNat := by omega
      rw [if_neg (by omega), tens, ones, front_eq, written]

/-- Digits without a leading zero denote the number that they write. -/
theorem numeral?_eq_some_iff_decimal (first : t.head? ≠ some '0') :
    numeral? t = some n ↔ 0 < n ∧ t = decimal n := by
  constructor
  · intro read
    rw [numeral?] at read
    split at read
    · next digits =>
      obtain rfl := Option.some.inj read
      have same := decimal_digitsValue digits.1 (List.all_eq_true.1 digits.2) first
      refine ⟨Nat.pos_of_ne_zero fun zero => ?_, same.symm⟩
      rw [zero, decimal_zero] at same
      exact first (by rw [← same]; rfl)
    · cases read
  · rintro ⟨_, rfl⟩
    exact numeral?_decimal n
end ShaderBundle.Text
