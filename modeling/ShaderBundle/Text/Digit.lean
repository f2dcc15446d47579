import ShaderBundle.Text.Blank
/-!
# Decimal digits and numerals

Two notions of digit are kept apart. A character is a decimal digit if Unicode gives it the general
category Nd, in whatever script; that decides where a number stands in a compiler's diagnostic. A
numeral is a text of ASCII digits; only a numeral has a value.
-/

namespace ShaderBundle.Text

/-- The zeros of the decimal digits of Unicode 16.0; the nine code points after each are its one to nine. -/
def digitZeros : List Nat :=
  [0x30, 0x660, 0x6F0, 0x7C0, 0x966, 0x9E6, 0xA66, 0xAE6, 0xB66, 0xBE6, 0xC66, 0xCE6, 0xD66, 0xDE6,
    0xE50, 0xED0, 0xF20, 0x1040, 0x1090, 0x17E0, 0x1810, 0x1946, 0x19D0, 0x1A80, 0x1A90, 0x1B50,
    0x1BB0, 0x1C40, 0x1C50, 0xA620, 0xA8D0, 0xA900, 0xA9D0, 0xA9F0, 0xAA50, 0xABF0, 0xFF10, 0x104A0,
    0x10D30, 0x10D40, 0x11066, 0x110F0, 0x11136, 0x111D0, 0x112F0, 0x11450, 0x114D0, 0x11650,
    0x116C0, 0x116D0, 0x116DA, 0x11730, 0x118E0, 0x11950, 0x11BF0, 0x11C50, 0x11D50, 0x11DA0,
    0x11F50, 0x16130, 0x16A60, 0x16AC0, 0x16B50, 0x16D70, 0x1CCF0, 0x1D7CE, 0x1D7D8, 0x1D7E2,
    0x1D7EC, 0x1D7F6, 0x1E140, 0x1E2F0, 0x1E4F0, 0x1E5F1, 0x1E950, 0x1FBF0]

/-- Whether a character is a decimal digit of any script. -/
def isDecimalDigit (c : Char) : Bool :=
  digitZeros.any fun first => first ≤ c.toNat && c.toNat < first + 10

/-- The value of a text of ASCII digits read from the left, after the digits read so far. -/
def digitsValue (soFar : Nat) (digits : Text) : Nat :=
  digits.foldl (fun value d => 10 * value + (d.toNat - '0'.toNat)) soFar

/-- Digits are read after those before them. -/
theorem digitsValue_append (soFar : Nat) (front back : Text) :
    digitsValue soFar (front ++ back) = digitsValue (digitsValue soFar front) back :=
  List.foldl_append

/-- The number that a numeral denotes: one or more ASCII digits, leading zeros allowed. -/
def numeral? (t : Text) : Option Nat :=
  if t ≠ [] ∧ t.all Char.isDigit then some (digitsValue 0 t) else none

/-- The number of at most `limit` that a numeral denotes, with a plus sign in front of it or none. -/
def unsigned? (limit : Nat) (t : Text) : Option Nat :=
  (numeral? ((['+'].isPrefixOf? t).getD t)).filter (· ≤ limit)

/-- A number in decimal has a digit. -/
theorem decimal_ne_nil (n : Nat) : decimal n ≠ [] := by
  unfold decimal
  split <;> simp

/-- A number in decimal has ASCII digits only. -/
theorem isDigit_of_mem_decimal {n : Nat} {c : Char} (listed : c ∈ decimal n) : c.isDigit = true := by
  fun_induction decimal n with
  | case1 n small =>
    rw [List.mem_singleton.1 listed]
    simpa [Nat.isDigit_digitChar] using small
  | case2 n large ih =>
    rcases List.mem_append.1 listed with front | last
    · exact ih front
    · rw [List.mem_singleton.1 last]
      simpa [Nat.isDigit_digitChar] using Nat.mod_lt n (by decide : 10 > 0)

/-- The digits of a number in decimal have that number as their value. -/
theorem digitsValue_decimal (n : Nat) : digitsValue 0 (decimal n) = n := by
  fun_induction decimal n with
  | case1 n small => simp [digitsValue, Nat.toNat_digitChar_of_lt_ten small]
  | case2 n large ih =>
    have last := Nat.toNat_digitChar_of_lt_ten (Nat.mod_lt n (by decide : 10 > 0))
    rw [digitsValue_append, ih]
    simp [digitsValue, last]
    omega

/-- A number in decimal is a numeral that denotes it. -/
theorem numeral?_decimal (n : Nat) : numeral? (decimal n) = some n := by
  rw [numeral?, if_pos ⟨decimal_ne_nil n, List.all_eq_true.2 fun _ => isDigit_of_mem_decimal⟩,
    digitsValue_decimal]

end ShaderBundle.Text
