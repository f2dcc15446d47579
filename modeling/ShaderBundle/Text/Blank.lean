import ShaderBundle.Text.Basic
/-!
# Blank characters

The Unicode property White_Space: what may stand around words, values and file names without being
part of them. Among the characters that look blank and are not in the property are the byte order
mark U+FEFF, the zero width space U+200B and the separators U+001C to U+001F.
-/

namespace ShaderBundle.Text

/-- The ranges of code points with the property White_Space, ascending and apart. -/
def blankRanges : List (Nat × Nat) :=
  [(0x09, 0x0D), (0x20, 0x20), (0x85, 0x85), (0xA0, 0xA0), (0x1680, 0x1680), (0x2000, 0x200A),
    (0x2028, 0x2029), (0x202F, 0x202F), (0x205F, 0x205F), (0x3000, 0x3000)]

/-- Whether a character's code point lies in one of the ranges. -/
def inRanges (ranges : List (Nat × Nat)) (c : Char) : Bool :=
  ranges.any fun (first, last) => first ≤ c.toNat && c.toNat ≤ last

/-- Whether a character is blank. -/
def isBlank (c : Char) : Bool :=
  inRanges blankRanges c

/-- The text without the blanks it starts with. -/
def trimStart (t : Text) : Text :=
  t.dropWhile isBlank

/-- The text without the blanks it ends with. -/
def trimEnd (t : Text) : Text :=
  (t.reverse.dropWhile isBlank).reverse

/-- The text without the blanks around it. -/
def trim (t : Text) : Text :=
  trimEnd (trimStart t)

/-- The words of a text: its longest stretches without a blank. -/
def words (t : Text) : List Text :=
  (t.splitOnP isBlank).filter (· ≠ [])

end ShaderBundle.Text
