/-!
# Texts

A text is a list of characters. This file holds the few operations that every reader of texts in
this library shares: cutting a text into the lines of a file, and writing numbers in decimal.
-/

namespace ShaderBundle

/-- A text: its characters in order. -/
abbrev Text := List Char

namespace Text

/-- The text without the carriage return that ends it, if one does. -/
def dropReturn (t : Text) : Text :=
  (['\r'].isSuffixOf? t).getD t

/--
The lines of a file's text. A line feed ends a line, together with a carriage return right before
it; what follows the last line feed is a line only if it is not empty, and is kept as it stands.
-/
def lines (t : Text) : List Text :=
  let pieces := t.splitOn '\n'
  pieces.dropLast.map dropReturn ++ pieces.getLast?.toList.filter (· ≠ [])

/-- The lines put back into one text, each ended by a line feed. -/
def unlines (ls : List Text) : Text :=
  ls.flatMap (· ++ ['\n'])

/-- A number in decimal, without leading zeros. -/
def decimal (n : Nat) : Text :=
  if n < 10 then [Nat.digitChar n] else decimal (n / 10) ++ [Nat.digitChar (n % 10)]

/-- The number of bytes of a text in UTF-8. -/
def byteCount : Text → Nat
  | [] => 0
  | c :: t => c.utf8Size + byteCount t

/-- A text with every ASCII letter in upper case. -/
def upper (t : Text) : Text :=
  t.map Char.toUpper

end Text

end ShaderBundle
