import ShaderBundle.Text.Blank
import ShaderBundle.Text.Shapeless
/-!
# Quoted texts

How a message shows a text whose ends must be visible: between double quotes, with a backslash form
for the quote, the backslash, four control characters and every character without a shape of its
own.
-/

namespace ShaderBundle.Text

/-- Whether a character has no shape of its own: a control character, or one of the listed ranges. -/
def isShapeless (c : Char) : Bool :=
  if c.toNat < 0x7F then c.toNat < 0x20
  else if c.toNat < 0x1000 then inRanges shapelessLow c
  else if c.toNat < 0x10000 then inRanges shapelessMiddle c
  else inRanges shapelessHigh c

/-- The letter that stands for a character after a backslash, where there is one. -/
def escapeLetter? : Char → Option Char
  | '\x00' => some '0'
  | '\t' => some 't'
  | '\n' => some 'n'
  | '\r' => some 'r'
  | '"' => some '"'
  | '\\' => some '\\'
  | _ => none

/-- A character as it stands between quotes. -/
def quoteChar (c : Char) : Text :=
  match escapeLetter? c with
  | some letter => ['\\', letter]
  | none =>
    if isShapeless c then ['\\', 'u', '\x7b'] ++ Nat.toDigits 16 c.toNat ++ ['\x7d'] else [c]

/-- The text between double quotes. -/
def quoted (t : Text) : Text :=
  '"' :: t.flatMap quoteChar ++ ['"']

end ShaderBundle.Text
