import ShaderBundle.Text.Digit
/-!
# Line markers

A marker is a line of a text that is no code: it tells a compiler from which line of which file the
following line is. The lines after that one follow each other until the next marker.
-/

namespace ShaderBundle

/-- Where the line after a marker is from. -/
structure Marker where
  /-- The number of the line in its file, counted from one. -/
  line : Nat
  /-- The file, as it is written. -/
  file : Text
deriving DecidableEq

namespace Marker

/-- The word with which a marker starts. -/
def word : Text := ['#', 'l', 'i', 'n', 'e']

/-- The marker as a line. -/
def text (m : Marker) : Text :=
  word ++ ' ' :: Text.decimal m.line ++ ' ' :: '"' :: m.file ++ ['"']

/-- Reads a line that is a marker. -/
def ofText? (t : Text) : Option Marker := do
  let t ← (word ++ [' ']).isPrefixOf? t
  let line ← Text.numeral? (t.takeWhile Char.isDigit)
  let t ← [' ', '"'].isPrefixOf? (t.dropWhile Char.isDigit)
  let file ← ['"'].isSuffixOf? t
  return ⟨line, file⟩

/-- A marker reads back as itself, however its file is written. -/
theorem ofText?_text (m : Marker) : ofText? m.text = some m := by
  have digits : ∀ c ∈ Text.decimal m.line, c.isDigit = true := fun _ => Text.isDigit_of_mem_decimal
  have parts : m.text = (word ++ [' ']) ++ (Text.decimal m.line ++ ([' ', '"'] ++ (m.file ++ ['"']))) := by
    simp [text]
  have begins (t : Text) : (word ++ [' ']).isPrefixOf? ((word ++ [' ']) ++ t) = some t := rfl
  have opens (t : Text) : [' ', '"'].isPrefixOf? ([' ', '"'] ++ t) = some t := rfl
  have closes : ['"'].isSuffixOf? (m.file ++ ['"']) = some m.file := by
    show (['"'].isPrefixOf? (m.file ++ ['"']).reverse).map List.reverse = some m.file
    rw [List.reverse_append]
    exact congrArg some (List.reverse_reverse m.file)
  have stop : ([' ', '"'] ++ (m.file ++ ['"'])).takeWhile Char.isDigit = [] := rfl
  have past : ([' ', '"'] ++ (m.file ++ ['"'])).dropWhile Char.isDigit = [' ', '"'] ++ (m.file ++ ['"']) :=
    rfl
  simp only [ofText?, parts, begins, List.takeWhile_append_of_pos digits,
    List.dropWhile_append_of_pos digits, stop, past, List.append_nil, Text.numeral?_decimal,
    opens, closes, Option.bind_eq_bind, Option.bind_some, Option.pure_def]

/-- The lines of a text that are code, each with the place that the markers before it give it; `next` is
the place of the first line. -/
def locate (next : Marker) : List Text → List (Marker × Text)
  | [] => []
  | t :: rest =>
    match ofText? t with
    | some m => locate m rest
    | none => (next, t) :: locate ⟨next.line + 1, next.file⟩ rest

end Marker

end ShaderBundle
