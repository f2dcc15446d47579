import ShaderBundle.Text.Basic
/-!
# Byte order

Texts are ordered by the bytes of their UTF-8 encoding, which is the order of their code points.
Whatever this library lists without an order of its own is listed so.
-/

namespace ShaderBundle

/-- The list with `x` at its place in the order of the keys, unless an equal key is there already. -/
def insertByKey {α : Type} (key : α → Text) (x : α) : List α → List α
  | [] => [x]
  | y :: rest =>
    if key x < key y then x :: y :: rest
    else if key x = key y then y :: rest
    else y :: insertByKey key x rest

/-- The elements in the order of their keys, the last of those with equal keys alone. -/
def sortByKey {α : Type} (key : α → Text) (l : List α) : List α :=
  l.foldr (insertByKey key) []

end ShaderBundle
