import ShaderBundle.Flat.Expansion
/-!
# Flattening by recursion

Flattening can be described without frames: an include line is replaced by the lines of the included file,
flattened in their turn, and the files entered on the way count as entered for the lines after it.
-/

namespace ShaderBundle

/-- What flattening some lines came to, where the files in `before` had been entered before. -/
structure Inlined (before : List Path) where
  /-- The lines in order. -/
  lines : List PlacedLine
  /-- The files entered by the end. -/
  entered : List Path
  /-- No file is forgotten. -/
  kept : before ⊆ entered

namespace Library

/-- Flattens some lines, where the files in `entered` have been entered before. -/
def inlineFrom (lib : Library) (entered : List Path) : List PlacedLine → Inlined entered
  | [] => ⟨[], entered, List.Subset.refl entered⟩
  | l :: rest =>
    match l.line.target? with
    | none =>
      let out := inlineFrom lib entered rest
      ⟨l :: out.lines, out.entered, out.kept⟩
    | some target =>
      if _fresh : target ∈ entered then inlineFrom lib entered rest
      else match _found : lib.find? target with
        | none =>
          let out := inlineFrom lib entered rest
          ⟨l :: out.lines, out.entered, out.kept⟩
        | some file =>
          let inner := inlineFrom lib (target :: entered) file.placed
          let outer := inlineFrom lib inner.entered rest
          ⟨inner.lines ++ outer.lines, outer.entered,
            fun _ seen => outer.kept (inner.kept (List.mem_cons_of_mem _ seen))⟩
termination_by lines => (unvisited lib.paths entered, lines.length)
decreasing_by
  · exact Prod.Lex.right _ (by simp)
  · exact Prod.Lex.right _ (by simp)
  · exact Prod.Lex.right _ (by simp)
  · exact Prod.Lex.left _ _ (unvisited_enter_lt _found _fresh)
  · exact Prod.Lex.left _ _ (Nat.lt_of_le_of_lt (unvisited_le_of_subset inner.kept)
      (unvisited_enter_lt _found _fresh))

end Library

end ShaderBundle
