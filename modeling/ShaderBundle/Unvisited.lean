import ShaderBundle.Path
/-!
# What is left to visit

Three walks of this library remember the paths that they have visited: reading, looking for include
cycles, and flattening. Each ends because it visits paths of a given list only, and visiting one for the
first time leaves fewer to visit.
-/

namespace ShaderBundle

/-- The number of places in `all` whose path has not been visited. -/
def unvisited (all visited : List Path) : Nat :=
  all.countP fun path => path ∉ visited

/-- Visiting further paths leaves no more to visit. -/
theorem unvisited_le_of_subset {all visited more : List Path} (kept : visited ⊆ more) :
    unvisited all more ≤ unvisited all visited :=
  List.countP_mono_left fun path _ fresh => by
    simp only [decide_eq_true_eq] at fresh ⊢
    exact fun seen => fresh (kept seen)

/-- Visiting a path leaves no more to visit. -/
theorem unvisited_cons_le (all visited : List Path) (path : Path) :
    unvisited all (path :: visited) ≤ unvisited all visited :=
  unvisited_le_of_subset (List.subset_cons_self path visited)

/-- Visiting a path of the list for the first time leaves fewer to visit. -/
theorem unvisited_cons_lt {all visited : List Path} {path : Path} (listed : path ∈ all)
    (fresh : path ∉ visited) : unvisited all (path :: visited) < unvisited all visited := by
  obtain ⟨before, behind, rfl⟩ := List.append_of_mem listed
  have left := unvisited_cons_le before visited path
  have right := unvisited_cons_le behind visited path
  simp only [unvisited, List.countP_append, List.countP_cons] at left right ⊢
  simp only [List.mem_cons, true_or, not_true, decide_false, fresh, not_false_eq_true, decide_true] at *
  simp only [Bool.false_eq_true, if_false, if_true]
  omega

end ShaderBundle
