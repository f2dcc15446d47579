import ShaderBundle.Reader
import ShaderBundle.Library.Basic
import ShaderBundle.Unvisited
/-!
# The crawl

Reading a bundle's files starts with a list of paths and goes on to whatever the files that load
include, breadth first, asking for each path once. What cannot be read is noted and does not stop the
crawl. The crawl ends because each path that loads is one of the supplier's known paths, and a path
that does not load adds nothing to the queue.
-/

namespace ShaderBundle

namespace Supplier

/--
What the crawl reads, in order, when `queue` waits to be read and `asked` has been asked for, the latest
first: the first of the queue, unless it was asked for before, and then the rest with those of the files
it includes at the end that have not been asked for.
-/
def crawlFrom (s : Supplier) (asked : List Path) : List Path → List Reading
  | [] => []
  | path :: queue =>
    if _old : path ∈ asked then crawlFrom s asked queue
    else match _loaded : s.load asked path with
      | .error reason => ⟨path, .error reason⟩ :: crawlFrom s (path :: asked) queue
      | .ok file => ⟨path, .ok file⟩ :: crawlFrom s (path :: asked)
          (queue ++ file.targets.filter fun target => target ∉ path :: asked)
termination_by queue => (unvisited s.known asked, queue.length)
decreasing_by
  · exact Prod.Lex.right _ (by simp)
  · rcases Nat.lt_or_eq_of_le (unvisited_cons_le s.known asked path) with fewer | same
    · exact Prod.Lex.left _ _ fewer
    · rw [same]; exact Prod.Lex.right _ (by simp)
  · exact Prod.Lex.left _ _ (unvisited_cons_lt (mem_known_of_load _loaded) _old)

/-- What the crawl from the given paths reads, in order. -/
def crawl (s : Supplier) (starts : List Path) : List Reading :=
  s.crawlFrom [] starts

end Supplier

/-- What a reader's crawl from the given paths reads, in order. -/
def Reader.crawl (r : Reader) (starts : List Path) : List Reading :=
  r.supplier.crawl starts

end ShaderBundle
