import ShaderBundle.Library.Crawl
import ShaderBundle.Library.Cycle
import ShaderBundle.Fault
/-!
# Building a library

A library is built by a crawl and then checked: the one thing that stops it from being used is an include
cycle among the files that loaded.
-/

namespace ShaderBundle.Library

/-- The library itself, unless its files include each other in a circle. -/
def checked (lib : Library) : Except Fault Library :=
  match lib.cycle? with
  | some trail => .error (.circularInclude trail)
  | none => .ok lib

/-- The library of everything that is reached from the given paths. -/
def build (s : Supplier) (starts : List Path) : Except Fault Library :=
  (ofReadings (s.crawl starts)).checked

/-- A library that is built holds what the crawl read, and no files in it include each other in a circle. -/
theorem build_eq_ok_iff {s : Supplier} {starts : List Path} {lib : Library} :
    build s starts = .ok lib ↔ ofReadings (s.crawl starts) = lib ∧ lib.cycle? = none := by
  rw [build, checked]
  constructor
  · intro built
    split at built
    · cases built
    · next straight =>
      obtain rfl := Except.ok.inj built
      exact ⟨rfl, straight⟩
  · rintro ⟨rfl, straight⟩
    rw [straight]

end ShaderBundle.Library
