import ShaderBundle.Proofs.Library.Crawl
import ShaderBundle.Proofs.Library.Cycle
/-!
# The order of the starts

A crawl asks for what can be reached from its starts. In which order it asks depends on the order of the
starts, and so does the order of what it comes to; nothing else does. Two crawls that reach the same read the
same, so they come to the same files and the same failures. The search for cycles sees the files only by
their paths: it starts with them in the order of paths and goes on in the order of their lines, so of all
include cycles it finds the same one in both.
-/

namespace ShaderBundle

open Relation (ReflTransGen)

namespace Reader

variable {r : Reader} {starts others : List Path} {p : Path}

/-- The file at a path loads and has a line that asks for what is at another path. -/
def AimsAt (r : Reader) (p q : Path) : Prop := ∃ file, r.load p = .ok file ∧ q ∈ file.targets

/-- A path is reached from some others if it is one of them, or a file asks for it that is reached. -/
def Reaches (r : Reader) (starts : Set Path) (p : Path) : Prop :=
  ∃ start ∈ starts, ReflTransGen r.AimsAt start p

/-- A crawl asks for the paths that are reached from its starts. -/
theorem mem_asked_iff_reaches : p ∈ r.asked starts ↔ r.Reaches {q | q ∈ starts} p := by
  obtain ⟨closed, least⟩ := r.isLeast_asked starts
  constructor
  · intro listed
    have reached : r.Closed starts {q | r.Reaches {q | q ∈ starts} q} := by
      constructor
      case starts_mem => exact fun q start => ⟨q, start, .refl⟩
      case targets_mem =>
        rintro q ⟨start, first, onward⟩ file loaded target included
        exact ⟨start, first, onward.tail ⟨file, loaded, included⟩⟩
    exact least reached listed
  · rintro ⟨start, first, onward⟩
    induction onward with
    | refl => exact closed.starts_mem start first
    | @tail q target _ aims ih =>
      obtain ⟨file, loaded, included⟩ := aims
      exact closed.targets_mem q ih file loaded target included

/-- Two crawls that reach the same paths read the same, each in its own order. -/
theorem crawl_perm (same : ∀ p, p ∈ r.asked starts ↔ p ∈ r.asked others) :
    (r.crawl starts).Perm (r.crawl others) := by
  have distinct (starts : List Path) : (r.crawl starts).Nodup := (r.nodup_asked starts).of_map _
  rw [List.perm_ext_iff_of_nodup (distinct starts) (distinct others)]
  intro reading
  rw [mem_crawl_iff, mem_crawl_iff, same]

end Reader

namespace Library

variable {lib other : Library}

/-- The search deals with its first target, and with the others after it. -/
theorem searchFrom_cons (lib : Library) (trail clear targets : List Path) (target : Path) :
    lib.searchFrom trail clear (target :: targets) =
      match lib.find? target with
      | none => lib.searchFrom trail clear targets
      | some file =>
        if target ∈ trail then .error (target :: trail).reverse
        else if target ∈ clear then lib.searchFrom trail clear targets
        else (lib.searchFrom (target :: trail) clear file.targets).bind fun clear =>
          lib.searchFrom trail (target :: clear) targets := by
  rw [searchFrom]
  split
  next absent => rw [absent]
  next file found =>
    rw [found]
    split
    next met => rfl
    next fresh =>
      dsimp only
      split
      next old => rfl
      next new => cases lib.searchFrom (target :: trail) clear file.targets <;> rfl

/-- The search for cycles sees of a library what is found at each path. -/
theorem searchFrom_eq_of_find?_eq (same : ∀ p, lib.find? p = other.find? p)
    (trail clear targets : List Path) :
    lib.searchFrom trail clear targets = other.searchFrom trail clear targets := by
  -- The induction is on the search in the first library; the second one takes the same way at each target.
  fun_induction searchFrom lib trail clear targets with
  | case1 trail clear => rw [searchFrom]
  | case2 trail clear target targets absent ih =>
    rw [searchFrom_cons, ← same, absent]
    exact ih
  | case3 trail clear target targets file found met =>
    rw [searchFrom_cons, ← same, found]
    exact (if_pos met).symm
  | case4 trail clear target targets file found fresh old ih =>
    rw [searchFrom_cons, ← same, found]
    dsimp only
    rw [if_neg fresh, if_pos old]
    exact ih
  | case5 trail clear target targets file found fresh new cycle stopped ih =>
    rw [searchFrom_cons, ← same, found]
    dsimp only
    rw [if_neg fresh, if_neg new, ← ih, stopped]
    rfl
  | case6 trail clear target targets file found fresh new between done into beyond =>
    rw [searchFrom_cons, ← same, found]
    dsimp only
    rw [if_neg fresh, if_neg new, ← into, done]
    exact beyond

/-- So of two libraries with the same at each path, the same cycle is reported, or none of either. -/
theorem cycle?_eq_of_find?_eq (same : ∀ p, lib.find? p = other.find? p) : lib.cycle? = other.cycle? := by
  have listed (p : Path) : p ∈ lib.paths ↔ p ∈ other.paths := by
    rw [mem_paths_iff, mem_paths_iff, same]
  have sorted : sortByKey Path.text lib.paths = sortByKey Path.text other.paths :=
    sortByKey_eq_of_mem_iff Path.text_injective listed
  rw [cycle?, cycle?, sorted, searchFrom_eq_of_find?_eq same]

/-- At each path, two crawls that ask for the same find the same. -/
theorem find?_crawl_eq {r : Reader} {starts others : List Path}
    (same : ∀ p, p ∈ r.asked starts ↔ p ∈ r.asked others) (p : Path) :
    (ofReadings (r.crawl starts)).find? p = (ofReadings (r.crawl others)).find? p := by
  apply Option.ext
  intro file
  rw [find?_crawl_eq_some_iff, find?_crawl_eq_some_iff, same]

/-- What building comes to in two ways is the same: the same files and the same failures, each with its
reason, in whatever order; or the same fault, with the same trail if files include each other in a circle. -/
inductive IsAlike : Except Fault Library → Except Fault Library → Prop where
  /-- Both ways come to a library. -/
  | built {lib other : Library} (files : lib.files.Perm other.files)
      (failures : lib.failures.Perm other.failures) : IsAlike (.ok lib) (.ok other)
  /-- Both ways come to a fault. -/
  | refused (cause : Fault) : IsAlike (.error cause) (.error cause)

/-- From starts from which the same paths are reached, building comes to the same, in whatever order the
starts are listed, how often each of them is, and whether what is reached anyway is listed as well. -/
theorem build_isAlike (r : Reader) (starts others : List Path)
    (same : ∀ p, r.Reaches {q | q ∈ starts} p ↔ r.Reaches {q | q ∈ others} p) :
    IsAlike (build r starts) (build r others) := by
  have asked (p : Path) : p ∈ r.asked starts ↔ p ∈ r.asked others := by
    rw [Reader.mem_asked_iff_reaches, Reader.mem_asked_iff_reaches]
    exact same p
  have readings : (r.crawl starts).Perm (r.crawl others) := Reader.crawl_perm asked
  have cycles := cycle?_eq_of_find?_eq (find?_crawl_eq asked)
  show IsAlike (ofReadings (r.crawl starts)).checked (ofReadings (r.crawl others)).checked
  rw [checked, checked, ← cycles]
  cases (ofReadings (r.crawl starts)).cycle? with
  | some trail => exact .refused _
  | none => exact .built (readings.filterMap _) (readings.filterMap _)

/-- Two readers, each with two lists of starts: the files of the first include each other in a circle, and
some paths of the second fail. -/
theorem build_isAlike_roundabout :
    let a := Path.root.follow ['a']
    let b := Path.root.follow ['b']
    let c := Path.root.follow ['c']
    (∀ p, roundabout.Reaches {q | q ∈ [c, a]} p ↔ roundabout.Reaches {q | q ∈ [a, b, a]} p) ∧
      IsAlike (build roundabout [c, a]) (build roundabout [a, b, a]) ∧
      build roundabout [a, b, a] = .error (.circularInclude [a, b, c, b]) ∧
      (∀ p, outpost.Reaches {q | q ∈ [a]} p ↔ outpost.Reaches {q | q ∈ [b, a, b]} p) ∧
      IsAlike (build outpost [a]) (build outpost [b, a, b]) ∧
      (ofReadings (outpost.crawl [b, a, b])).cycle? = none := by
  intro a b c
  have circle : ∀ p, roundabout.Reaches {q | q ∈ [c, a]} p ↔ roundabout.Reaches {q | q ∈ [a, b, a]} p := by
    intro p
    have asked : roundabout.asked [c, a] = [c, a, b, Path.root.follow ['x']] := by cbv
    have asked' : roundabout.asked [a, b, a] = [a, b, Path.root.follow ['x'], c] := by cbv
    rw [← Reader.mem_asked_iff_reaches, ← Reader.mem_asked_iff_reaches, asked, asked']
    simp only [List.mem_cons, List.not_mem_nil, or_false]
    tauto
  have failing : ∀ p, outpost.Reaches {q | q ∈ [a]} p ↔ outpost.Reaches {q | q ∈ [b, a, b]} p := by
    intro p
    have asked : outpost.asked [a] = [a, b, Path.root, Path.root.follow ['x']] := by cbv
    have asked' : outpost.asked [b, a, b] = [b, a, Path.root, Path.root.follow ['x']] := by cbv
    rw [← Reader.mem_asked_iff_reaches, ← Reader.mem_asked_iff_reaches, asked, asked']
    simp only [List.mem_cons, List.not_mem_nil, or_false]
    tauto
  have refused : build roundabout [a, b, a] = .error (.circularInclude [a, b, c, b]) := by cbv
  have straight : (ofReadings (outpost.crawl [b, a, b])).cycle? = none := by cbv
  exact ⟨circle, build_isAlike roundabout _ _ circle, refused, failing, build_isAlike outpost _ _ failing,
    straight⟩

end Library

end ShaderBundle
