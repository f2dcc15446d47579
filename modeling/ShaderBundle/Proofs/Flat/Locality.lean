import ShaderBundle.Proofs.Flat.Recursion
import ShaderBundle.Proofs.Library.Crawl
/-!
# What flattening depends on

Flattening a file looks at the paths that its lines aim at, at those that the lines of the files there aim
at, and at nothing else. Two libraries that have the same at these paths flatten the file alike: their two
walks go through the same frames. Where a library was built from a reader, every such path was asked for,
so a path without a file is one that did not load and never one that was passed over; what the readers
answer at these paths is then all that counts.
-/

namespace ShaderBundle

open Relation (ReflTransGen)

namespace Library

/-- A file of the library has a line that asks for what is at a path, whether that loaded or not. -/
def AimsAt (lib : Library) (p q : Path) : Prop := ∃ file, lib.find? p = some file ∧ q ∈ file.targets

/-- Following what files of the library ask for leads from one path to another, in any number of steps. -/
abbrev LeadsTo (lib : Library) (p q : Path) : Prop := ReflTransGen lib.AimsAt p q

/-- Two libraries have the same at each of the paths, and what the files there ask for is among them. -/
structure AgreesOn (lib other : Library) (paths : Set Path) : Prop where
  /-- At each of the paths there is the same file in both libraries, or none in either. -/
  same : ∀ p ∈ paths, lib.find? p = other.find? p
  /-- Whatever the files at the paths ask for is one of the paths. -/
  closed : ∀ p ∈ paths, ∀ q, lib.AimsAt p q → q ∈ paths

section Walks

variable {lib other : Library} {paths : Set Path}

/-- A line at which a frame stands asks for something that its file asks for. -/
theorem mem_targets_of_line? {frame : Frame} {line : SourceLine} {target : Path}
    (here : frame.line? = some line) (aims : line.target? = some target) :
    target ∈ frame.file.targets :=
  SourceFile.mem_targets_iff.2 ⟨line, List.mem_of_getElem? here, aims⟩

/-- The walks through two libraries that agree on what the frames ask for yield the same lines. -/
theorem AgreesOn.expandFrom_eq (agree : lib.AgreesOn other paths) (entered : List Path)
    (frames : List Frame) (inside : ∀ frame ∈ frames, ∀ target ∈ frame.file.targets, target ∈ paths) :
    lib.expandFrom entered frames = other.expandFrom entered frames := by
  -- The induction is on the first walk; each of its steps is one of the second walk as well.
  fun_induction expandFrom lib entered frames with
  | case1 entered => rw [expandFrom]
  | case2 entered frame below ended ih =>
    rw [expandFrom_of_ended ended]
    exact ih (List.forall_mem_cons.1 inside).2
  | case3 entered frame below line here plain ih =>
    have onward := List.forall_mem_cons.1 inside
    rw [expandFrom_of_plain here plain, ih (List.forall_mem_cons.2 onward)]
  | case4 entered frame below line here target aims old ih =>
    have onward := List.forall_mem_cons.1 inside
    rw [expandFrom_of_old here aims old]
    exact ih (List.forall_mem_cons.2 onward)
  | case5 entered frame below line here target aims fresh absent ih =>
    have onward := List.forall_mem_cons.1 inside
    have asked : target ∈ paths := onward.1 target (mem_targets_of_line? here aims)
    have absent' : other.find? target = none := (agree.same target asked).symm.trans absent
    rw [expandFrom_of_absent here aims fresh absent', ih (List.forall_mem_cons.2 onward)]
  | case6 entered frame below line here target aims fresh file found ih =>
    have onward := List.forall_mem_cons.1 inside
    have asked : target ∈ paths := onward.1 target (mem_targets_of_line? here aims)
    have found' : other.find? target = some file := (agree.same target asked).symm.trans found
    have further : ∀ q ∈ file.targets, q ∈ paths :=
      fun q listed => agree.closed target asked q ⟨file, found, listed⟩
    rw [expandFrom_of_fresh here aims fresh found']
    exact ih (List.forall_mem_cons.2 ⟨further, List.forall_mem_cons.2 onward⟩)

/-- Two libraries that agree on a path, and on what is asked for from there on, flatten the file at the
path alike. -/
theorem AgreesOn.flattenAt_eq (agree : lib.AgreesOn other paths) {path : Path} (asked : path ∈ paths) :
    lib.flattenAt path = other.flattenAt path := by
  have same := agree.same path asked
  cases found : lib.find? path with
  | none => rw [flattenAt, flattenAt, ← same, found]
  | some file =>
    have further : ∀ frame ∈ [Frame.start file], ∀ target ∈ frame.file.targets, target ∈ paths := by
      rw [List.forall_mem_singleton]
      exact fun target listed => agree.closed path asked target ⟨file, found, listed⟩
    have lines : lib.expand file = other.expand file := agree.expandFrom_eq [file.path] _ further
    rw [flattenAt, flattenAt, ← same, found]
    show Except.ok (lib.flatten file) = Except.ok (other.flatten file)
    rw [flatten, flatten, lines]

end Walks

end Library

namespace Reader

/-- Two readers have the same lines at a path, or both have none there, for whatever reasons. -/
def AgreesAt (r s : Reader) (p : Path) : Prop :=
  (∃ ls, r.read p = .ok ls ∧ s.read p = .ok ls) ∨
    (∃ reason, r.read p = .error reason) ∧ ∃ reason, s.read p = .error reason

/-- Readers that agree at a path load the same file there, or none. -/
theorem AgreesAt.toOption_load_eq {r s : Reader} {p : Path} (agree : r.AgreesAt s p) :
    (r.load p).toOption = (s.load p).toOption := by
  rcases agree with ⟨ls, answered, answered'⟩ | ⟨⟨reason, failed⟩, reason', failed'⟩
  · rw [load, load, answered, answered']
  · rw [load, load, failed, failed']
    rfl

end Reader

namespace Library

/-- At a path that was asked for, a crawled library has what the reader loads there. -/
theorem find?_crawl_of_mem_asked {r : Reader} {starts : List Path} {p : Path}
    (asked : p ∈ r.asked starts) :
    (ofReadings (r.crawl starts)).find? p = (r.load p).toOption := by
  cases loaded : r.load p with
  | ok file => exact find?_crawl_eq_some_iff.2 ⟨asked, loaded⟩
  | error reason =>
    apply Option.eq_none_iff_forall_ne_some.2
    intro file found
    have made := (find?_crawl_eq_some_iff.1 found).2
    rw [loaded] at made
    contradiction

/-- Whatever the file at a path asks for was asked for in the crawl. -/
theorem mem_asked_of_aimsAt {r : Reader} {starts : List Path} {p q : Path}
    (aims : (ofReadings (r.crawl starts)).AimsAt p q) : q ∈ r.asked starts := by
  obtain ⟨file, found, listed⟩ := aims
  obtain ⟨asked, loaded⟩ := find?_crawl_eq_some_iff.1 found
  exact (r.isLeast_asked starts).1.targets_mem p asked file loaded q listed

/-- Two crawled libraries agree on all that is asked for from a path on, if both crawls asked for that path
and the readers agree wherever it leads. -/
theorem agreesOn_crawl {r s : Reader} {starts others : List Path} {path : Path}
    (asked : path ∈ r.asked starts) (asked' : path ∈ s.asked others)
    (agree : ∀ p, (ofReadings (r.crawl starts)).LeadsTo path p → r.AgreesAt s p) :
    (ofReadings (r.crawl starts)).AgreesOn (ofReadings (s.crawl others))
      {p | (ofReadings (r.crawl starts)).LeadsTo path p} := by
  have both (p : Path) (led : (ofReadings (r.crawl starts)).LeadsTo path p) :
      p ∈ r.asked starts ∧ p ∈ s.asked others := by
    induction led with
    | refl => exact ⟨asked, asked'⟩
    | @tail p q led aims ih =>
      refine ⟨mem_asked_of_aimsAt aims, ?_⟩
      obtain ⟨file, found, listed⟩ := aims
      -- what asks for `q` in the first library is in the second one, and asks for it there
      have again : (ofReadings (s.crawl others)).find? p = some file := by
        rw [find?_crawl_of_mem_asked ih.2, ← (agree p led).toOption_load_eq, ← find?_crawl_of_mem_asked ih.1,
          found]
      exact mem_asked_of_aimsAt ⟨file, again, listed⟩
  refine ⟨fun p led => ?_, fun p led q aims => led.tail aims⟩
  obtain ⟨here, there⟩ := both p led
  rw [find?_crawl_of_mem_asked here, find?_crawl_of_mem_asked there, (agree p led).toOption_load_eq]

/-- A crawl that starts with more comes to a library that agrees with the smaller one on what this asked
for, and on what cannot be loaded at all. -/
theorem agreesOn_crawl_of_subset {r : Reader} {starts others : List Path} (more : ∀ p ∈ starts, p ∈ others) :
    (ofReadings (r.crawl starts)).AgreesOn (ofReadings (r.crawl others))
      {p | p ∈ r.asked starts ∨ ¬ ∃ file, r.load p = .ok file} := by
  constructor
  case same =>
    intro p inside
    rcases inside with asked | absent
    · rw [find?_crawl_of_mem_asked asked, find?_crawl_of_mem_asked (Reader.asked_mono more asked)]
    · have missing (starts : List Path) : (ofReadings (r.crawl starts)).find? p = none := by
        apply Option.eq_none_iff_forall_ne_some.2
        intro file found
        exact absent ⟨file, (find?_crawl_eq_some_iff.1 found).2⟩
      rw [missing, missing]
  case closed =>
    intro p _ q aims
    exact Or.inl (mem_asked_of_aimsAt aims)

/-- A file of a library that was built was asked for. -/
theorem mem_asked_of_mem_paths {r : Reader} {starts : List Path} {p : Path}
    (loaded : p ∈ (ofReadings (r.crawl starts)).paths) : p ∈ r.asked starts := by
  obtain ⟨file, found⟩ := mem_paths_iff.1 loaded
  exact (find?_crawl_eq_some_iff.1 found).1

/-- Two libraries flatten a file alike if their readers have the same lines, or both have none, wherever
the file leads in the first of them. What else there is, where the crawls started, and for what reasons a
path did not load makes no difference, whether the text is taken with markers or without. -/
theorem build_flattenAt_eq (r s : Reader) (starts others : List Path) (lib other : Library)
    (built : build r starts = .ok lib) (built' : build s others = .ok other) (path : Path)
    (loaded : path ∈ lib.paths) (loaded' : path ∈ other.paths)
    (agree : ∀ p, lib.LeadsTo path p → r.AgreesAt s p) :
    (∃ source, lib.flattenAt path = .ok source ∧ other.flattenAt path = .ok source) ∧
      ∀ markers, (lib.flattenAt path).map (FlatSource.textWith · markers) =
        (other.flattenAt path).map (FlatSource.textWith · markers) := by
  have same : lib.flattenAt path = other.flattenAt path := by
    obtain rfl := eq_of_build_eq_ok built
    obtain rfl := eq_of_build_eq_ok built'
    have asked := mem_asked_of_mem_paths loaded
    have asked' := mem_asked_of_mem_paths loaded'
    exact (agreesOn_crawl asked asked' agree).flattenAt_eq .refl
  obtain ⟨file, found⟩ := mem_paths_iff.1 loaded
  have flat : lib.flattenAt path = .ok (lib.flatten file) := by rw [flattenAt, found]
  exact ⟨⟨_, flat, same.symm.trans flat⟩, fun markers => by rw [same]⟩

/-- A reader of a file that includes another one and a path at which there is nothing, and of a third file
that includes the first. -/
def furnished : Reader :=
  Reader.ofTable
    [(Path.root.follow ['a'], .ok ["#include b".toList, "#include x".toList]),
      (Path.root.follow ['b'], .ok ["int b;".toList]),
      (Path.root.follow ['c'], .ok ["#include a".toList, "int c;".toList])]
    fun _ => "no such file"

/-- A reader that has the first two of these files alone, and gives another reason for what it lacks. -/
def sparse : Reader :=
  Reader.ofTable
    [(Path.root.follow ['b'], .ok ["int b;".toList]),
      (Path.root.follow ['a'], .ok ["#include b".toList, "#include x".toList])]
    fun _ => "permission denied"

/-- The two readers differ at one path only. -/
theorem furnished_agreesAt_sparse {p : Path} (differs : p ≠ Path.root.follow ['c']) :
    furnished.AgreesAt sparse p := by
  by_cases first : p = Path.root.follow ['a']
  · rw [first]
    exact Or.inl ⟨_, rfl, rfl⟩
  · by_cases second : p = Path.root.follow ['b']
    · rw [second]
      exact Or.inl ⟨_, rfl, rfl⟩
    · have absent : furnished.read p = .error "no such file" := by
        simp only [furnished, Reader.ofTable, List.lookup_cons, beq_false_of_ne first,
          beq_false_of_ne second, beq_false_of_ne differs, List.lookup_nil, Option.getD_none]
      have absent' : sparse.read p = .error "permission denied" := by
        simp only [sparse, Reader.ofTable, List.lookup_cons, beq_false_of_ne first,
          beq_false_of_ne second, List.lookup_nil, Option.getD_none]
      exact Or.inr ⟨⟨_, absent⟩, _, absent'⟩

/-- The file that both readers have is flattened to the same, although one library has a file more and another
reason for the path that failed. -/
theorem build_flattenAt_eq_sparse :
    let lib := ofReadings (furnished.crawl [Path.root.follow ['c']])
    let other := ofReadings (sparse.crawl [Path.root.follow ['a']])
    build furnished [Path.root.follow ['c']] = .ok lib ∧ build sparse [Path.root.follow ['a']] = .ok other ∧
      Path.root.follow ['a'] ∈ lib.paths ∧ Path.root.follow ['a'] ∈ other.paths ∧
      (∀ p, lib.LeadsTo (Path.root.follow ['a']) p → furnished.AgreesAt sparse p) ∧
      (∃ source, lib.flattenAt (Path.root.follow ['a']) = .ok source ∧
        other.flattenAt (Path.root.follow ['a']) = .ok source) ∧
      ∀ markers, (lib.flattenAt (Path.root.follow ['a'])).map (FlatSource.textWith · markers) =
        (other.flattenAt (Path.root.follow ['a'])).map (FlatSource.textWith · markers) := by
  intro lib other
  have straight : (ofReadings (furnished.crawl [Path.root.follow ['c']])).cycle? = none := by cbv
  have straight' : (ofReadings (sparse.crawl [Path.root.follow ['a']])).cycle? = none := by cbv
  have built : build furnished [Path.root.follow ['c']] = .ok lib := build_eq_ok_iff.2 ⟨rfl, straight⟩
  have built' : build sparse [Path.root.follow ['a']] = .ok other := build_eq_ok_iff.2 ⟨rfl, straight'⟩
  have listed : (ofReadings (furnished.crawl [Path.root.follow ['c']])).paths =
    [Path.root.follow ['c'], Path.root.follow ['a'], Path.root.follow ['b']] := by cbv
  have listed' : (ofReadings (sparse.crawl [Path.root.follow ['a']])).paths =
    [Path.root.follow ['a'], Path.root.follow ['b']] := by cbv
  have targets : (ofReadings (furnished.crawl [Path.root.follow ['c']])).files.flatMap SourceFile.targets =
    [Path.root.follow ['a'], Path.root.follow ['b'], Path.root.follow ['x']] := by cbv
  have loaded : Path.root.follow ['a'] ∈ lib.paths := by
    show _ ∈ (ofReadings (furnished.crawl [Path.root.follow ['c']])).paths
    rw [listed]
    decide
  have loaded' : Path.root.follow ['a'] ∈ other.paths := by
    show _ ∈ (ofReadings (sparse.crawl [Path.root.follow ['a']])).paths
    rw [listed']
    decide
  have agree : ∀ p, lib.LeadsTo (Path.root.follow ['a']) p → furnished.AgreesAt sparse p := by
    intro p led
    apply furnished_agreesAt_sparse
    rintro rfl
    rcases led.cases_tail with same | ⟨q, _, file, found, aimed⟩
    · exact absurd same (by decide)
    · have included : Path.root.follow ['c'] ∈ lib.files.flatMap SourceFile.targets :=
        List.mem_flatMap.2 ⟨file, (mem_of_find?_eq_some found).1, aimed⟩
      rw [targets] at included
      exact absurd included (by decide)
  exact ⟨built, built', loaded, loaded', agree,
    build_flattenAt_eq furnished sparse _ _ lib other built built' _ loaded loaded' agree⟩

end Library

end ShaderBundle
