import ShaderBundle.Library.Build
import ShaderBundle.Proofs.Library.Includes
import Mathlib
/-!
# What the crawl asks for

The crawl asks for each path once, and the paths that it asks for are those that it has to: the starts and
what the files among them include, in any number of steps. Each path then stands in the library once,
either as a file or as a failure, as the supplier's answer decides.

What holds of a crawl is shown along its run, of which there are three steps. The invariant relates what
was asked for to what still waits: whatever is sent to the queue has been asked for by the end, and nothing
else has.
-/

namespace ShaderBundle

/-- What a reading sends to the queue. -/
def Reading.targets (reading : Reading) : List Path :=
  match reading.outcome with
  | .ok file => file.targets
  | .error _ => []

namespace Supplier

/-- A run of the crawl: what was asked for before it, what waits in the queue, and what it reads. -/
inductive Crawls (s : Supplier) : List Path → List Path → List Reading → Prop where
  /-- Nothing waits. -/
  | done (before : List Path) : Crawls s before [] []
  /-- The first that waits was asked for before. -/
  | skips {before queue : List Path} {path : Path} {readings : List Reading} (old : path ∈ before)
      (rest : Crawls s before queue readings) : Crawls s before (path :: queue) readings
  /-- The first that waits is asked for, and what its file includes is sent to the queue, as far as it was
  not asked for before. -/
  | asks {before queue : List Path} {path : Path} {readings : List Reading} (fresh : path ∉ before)
      (rest : Crawls s (path :: before)
        (queue ++ (Reading.targets ⟨path, s.load before path⟩).filter fun target => target ∉ path :: before)
        readings) :
      Crawls s before (path :: queue) (⟨path, s.load before path⟩ :: readings)

/-- A crawl is such a run. -/
theorem crawls_crawlFrom (s : Supplier) (before queue : List Path) :
    s.Crawls before queue (s.crawlFrom before queue) := by
  fun_induction crawlFrom s before queue with
  | case1 before => exact .done before
  | case2 before path queue old ih => exact .skips old ih
  | case3 before path queue fresh reason failed ih =>
    rw [← failed]
    refine .asks fresh ?_
    rwa [failed, Reading.targets, List.filter_nil, List.append_nil]
  | case4 before path queue fresh file loaded ih =>
    rw [← loaded]
    refine .asks fresh ?_
    rwa [loaded, Reading.targets]

namespace Crawls

variable {s : Supplier} {before queue : List Path} {readings : List Reading}

/-- No path is asked for twice. -/
theorem nodup (run : s.Crawls before queue readings) (distinct : before.Nodup) :
    (before ++ readings.map Reading.path).Nodup := by
  induction run with
  | done before => rwa [List.map_nil, List.append_nil]
  | skips old rest ih => exact ih distinct
  | asks fresh rest ih =>
    have later := ih (List.nodup_cons.2 ⟨fresh, distinct⟩)
    exact List.perm_middle.nodup_iff.2 later

/-- Whatever waits is asked for, unless it was before. -/
theorem mem_of_waits (run : s.Crawls before queue readings) :
    ∀ p ∈ queue, p ∈ before ++ readings.map Reading.path := by
  induction run with
  | done before => simp
  | skips old rest ih => exact List.forall_mem_cons.2 ⟨List.mem_append_left _ old, ih⟩
  | asks fresh rest ih =>
    refine List.forall_mem_cons.2 ⟨List.mem_append_right _ List.mem_cons_self, fun p waits => ?_⟩
    have later := ih p (List.mem_append_left _ waits)
    exact List.perm_middle.mem_iff.2 later

/-- Whatever a file that loads includes is asked for, unless it was before. -/
theorem mem_of_target (run : s.Crawls before queue readings) :
    ∀ reading ∈ readings, ∀ q ∈ reading.targets, q ∈ before ++ readings.map Reading.path := by
  induction run with
  | done before => simp
  | skips old rest ih => exact ih
  | @asks before queue path readings fresh rest ih =>
    refine List.forall_mem_cons.2 ⟨fun q included => ?_, fun reading listed q included => ?_⟩
    · have later : q ∈ (path :: before) ++ readings.map Reading.path := by
        by_cases old : q ∈ path :: before
        · exact List.mem_append_left _ old
        · refine rest.mem_of_waits q (List.mem_append_right _ ?_)
          exact List.mem_filter.2 ⟨included, decide_eq_true old⟩
      exact List.perm_middle.mem_iff.2 later
    · have later := ih reading listed q included
      exact List.perm_middle.mem_iff.2 later

/-- What holds of the queue, and is handed on from a path to what its file includes, holds of every path
that is asked for. -/
theorem forall_path (run : s.Crawls before queue readings) (holds : Path → Prop)
    (handedOn : ∀ earlier p, holds p → ∀ q ∈ Reading.targets ⟨p, s.load earlier p⟩, holds q)
    (waiting : ∀ p ∈ queue, holds p) : ∀ p ∈ readings.map Reading.path, holds p := by
  induction run with
  | done before => simp
  | skips old rest ih => exact ih (List.forall_mem_cons.1 waiting).2
  | @asks before queue path readings fresh rest ih =>
    have first := List.forall_mem_cons.1 waiting
    have included := handedOn before path first.1
    refine List.forall_mem_cons.2 ⟨first.1, ih (List.forall_mem_append.2 ⟨first.2, fun q sent => ?_⟩)⟩
    exact included q (List.mem_filter.1 sent).1

/-- What was asked for when a path's turn comes is what was read before it. -/
theorem outcome_eq (run : s.Crawls before queue readings) {earlier later : List Reading}
    {reading : Reading} (split : readings = earlier ++ reading :: later) :
    reading.outcome = s.load ((earlier.map Reading.path).reverse ++ before) reading.path := by
  induction run generalizing earlier with
  | done before => simp at split
  | skips old rest ih => exact ih split
  | asks fresh rest ih =>
    cases earlier with
    | nil =>
      obtain ⟨rfl, rfl⟩ := List.cons.inj split
      rfl
    | cons first earlier =>
      obtain ⟨rfl, onward⟩ := List.cons.inj split
      have turn := ih onward
      rw [turn, List.map_cons, List.reverse_cons, List.append_assoc, List.singleton_append]

end Crawls

end Supplier

namespace SourceFile

/-- Only at the root can lines be no file. -/
theorem ofLines?_eq_none_iff {path : Path} {ls : List Text} :
    ofLines? path ls = none ↔ path = Path.root := by
  rw [ofLines?, Option.map_eq_none_iff, Path.parent?]
  split_ifs with top <;> simp [top]

/-- A file lies at the path that it was read at. -/
theorem path_of_ofLines? {path : Path} {ls : List Text} {file : SourceFile}
    (read : ofLines? path ls = some file) : file.path = path := by
  obtain ⟨folder, _, rfl⟩ := Option.map_eq_some_iff.1 read
  rfl

/-- A file that is made of an answer lies at the path that was asked for. -/
theorem path_of_ofAnswer {path : Path} {answer : Except String (List Text)} {file : SourceFile}
    (made : ofAnswer path answer = .ok file) : file.path = path := by
  obtain ⟨ls, _, read⟩ := ofAnswer_eq_ok_iff.1 made
  exact path_of_ofLines? read

/-- There is no file for want of lines, or for want of a folder that holds it. -/
theorem ofAnswer_eq_error_iff {path : Path} {answer : Except String (List Text)} {reason : String} :
    ofAnswer path answer = .error reason ↔ answer = .error reason ∨
      path = Path.root ∧ (∃ ls, answer = .ok ls) ∧ reason = (Fault.noParent Path.root).message := by
  cases answer with
  | error cause => simp [ofAnswer]
  | ok ls =>
    cases read : ofLines? path ls with
    | none =>
      obtain rfl := ofLines?_eq_none_iff.1 read
      simp [ofAnswer, read, eq_comm]
    | some file =>
      have inside : path ≠ Path.root := fun top => by
        rw [ofLines?_eq_none_iff.2 top] at read
        cases read
      simp [ofAnswer, read, inside]

end SourceFile

namespace Library

/-- Each path read stands in the library once, as a file or as a failure. -/
theorem ofReadings_perm (readings : List Reading)
    (placed : ∀ reading ∈ readings, ∀ file, reading.outcome = .ok file → file.path = reading.path) :
    ((ofReadings readings).paths ++ (ofReadings readings).failures.map Prod.fst).Perm
      (readings.map Reading.path) := by
  induction readings with
  | nil => exact .nil
  | cons reading rest ih =>
    have split := List.forall_mem_cons.1 placed
    have later := ih split.2
    obtain ⟨path, outcome⟩ := reading
    cases outcome with
    | error reason => exact List.perm_middle.trans (later.cons path)
    | ok file =>
      have here : file.path = path := split.1 file rfl
      rw [List.map_cons, ← here]
      exact later.cons file.path

/-- The files of a library are those that were read. -/
theorem mem_files_ofReadings_iff {readings : List Reading} {file : SourceFile} :
    file ∈ (ofReadings readings).files ↔ ∃ reading ∈ readings, reading.outcome = .ok file := by
  rw [ofReadings, List.mem_filterMap]
  refine exists_congr fun reading => and_congr_right fun _ => ?_
  cases reading.outcome <;> simp [Except.toOption]

/-- The failures of a library are the paths that could not be read, each with the reason. -/
theorem mem_failures_ofReadings_iff {readings : List Reading} {path : Path} {reason : String} :
    (path, reason) ∈ (ofReadings readings).failures ↔
      ∃ reading ∈ readings, reading.path = path ∧ reading.outcome = .error reason := by
  rw [ofReadings, List.mem_filterMap]
  refine exists_congr fun reading => and_congr_right fun _ => ?_
  cases reading.outcome <;> simp

end Library

namespace Reader

/-- The paths that a reader's crawl asks for, in order. -/
def asked (r : Reader) (starts : List Path) : List Path :=
  (r.crawl starts).map Reading.path

/-- Paths among which are the starts and whatever a file among them includes that loads. -/
structure Closed (r : Reader) (starts : List Path) (paths : Set Path) : Prop where
  /-- The starts are among the paths. -/
  starts_mem : ∀ p ∈ starts, p ∈ paths
  /-- What a file includes is among the paths if the file is. -/
  targets_mem : ∀ p ∈ paths, ∀ file, r.load p = .ok file → ∀ q ∈ file.targets, q ∈ paths

/-- The crawl of a reader is such a run from its starts. -/
theorem crawls_crawl (r : Reader) (starts : List Path) : r.supplier.Crawls [] starts (r.crawl starts) :=
  r.supplier.crawls_crawlFrom [] starts

/-- What is read at a path is what the reader has there. -/
theorem outcome_of_mem_crawl {r : Reader} {starts : List Path} {reading : Reading}
    (listed : reading ∈ r.crawl starts) : reading.outcome = r.load reading.path := by
  obtain ⟨earlier, later, split⟩ := List.append_of_mem listed
  exact (r.crawls_crawl starts).outcome_eq split

/-- Each path that is asked for is read. -/
theorem mem_crawl_iff {r : Reader} {starts : List Path} {reading : Reading} :
    reading ∈ r.crawl starts ↔ reading.path ∈ r.asked starts ∧ reading.outcome = r.load reading.path := by
  constructor
  · intro listed
    exact ⟨List.mem_map_of_mem listed, outcome_of_mem_crawl listed⟩
  · rintro ⟨listed, outcome⟩
    obtain ⟨other, found, same⟩ := List.mem_map.1 listed
    have outcome' := outcome_of_mem_crawl found
    rw [same, ← outcome] at outcome'
    obtain ⟨path, result⟩ := reading
    obtain ⟨path', result'⟩ := other
    cases same
    cases outcome'
    exact found

/-- What a path hands on is what its file includes, if it loads. -/
theorem mem_targets_load_iff {r : Reader} {p q : Path} :
    q ∈ Reading.targets ⟨p, r.load p⟩ ↔ ∃ file, r.load p = .ok file ∧ q ∈ file.targets := by
  cases loaded : r.load p with
  | error reason => simp [Reading.targets]
  | ok file => simp [Reading.targets]

/-- There is a file to load where the reader has lines, the root apart. -/
theorem exists_load_eq_ok_iff {r : Reader} {p : Path} :
    (∃ file, r.load p = .ok file) ↔ p ≠ Path.root ∧ ∃ ls, r.read p = .ok ls := by
  constructor
  · rintro ⟨file, loaded⟩
    obtain ⟨ls, answered, read⟩ := SourceFile.ofAnswer_eq_ok_iff.1 loaded
    refine ⟨fun top => ?_, ls, answered⟩
    rw [SourceFile.ofLines?_eq_none_iff.2 top] at read
    cases read
  · rintro ⟨inside, ls, answered⟩
    have made : SourceFile.ofLines? p ls ≠ none := fun none => inside (SourceFile.ofLines?_eq_none_iff.1 none)
    obtain ⟨file, read⟩ := Option.ne_none_iff_exists'.1 made
    exact ⟨file, SourceFile.ofAnswer_eq_ok_iff.2 ⟨ls, answered, read⟩⟩

/-- No path is asked for twice. -/
theorem nodup_asked (r : Reader) (starts : List Path) : (r.asked starts).Nodup :=
  (r.crawls_crawl starts).nodup .nil

/-- The starts and what the files include are asked for, and nothing else is. -/
theorem isLeast_asked (r : Reader) (starts : List Path) :
    IsLeast {paths | r.Closed starts paths} {p | p ∈ r.asked starts} := by
  have run := r.crawls_crawl starts
  refine ⟨⟨run.mem_of_waits, ?_⟩, ?_⟩
  · intro p listed file loaded q included
    have reading : ⟨p, r.load p⟩ ∈ r.crawl starts := mem_crawl_iff.2 ⟨listed, rfl⟩
    exact run.mem_of_target _ reading q (mem_targets_load_iff.2 ⟨file, loaded, included⟩)
  · intro paths closed
    refine run.forall_path (· ∈ paths) (fun _ p inside q included => ?_) closed.starts_mem
    obtain ⟨file, loaded, listed⟩ := mem_targets_load_iff.1 included
    exact closed.targets_mem p inside file loaded q listed

/-- A crawl that starts with more asks for more. -/
theorem asked_mono {r : Reader} {starts others : List Path} (more : ∀ p ∈ starts, p ∈ others) {p : Path}
    (listed : p ∈ r.asked starts) : p ∈ r.asked others := by
  have further := (r.isLeast_asked others).1
  have closed : r.Closed starts {p | p ∈ r.asked others} :=
    ⟨fun q start => further.starts_mem q (more q start), further.targets_mem⟩
  exact (r.isLeast_asked starts).2 closed listed

end Reader

namespace Library

/-- A library in which each of the paths stands once, as the reader answers for it. -/
structure AccountsFor (lib : Library) (r : Reader) (paths : List Path) : Prop where
  /-- No path comes twice, and none is both a file and a failure. -/
  once : (lib.paths ++ lib.failures.map Prod.fst).Nodup
  /-- The files and the failures together are the paths. -/
  complete : ∀ p, p ∈ paths ↔ p ∈ lib.paths ∨ p ∈ lib.failures.map Prod.fst
  /-- There is a file where the reader has lines, the root apart. -/
  loads : ∀ p, p ∈ lib.paths ↔ p ∈ paths ∧ p ≠ Path.root ∧ ∃ ls, r.read p = .ok ls
  /-- The file lies at its path and is made of exactly these lines. -/
  holds : ∀ p file, lib.find? p = some file ↔ p ∈ paths ∧ file.path = p ∧
    ∃ ls, r.read p = .ok ls ∧ SourceFile.ofLines? p ls = some file
  /-- Any other path fails: for the reader's reason, and the root even where there are lines. -/
  fails : ∀ p reason, (p, reason) ∈ lib.failures ↔ p ∈ paths ∧
    (r.read p = .error reason ∨ p = Path.root ∧ (∃ ls, r.read p = .ok ls) ∧
      reason = (Fault.noParent Path.root).message)

/-- A library that is built holds what the crawl read. -/
theorem eq_of_build_eq_ok {s : Supplier} {starts : List Path} {lib : Library}
    (built : build s starts = .ok lib) : lib = ofReadings (s.crawl starts) :=
  (build_eq_ok_iff.1 built).1.symm

/-- The file at a path is what the reader has there. -/
theorem find?_crawl_eq_some_iff {r : Reader} {starts : List Path} {p : Path} {file : SourceFile} :
    (ofReadings (r.crawl starts)).find? p = some file ↔ p ∈ r.asked starts ∧ r.load p = .ok file := by
  have found (q : Path) (other : SourceFile)
      (at_path : (ofReadings (r.crawl starts)).find? q = some other) :
      q ∈ r.asked starts ∧ r.load q = .ok other := by
    have loaded := mem_of_find?_eq_some at_path
    obtain ⟨reading, listed, outcome⟩ := mem_files_ofReadings_iff.1 loaded.1
    have read := Reader.mem_crawl_iff.1 listed
    have made : r.load reading.path = .ok other := read.2.symm.trans outcome
    have same : reading.path = q := (SourceFile.path_of_ofAnswer made).symm.trans loaded.2
    rw [← same]
    exact ⟨read.1, made⟩
  constructor
  · exact found p file
  · rintro ⟨listed, loaded⟩
    have reading : ⟨p, .ok file⟩ ∈ r.crawl starts := Reader.mem_crawl_iff.2 ⟨listed, loaded.symm⟩
    have inside : file ∈ (ofReadings (r.crawl starts)).files := mem_files_ofReadings_iff.2 ⟨_, reading, rfl⟩
    have here : p ∈ (ofReadings (r.crawl starts)).paths :=
      List.mem_map.2 ⟨file, inside, SourceFile.path_of_ofAnswer loaded⟩
    obtain ⟨other, at_path⟩ := mem_paths_iff.1 here
    have same : other = file := Except.ok.inj ((found p other at_path).2.symm.trans loaded)
    rw [at_path, same]

/-- A failure is what the reader fails with. -/
theorem mem_failures_crawl_iff {r : Reader} {starts : List Path} {p : Path} {reason : String} :
    (p, reason) ∈ (ofReadings (r.crawl starts)).failures ↔
      p ∈ r.asked starts ∧ r.load p = .error reason := by
  rw [mem_failures_ofReadings_iff]
  constructor
  · rintro ⟨reading, listed, rfl, outcome⟩
    have read := Reader.mem_crawl_iff.1 listed
    exact ⟨read.1, read.2.symm.trans outcome⟩
  · rintro ⟨listed, failed⟩
    exact ⟨⟨p, .error reason⟩, Reader.mem_crawl_iff.2 ⟨listed, failed.symm⟩, rfl, rfl⟩

/-- The files are what was asked for and loads. -/
theorem mem_paths_crawl {r : Reader} {starts : List Path} {p : Path} :
    p ∈ (ofReadings (r.crawl starts)).paths ↔ p ∈ r.asked starts ∧ ∃ file, r.load p = .ok file := by
  rw [mem_paths_iff, ← exists_and_left]
  exact exists_congr fun file => find?_crawl_eq_some_iff

/-- The failures are what was asked for and does not load. -/
theorem mem_failed_crawl {r : Reader} {starts : List Path} {p : Path} :
    p ∈ (ofReadings (r.crawl starts)).failures.map Prod.fst ↔
      p ∈ r.asked starts ∧ ¬ ∃ file, r.load p = .ok file := by
  have fails : (∃ reason, r.load p = .error reason) ↔ ¬ ∃ file, r.load p = .ok file := by
    cases r.load p with
    | ok file => simp
    | error reason => simp
  rw [List.mem_map, ← fails, ← exists_and_left]
  constructor
  · rintro ⟨⟨path, reason⟩, listed, rfl⟩
    exact ⟨reason, mem_failures_crawl_iff.1 listed⟩
  · rintro ⟨reason, failed⟩
    exact ⟨(p, reason), mem_failures_crawl_iff.2 failed, rfl⟩

/-- A path that was asked for is a file if it loads. -/
theorem mem_paths_crawl_iff {r : Reader} {starts : List Path} {p : Path} (asked : p ∈ r.asked starts) :
    p ∈ (ofReadings (r.crawl starts)).paths ↔ ∃ file, r.load p = .ok file :=
  mem_paths_crawl.trans (and_iff_right asked)

/-- A path that was asked for is a failure if it does not load. -/
theorem mem_failed_crawl_iff {r : Reader} {starts : List Path} {p : Path} (asked : p ∈ r.asked starts) :
    p ∈ (ofReadings (r.crawl starts)).failures.map Prod.fst ↔ ¬ ∃ file, r.load p = .ok file :=
  mem_failed_crawl.trans (and_iff_right asked)

/-- The crawl of a reader's files asks for no path twice, and the paths that it asks for are the least to
hold the starts and whatever a file among them includes. A library that is built holds each of them once,
as a file where the reader has lines and as a failure elsewhere. -/
theorem build_accountsFor_asked (r : Reader) (starts : List Path) :
    (r.asked starts).Nodup ∧
    IsLeast {paths | r.Closed starts paths} {p | p ∈ r.asked starts} ∧
    ∀ lib, build r starts = .ok lib → lib.AccountsFor r (r.asked starts) := by
  refine ⟨r.nodup_asked starts, r.isLeast_asked starts, fun lib built => ?_⟩
  obtain rfl := eq_of_build_eq_ok built
  have all : ((ofReadings (r.crawl starts)).paths ++
      (ofReadings (r.crawl starts)).failures.map Prod.fst).Perm (r.asked starts) := by
    refine ofReadings_perm _ fun reading listed file outcome => ?_
    rw [Reader.outcome_of_mem_crawl listed] at outcome
    exact SourceFile.path_of_ofAnswer outcome
  constructor
  case once => exact all.nodup_iff.2 (r.nodup_asked starts)
  case complete => exact fun p => all.mem_iff.symm.trans List.mem_append
  case loads =>
    intro p
    rw [← Reader.exists_load_eq_ok_iff, mem_paths_iff, ← exists_and_left]
    exact exists_congr fun file => find?_crawl_eq_some_iff
  case holds =>
    intro p file
    refine find?_crawl_eq_some_iff.trans (and_congr_right fun _ => ?_)
    rw [Reader.load, SourceFile.ofAnswer_eq_ok_iff]
    exact ⟨fun ⟨ls, answered, read⟩ => ⟨SourceFile.path_of_ofLines? read, ls, answered, read⟩, And.right⟩
  case fails =>
    intro p reason
    exact mem_failures_crawl_iff.trans (and_congr_right fun _ => SourceFile.ofAnswer_eq_error_iff)

/-- A reader of a file that includes another one under two names, a path at which there is nothing, and
the root, for which it has lines. -/
def outpost : Reader :=
  Reader.ofTable
    [(Path.root, .ok ["int r;".toList]),
      (Path.root.follow ['a'], .ok ["#include b".toList, "#include ./b".toList, "#include /".toList,
        "#include x".toList]),
      (Path.root.follow ['b'], .ok ["int b;".toList])]
    fun _ => "no such file"

/-- The file with two names is asked for once, and the root, for which there are lines, is a failure. -/
theorem build_accountsFor_asked_outpost :
    let starts := [Path.root.follow ['a'], Path.root.follow ['b'], Path.root.follow ['a']]
    let lib := ofReadings (outpost.crawl starts)
    outpost.asked starts =
      [Path.root.follow ['a'], Path.root.follow ['b'], Path.root, Path.root.follow ['x']] ∧
    build outpost starts = .ok lib ∧ lib.AccountsFor outpost (outpost.asked starts) := by
  intro starts lib
  have straight : (ofReadings (outpost.crawl starts)).cycle? = none := by cbv
  have built : build outpost starts = .ok lib := by
    show checked lib = .ok lib
    rw [checked, straight]
  exact ⟨by cbv, built, (build_accountsFor_asked outpost starts).2.2 lib built⟩

end Library

end ShaderBundle
