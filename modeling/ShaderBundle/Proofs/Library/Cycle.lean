import ShaderBundle.Library.Build
import ShaderBundle.Proofs.Library.Includes
import ShaderBundle.Proofs.Path.Written
import ShaderBundle.Proofs.Text.ByteOrder
import Mathlib.Data.List.Chain
import Mathlib.Data.List.Nodup
/-!
# Finding include cycles

The search for include cycles finds one exactly if there is one, and what it reports is a way from a file
to a cycle and once around it. A file is cleared only when everything that it includes has been cleared,
so no cycle is reached from a cleared file; and the trail of the search is a way along includes, so that
meeting it again closes a cycle.
-/

namespace ShaderBundle.Library

open Relation (ReflTransGen TransGen)

/-- An include cycle can be reached from the path. -/
def LeadsAround (lib : Library) (p : Path) : Prop :=
  ∃ q, lib.Reaches p q ∧ TransGen lib.Includes q q

/-- A way along includes on which no file comes twice. -/
structure IsWay (lib : Library) (way : List Path) : Prop where
  /-- The way leads through files of the library. -/
  loaded : ∀ p ∈ way, p ∈ lib.paths
  /-- Each file includes the next. -/
  chained : way.IsChain lib.Includes
  /-- No file comes twice. -/
  distinct : way.Nodup

/-- A way to an include cycle and once around it: the last file is the first one that comes again. -/
structure IsLasso (lib : Library) (trail : List Path) : Prop where
  /-- There is at least one step. -/
  long : 2 ≤ trail.length
  /-- The way leads through files of the library. -/
  loaded : ∀ p ∈ trail, p ∈ lib.paths
  /-- Each file includes the next. -/
  chained : trail.IsChain lib.Includes
  /-- Before the last, no file comes twice. -/
  distinct : trail.dropLast.Nodup
  /-- The last file came before. -/
  closes : ∃ last ∈ trail.dropLast, trail.getLast? = some last

/-- A path leads around a cycle only through something that it includes. -/
theorem LeadsAround.exists_includes {lib : Library} {p : Path} (around : lib.LeadsAround p) :
    ∃ q, lib.Includes p q ∧ lib.LeadsAround q := by
  obtain ⟨q, reached, cycle⟩ := around
  rcases reached.cases_head with rfl | ⟨next, included, onward⟩
  · obtain ⟨next, included, back⟩ := TransGen.head'_iff.1 cycle
    exact ⟨next, included, p, back, cycle⟩
  · exact ⟨next, included, q, onward, cycle⟩

/-- Only files of the library lead around a cycle. -/
theorem LeadsAround.mem_paths {lib : Library} {p : Path} (around : lib.LeadsAround p) :
    p ∈ lib.paths := by
  obtain ⟨q, included, _⟩ := around.exists_includes
  exact included.source_mem

/-- What includes nothing that leads around a cycle does not lead around one itself. -/
theorem not_leadsAround_of_targets {lib : Library} {p : Path} {file : SourceFile}
    (found : lib.find? p = some file)
    (safe : ∀ q ∈ file.targets, q ∈ lib.paths → ¬ lib.LeadsAround q) : ¬ lib.LeadsAround p := by
  intro around
  obtain ⟨q, ⟨same, at_path, listed, loaded⟩, onward⟩ := around.exists_includes
  obtain rfl : file = same := Option.some.inj (found.symm.trans at_path)
  exact safe q listed loaded onward

/-- Each file of a lasso includes another one. -/
theorem IsLasso.exists_includes {lib : Library} {trail : List Path} (lasso : lib.IsLasso trail) {p : Path}
    (listed : p ∈ trail) : ∃ q, lib.Includes p q := by
  obtain ⟨last, before, ends⟩ := lasso.closes
  have whole : trail.dropLast ++ [last] = trail := List.dropLast_append_getLast? last ends
  have early : p ∈ trail.dropLast := by
    rw [← whole, List.mem_append, List.mem_singleton] at listed
    rcases listed with early | rfl
    · exact early
    · exact before
  obtain ⟨front, back, split⟩ := List.append_of_mem early
  have chained := lasso.chained
  rw [← whole, split, List.append_assoc] at chained
  have onward := (List.isChain_append.1 chained).2.1
  cases back with
  | nil => exact ⟨last, List.isChain_pair.1 onward⟩
  | cons next back => exact ⟨next, (List.isChain_cons_cons.1 onward).1⟩

/-- A lasso leads around a cycle from its first file on. -/
theorem IsLasso.leadsAround {lib : Library} {trail : List Path} {first : Path}
    (lasso : lib.IsLasso trail) (starts : trail.head? = some first) : lib.LeadsAround first := by
  obtain ⟨last, before, ends⟩ := lasso.closes
  obtain ⟨way, loop, split⟩ := List.append_of_mem before
  have whole : trail = (way ++ [last]) ++ (loop ++ [last]) := by
    rw [← List.dropLast_append_getLast? last ends, split]
    simp
  have chained := lasso.chained
  rw [whole] at chained
  obtain ⟨onward, _, _⟩ := List.isChain_append.1 chained
  have begins : (way ++ [last]).head (by simp) = first := by
    rw [whole, List.head?_append_of_ne_nil _ (by simp), List.head?_eq_some_head (by simp)] at starts
    exact Option.some.inj starts
  refine ⟨last, ?_, ?_⟩
  · have reached := List.relationReflTransGen_of_exists_isChain _ onward (by simp)
    rwa [begins, List.getLast_concat] at reached
  · rw [List.append_assoc] at chained
    have around := (List.isChain_append.1 chained).2.1
    cases loop with
    | nil => exact .single (List.isChain_pair.1 around)
    | cons next loop =>
      obtain ⟨included, back⟩ := List.isChain_cons_cons.1 around
      exact TransGen.head' included (List.relationReflTransGen_of_exists_isChain_cons _ back (by simp))

/-- A way can be lengthened by a file that its last file includes and that is not on it. -/
theorem IsWay.concat {lib : Library} {way : List Path} {p : Path} (isWay : lib.IsWay way)
    (loaded : p ∈ lib.paths) (fresh : p ∉ way) (joins : ∀ last ∈ way.getLast?, lib.Includes last p) :
    lib.IsWay (way ++ [p]) where
  loaded := by
    simpa [or_imp, forall_and] using ⟨isWay.loaded, loaded⟩
  chained := List.isChain_append.2 ⟨isWay.chained, .singleton p, by simpa using joins⟩
  distinct := List.nodup_append.2 ⟨isWay.distinct, List.nodup_singleton p, by
    rintro q listed r last rfl
    exact fresh (List.mem_singleton.1 last ▸ listed)⟩

/-- A way that meets itself again is a lasso. -/
theorem IsWay.isLasso {lib : Library} {way : List Path} {p : Path} (isWay : lib.IsWay way)
    (met : p ∈ way) (joins : ∀ last ∈ way.getLast?, lib.Includes last p) : lib.IsLasso (way ++ [p]) where
  long := by
    have := List.length_pos_of_mem met
    simp only [List.length_append, List.length_singleton]
    omega
  loaded := by
    simpa [or_imp, forall_and] using ⟨isWay.loaded, isWay.loaded p met⟩
  chained := List.isChain_append.2 ⟨isWay.chained, .singleton p, by simpa using joins⟩
  distinct := by
    rw [List.dropLast_concat]
    exact isWay.distinct
  closes := ⟨p, by rw [List.dropLast_concat]; exact met, List.getLast?_concat⟩

/-- A search that ends without a cycle has cleared the files it was sent to, and none of the cleared
files leads around a cycle. -/
theorem searchFrom_eq_ok (lib : Library) (trail clear targets cleared : List Path)
    (safe : ∀ p ∈ clear, ¬ lib.LeadsAround p)
    (ended : lib.searchFrom trail clear targets = .ok cleared) :
    (∀ p ∈ cleared, ¬ lib.LeadsAround p) ∧ clear ⊆ cleared ∧
      ∀ p ∈ targets, p ∈ lib.paths → p ∈ cleared := by
  fun_induction searchFrom lib trail clear targets generalizing cleared with
  | case1 trail clear =>
    obtain rfl : clear = cleared := Except.ok.inj ended
    exact ⟨safe, List.Subset.refl clear, by simp⟩
  | case2 trail clear target targets absent ih =>
    obtain ⟨safe', kept, entered⟩ := ih cleared safe ended
    refine ⟨safe', kept, List.forall_mem_cons.2 ⟨fun loaded => ?_, entered⟩⟩
    exact absurd loaded (find?_eq_none_iff.1 absent)
  | case3 trail clear target targets file found met => cases ended
  | case4 trail clear target targets file found fresh old ih =>
    obtain ⟨safe', kept, entered⟩ := ih cleared safe ended
    exact ⟨safe', kept, List.forall_mem_cons.2 ⟨fun _ => kept old, entered⟩⟩
  | case5 trail clear target targets file found fresh new cycle stopped ih => cases ended
  | case6 trail clear target targets file found fresh new between done into beyond =>
    obtain ⟨safe', kept, entered⟩ := into between safe done
    have around : ¬ lib.LeadsAround target :=
      not_leadsAround_of_targets found fun q listed loaded => safe' q (entered q listed loaded)
    obtain ⟨safe'', kept', entered'⟩ := beyond cleared (List.forall_mem_cons.2 ⟨around, safe'⟩) ended
    refine ⟨safe'', fun p old => kept' (List.mem_cons_of_mem target (kept old)), ?_⟩
    exact List.forall_mem_cons.2 ⟨fun _ => kept' List.mem_cons_self, entered'⟩

/-- The file that the trail ends with includes each of the targets, as far as they loaded. -/
def LeadsOn (lib : Library) (trail targets : List Path) : Prop :=
  ∀ last ∈ trail.head?, ∀ p ∈ targets, p ∈ lib.paths → lib.Includes last p

/-- The targets after the first one are included as well. -/
theorem LeadsOn.tail {lib : Library} {trail targets : List Path} {target : Path}
    (leads : lib.LeadsOn trail (target :: targets)) : lib.LeadsOn trail targets :=
  fun last ends p listed => leads last ends p (List.mem_cons_of_mem target listed)

/-- A way from the trail's end goes on with its first target. -/
theorem LeadsOn.joins {lib : Library} {trail targets : List Path} {target : Path}
    (leads : lib.LeadsOn trail (target :: targets)) (loaded : target ∈ lib.paths) :
    ∀ last ∈ trail.reverse.getLast?, lib.Includes last target := by
  rw [List.getLast?_reverse]
  exact fun last ends => leads last ends target List.mem_cons_self loaded

/-- What is reported of some targets: a lasso that begins with the trail and goes on with the first of the
targets that leads around a cycle. -/
structure IsReport (lib : Library) (trail targets cycle : List Path) : Prop where
  /-- The report is a lasso. -/
  lasso : lib.IsLasso cycle
  /-- The report begins with the trail, and the targets that it passes over lead around no cycle. -/
  begins : ∃ before target behind, targets = before ++ target :: behind ∧
    (∀ p ∈ before, ¬ lib.LeadsAround p) ∧ trail.reverse ++ [target] <+: cycle

/-- A target that leads around no cycle is passed over. -/
theorem IsReport.pass {lib : Library} {trail targets cycle : List Path} {target : Path}
    (report : lib.IsReport trail targets cycle) (safe : ¬ lib.LeadsAround target) :
    lib.IsReport trail (target :: targets) cycle := by
  obtain ⟨before, next, behind, rfl, passed, begins⟩ := report.begins
  exact ⟨report.lasso, target :: before, next, behind, rfl, List.forall_mem_cons.2 ⟨safe, passed⟩, begins⟩

/-- What is reported below the first target is reported of the targets. -/
theorem IsReport.up {lib : Library} {trail targets below cycle : List Path} {target : Path}
    (report : lib.IsReport (target :: trail) below cycle) :
    lib.IsReport trail (target :: targets) cycle := by
  obtain ⟨before, next, behind, _, _, begins⟩ := report.begins
  refine ⟨report.lasso, [], target, targets, rfl, by simp, ?_⟩
  rw [← List.reverse_cons]
  exact (List.prefix_append _ _).trans begins

/-- A search that ends with a cycle reports a lasso, which begins with the trail and goes on with the
first of the targets that leads around a cycle. -/
theorem searchFrom_eq_error (lib : Library) (trail clear targets cycle : List Path)
    (safe : ∀ p ∈ clear, ¬ lib.LeadsAround p) (isWay : lib.IsWay trail.reverse)
    (leads : lib.LeadsOn trail targets) (ended : lib.searchFrom trail clear targets = .error cycle) :
    lib.IsReport trail targets cycle := by
  fun_induction searchFrom lib trail clear targets with
  | case1 trail clear => cases ended
  | case2 trail clear target targets absent ih =>
    have report := ih safe isWay leads.tail ended
    exact report.pass fun around => find?_eq_none_iff.1 absent around.mem_paths
  | case3 trail clear target targets file found met =>
    obtain rfl : (target :: trail).reverse = cycle := Except.error.inj ended
    have joins := leads.joins (mem_paths_of_find?_eq_some found)
    have lasso := isWay.isLasso (List.mem_reverse.2 met) joins
    rw [List.reverse_cons]
    exact ⟨lasso, [], target, targets, rfl, by simp, List.prefix_rfl⟩
  | case4 trail clear target targets file found fresh old ih =>
    have report := ih safe isWay leads.tail ended
    exact report.pass (safe target old)
  | case5 trail clear target targets file found fresh new cycle' stopped ih =>
    obtain rfl : cycle' = cycle := Except.error.inj ended
    have loaded : target ∈ lib.paths := mem_paths_of_find?_eq_some found
    have longer : lib.IsWay (target :: trail).reverse := by
      rw [List.reverse_cons]
      exact isWay.concat loaded (fun listed => fresh (List.mem_reverse.1 listed)) (leads.joins loaded)
    have onward : lib.LeadsOn (target :: trail) file.targets := by
      intro last ends p listed inside
      obtain rfl : target = last := Option.some.inj ends
      exact ⟨file, found, listed, inside⟩
    exact (ih safe longer onward stopped).up
  | case6 trail clear target targets file found fresh new between done into beyond =>
    obtain ⟨safe', _, entered⟩ := searchFrom_eq_ok lib (target :: trail) clear file.targets between safe done
    have around : ¬ lib.LeadsAround target :=
      not_leadsAround_of_targets found fun q listed loaded => safe' q (entered q listed loaded)
    have report := beyond (List.forall_mem_cons.2 ⟨around, safe'⟩) isWay leads.tail ended
    exact report.pass around

/-- A library in which no cycle is found has none. -/
theorem not_leadsAround_of_cycle?_eq_none {lib : Library} (none : lib.cycle? = none) (p : Path) :
    ¬ lib.LeadsAround p := by
  unfold cycle? at none
  split at none
  · cases none
  · next cleared ended =>
    obtain ⟨safe, _, entered⟩ := searchFrom_eq_ok lib [] [] _ cleared (by simp) ended
    intro around
    have sorted := (mem_sortByKey Path.text_injective).2 around.mem_paths
    exact safe p (entered p sorted around.mem_paths) around

/-- In a library that was built, no file includes itself along any way. -/
theorem not_transGen_of_build {s : Supplier} {starts : List Path} {lib : Library}
    (built : build s starts = .ok lib) (p : Path) : ¬ TransGen lib.Includes p p := by
  obtain ⟨_, straight⟩ := build_eq_ok_iff.1 built
  exact fun cycle => not_leadsAround_of_cycle?_eq_none straight p ⟨p, .refl, cycle⟩

/-- What is found is a lasso. It starts at the first file in byte order that leads around a cycle. -/
theorem isLasso_of_cycle?_eq_some {lib : Library} {trail : List Path} (found : lib.cycle? = some trail) :
    lib.IsLasso trail ∧ ∃ first, trail.head? = some first ∧ lib.LeadsAround first ∧
      ∀ p, lib.LeadsAround p → first.text.utf8 ≤ p.text.utf8 := by
  unfold cycle? at found
  split at found
  · next cycle ended =>
    obtain rfl : cycle = trail := Option.some.inj found
    have isWay : lib.IsWay ([] : List Path).reverse := ⟨by simp, .nil, .nil⟩
    have nowhere : lib.LeadsOn [] (sortByKey Path.text lib.paths) := by simp [LeadsOn]
    have report := searchFrom_eq_error lib [] [] _ cycle (by simp) isWay nowhere ended
    obtain ⟨before, first, behind, split, passed, begins⟩ := report.begins
    have starts : cycle.head? = some first := by
      obtain ⟨rest, rfl⟩ := begins
      rfl
    refine ⟨report.lasso, first, starts, report.lasso.leadsAround starts, fun p around => ?_⟩
    have ordered := pairwise_sortByKey Path.text_injective lib.paths
    have listed := (mem_sortByKey Path.text_injective).2 around.mem_paths
    rw [split] at ordered listed
    rw [Text.utf8_le_iff]
    rcases List.mem_append.1 listed with early | late
    · exact absurd around (passed p early)
    · rcases List.mem_cons.1 late with rfl | later
      · exact lt_irrefl _
      · exact lt_asymm ((List.pairwise_cons.1 (List.pairwise_append.1 ordered).2.1).1 p later)
  · cases found

/-- A library in which no file includes another is free of cycles. -/
theorem cycle?_eq_none_of_forall_not_includes {lib : Library} (apart : ∀ p q, ¬ lib.Includes p q) :
    lib.cycle? = none := by
  rw [Option.eq_none_iff_forall_ne_some]
  intro trail found
  obtain ⟨_, first, _, around, _⟩ := isLasso_of_cycle?_eq_some found
  obtain ⟨q, included, _⟩ := around.exists_includes
  exact apart first q included

/-- Building a library is refused for an include cycle exactly if the files that loaded have one, whatever
supplied them. The trail that is reported leads through these files, along includes, to a cycle and once
around it, and it starts at the first of them in byte order from which a cycle can be reached. -/
theorem build_circularInclude (s : Supplier) (starts : List Path) :
    let lib := ofReadings (s.crawl starts)
    ((∃ trail, build s starts = .error (.circularInclude trail)) ↔
      ∃ p, TransGen lib.Includes p p) ∧
    ∀ trail, build s starts = .error (.circularInclude trail) → lib.IsLasso trail ∧
      ∃ first, trail.head? = some first ∧ lib.LeadsAround first ∧
        ∀ p, lib.LeadsAround p → first.text.utf8 ≤ p.text.utf8 := by
  intro lib
  have reported (trail : List Path) :
      build s starts = .error (.circularInclude trail) ↔ lib.cycle? = some trail := by
    rw [build, checked]
    cases lib.cycle? <;> simp
  simp only [reported]
  refine ⟨⟨?_, ?_⟩, fun trail found => isLasso_of_cycle?_eq_some found⟩
  · rintro ⟨trail, found⟩
    obtain ⟨_, first, _, ⟨p, _, cycle⟩, _⟩ := isLasso_of_cycle?_eq_some found
    exact ⟨p, cycle⟩
  · rintro ⟨p, cycle⟩
    refine Option.ne_none_iff_exists'.1 fun none => ?_
    exact not_leadsAround_of_cycle?_eq_none none p ⟨p, .refl, cycle⟩

/-- A reader of three files: two include each other, and the third includes one of them and a path at
which there is nothing. -/
def roundabout : Reader :=
  Reader.ofTable
    [(Path.root.follow ['a'], .ok ["#include b".toList, "#include x".toList]),
      (Path.root.follow ['b'], .ok ["#include c".toList]),
      (Path.root.follow ['c'], .ok ["int c;".toList, "#include b".toList])]
    fun _ => "no such file"

/-- The report leads from the file outside the cycle, which comes first in the order of paths, into it and
around. -/
theorem build_circularInclude_roundabout :
    let starts := [Path.root.follow ['c'], Path.root.follow ['a']]
    let lib := ofReadings (roundabout.supplier.crawl starts)
    let trail := [Path.root.follow ['a'], Path.root.follow ['b'], Path.root.follow ['c'],
      Path.root.follow ['b']]
    build roundabout starts = .error (.circularInclude trail) ∧ lib.IsLasso trail ∧
      ∃ first, trail.head? = some first ∧ lib.LeadsAround first ∧
        ∀ p, lib.LeadsAround p → first.text.utf8 ≤ p.text.utf8 := by
  intro starts lib trail
  have refused : build roundabout starts = .error (.circularInclude trail) := by cbv
  exact ⟨refused, (build_circularInclude roundabout starts).2 trail refused⟩

end ShaderBundle.Library
