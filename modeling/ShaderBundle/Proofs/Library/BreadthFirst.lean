import ShaderBundle.Proofs.Library.Starts
/-!
# The order of the crawl

What a crawl asks for, in order, are the first occurrences in one long list: the starts, and after them what
the paths asked for hand on, each path at its turn. The queue is a window on this list, so neither the
repetitions in it nor what is kept out of it changes the order.

The rest follows from this. The starts come first, each once; of two other paths, the one comes first whose
first includer came first; and so, by induction on the number of includes, whatever is nearer to the starts
comes before whatever is farther.
-/

namespace ShaderBundle

section FirstOccurrences

variable {α : Type} [DecidableEq α] {front back other seen : List α} {x y : α}

/-- A list in which nothing comes twice consists of first occurrences. -/
theorem eraseDups_of_nodup {l : List α} (distinct : l.Nodup) : l.eraseDups = l := by
  induction l with
  | nil => rfl
  | cons x rest ih =>
    have parts := List.nodup_cons.1 distinct
    have others : rest.filter (fun y => !y == x) = rest := by
      apply List.filter_eq_self.2
      intro y listed
      have differs : y ≠ x := fun same => parts.1 (same ▸ listed)
      simpa using differs
    rw [List.eraseDups_cons, others, ih parts.2]

/-- Of a second list, only what is not in the first one counts. -/
theorem eraseDups_append_eq (same : back.removeAll front = other.removeAll front) :
    (front ++ back).eraseDups = (front ++ other).eraseDups := by
  rw [List.eraseDups_append, List.eraseDups_append, same]

/-- What is left of two lists is what is left of each. -/
theorem removeAll_append (back other front : List α) :
    (back ++ other).removeAll front = back.removeAll front ++ other.removeAll front :=
  List.filter_append ..

/-- To leave out something earlier that is left out anyway makes no difference. -/
theorem removeAll_filter (same : ∀ x, x ∈ seen ↔ x ∈ front) :
    (back.filter fun x => x ∉ seen).removeAll front = back.removeAll front := by
  unfold List.removeAll
  rw [List.filter_filter]
  apply List.filter_congr
  intro x _
  by_cases old : x ∈ front
  · simp [old]
  · simp [same, old]

/-- What occurs in the front of a list stays before what does not. -/
theorem idxOf_eraseDups_lt (early : x ∈ front) (late : y ∉ front) :
    (front ++ back).eraseDups.idxOf x < (front ++ back).eraseDups.idxOf y := by
  have here : x ∈ front.eraseDups := List.mem_eraseDups.2 early
  have absent : y ∉ front.eraseDups := fun listed => late (List.mem_eraseDups.1 listed)
  rw [List.eraseDups_append, List.idxOf_append_of_mem here, List.idxOf_append_of_notMem absent]
  have bound : front.eraseDups.idxOf x < front.eraseDups.length := List.idxOf_lt_length_of_mem here
  omega

end FirstOccurrences

/-- What a run asks for after what was asked for before it: the first occurrences in what was asked for
before, what waits, and what the readings send to the queue. -/
theorem Supplier.Crawls.order {s : Supplier} {before queue : List Path} {readings : List Reading}
    (run : s.Crawls before queue readings) (distinct : before.Nodup) :
    before.reverse ++ readings.map Reading.path =
      (before.reverse ++ (queue ++ readings.flatMap Reading.targets)).eraseDups := by
  induction run with
  | done before =>
    have once : before.reverse.Nodup := List.nodup_reverse.2 distinct
    simp only [List.map_nil, List.flatMap_nil, List.append_nil]
    exact (eraseDups_of_nodup once).symm
  | @skips before queue path readings old rest ih =>
    rw [ih distinct]
    apply eraseDups_append_eq
    simp [List.removeAll, old]
  | @asks before queue path readings fresh rest ih =>
    have later := ih (List.nodup_cons.2 ⟨fresh, distinct⟩)
    have front : (path :: before).reverse = before.reverse ++ [path] := List.reverse_cons
    calc
      before.reverse ++ (⟨path, s.load before path⟩ :: readings).map Reading.path
          = (path :: before).reverse ++ readings.map Reading.path := by
            rw [front, List.append_assoc]
            rfl
      _ = ((path :: before).reverse ++
            (queue ++ (Reading.targets ⟨path, s.load before path⟩ ++ readings.flatMap Reading.targets))).eraseDups := by
            rw [later]
            apply eraseDups_append_eq
            rw [removeAll_append, removeAll_append, removeAll_append, removeAll_append,
              removeAll_filter fun p => List.mem_reverse.symm, List.append_assoc]
      _ = _ := by
            rw [front, List.append_assoc]
            rfl

namespace Reader

variable {r : Reader} {starts : List Path} {f g p q : Path}

/-- What a path hands on when it is asked for: what its file asks for, if it loads. -/
def handsOn (r : Reader) (p : Path) : List Path := Reading.targets ⟨p, r.load p⟩

/-- What a path hands on is what it aims at. -/
theorem mem_handsOn_iff : q ∈ r.handsOn p ↔ r.AimsAt p q := mem_targets_load_iff

/-- A crawl asks for the first occurrences in the starts and what the paths asked for hand on. -/
theorem asked_eq (r : Reader) (starts : List Path) :
    r.asked starts = (starts ++ (r.asked starts).flatMap r.handsOn).eraseDups := by
  have run := (r.crawls_crawl starts).order List.nodup_nil
  have read : (r.crawl starts).flatMap Reading.targets = (r.asked starts).flatMap r.handsOn := by
    rw [asked, List.flatMap_map]
    apply List.flatMap_congr
    intro reading listed
    rw [handsOn, ← outcome_of_mem_crawl listed]
  rw [← read]
  exact run

/-- The turn of a path: how many are asked for before it. -/
def turn (r : Reader) (starts : List Path) (p : Path) : Nat := (r.asked starts).idxOf p

/-- The path whose turn comes after some others. -/
theorem turn_of_split {earlier later : List Path} (split : r.asked starts = earlier ++ p :: later) :
    r.turn starts p = earlier.length := by
  have distinct := r.nodup_asked starts
  rw [split] at distinct
  have fresh : p ∉ earlier := by
    intro listed
    exact (List.nodup_append.1 distinct).2.2 p listed p List.mem_cons_self rfl
  rw [turn, split, List.idxOf_append_of_notMem fresh, List.idxOf_cons_self, Nat.add_zero]

/-- What is handed on early in the crawl has its turn before what is not. -/
theorem turn_lt_of_split {front back : List Path}
    (split : starts ++ (r.asked starts).flatMap r.handsOn = front ++ back)
    (early : p ∈ front) (late : q ∉ front) : r.turn starts p < r.turn starts q := by
  have order : r.asked starts = (front ++ back).eraseDups := by
    rw [← split]
    exact r.asked_eq starts
  rw [turn, turn, order]
  exact idxOf_eraseDups_lt early late

/-- Of the paths asked for, one is the first that asks for another. -/
def FirstAims (r : Reader) (starts : List Path) (f p : Path) : Prop :=
  ∃ earlier later, r.asked starts = earlier ++ f :: later ∧ r.AimsAt f p ∧ ∀ g ∈ earlier, ¬ r.AimsAt g p

/-- The first that asks for a path asks for it. -/
theorem FirstAims.aims (first : r.FirstAims starts f p) : r.AimsAt f p := by
  obtain ⟨_, _, _, aims, _⟩ := first
  exact aims

/-- The first that asks for a path is asked for itself. -/
theorem FirstAims.mem_asked (first : r.FirstAims starts f p) : f ∈ r.asked starts := by
  obtain ⟨earlier, later, split, _⟩ := first
  rw [split]
  exact List.mem_append_right earlier List.mem_cons_self

/-- Where something asks for a path, there is a first that does, and its turn is not later. -/
theorem exists_firstAims (listed : g ∈ r.asked starts) (aims : r.AimsAt g p) :
    ∃ f, r.FirstAims starts f p ∧ r.turn starts f ≤ r.turn starts g := by
  have some_aims : ((r.asked starts).find? fun f => decide (p ∈ r.handsOn f)).isSome := by
    rw [List.find?_isSome]
    exact ⟨g, listed, decide_eq_true (mem_handsOn_iff.2 aims)⟩
  obtain ⟨f, found⟩ := Option.isSome_iff_exists.1 some_aims
  obtain ⟨here, earlier, later, split, passed⟩ := List.find?_eq_some_iff_append.1 found
  have passes : ∀ g ∈ earlier, ¬ r.AimsAt g p := by
    intro g before aims
    have skipped := passed g before
    simp [mem_handsOn_iff.2 aims] at skipped
  have first : r.FirstAims starts f p :=
    ⟨earlier, later, split, mem_handsOn_iff.1 (of_decide_eq_true here), passes⟩
  refine ⟨f, first, ?_⟩
  have behind : g ∉ earlier := fun before => passes g before aims
  rw [turn_of_split split, turn, split, List.idxOf_append_of_notMem behind]
  exact Nat.le_add_right _ _

/-- A path that is asked for and is no start was handed on by another one. -/
theorem exists_aimsAt (listed : p ∈ r.asked starts) (further : p ∉ starts) :
    ∃ g ∈ r.asked starts, r.AimsAt g p := by
  rw [asked_eq, List.mem_eraseDups, List.mem_append, List.mem_flatMap] at listed
  obtain ⟨g, before, handed⟩ := listed.resolve_left further
  exact ⟨g, before, mem_handsOn_iff.1 handed⟩

/-- The starts have their turn before all other paths. -/
theorem turn_lt_of_start (start : p ∈ starts) (further : q ∉ starts) :
    r.turn starts p < r.turn starts q :=
  turn_lt_of_split rfl start further

/-- What is no start is not handed on by paths none of which asks for it. -/
theorem not_mem_handed {among : List Path} (further : q ∉ starts) (passed : ∀ g ∈ among, ¬ r.AimsAt g q) :
    q ∉ starts ++ among.flatMap r.handsOn := by
  intro listed
  rcases List.mem_append.1 listed with start | handed
  · exact further start
  · obtain ⟨g, within, aims⟩ := List.mem_flatMap.1 handed
    exact passed g within (mem_handsOn_iff.1 aims)

/-- Of two paths that are no starts, the one comes first whose first includer comes first. -/
theorem turn_lt_of_firstAims (further : q ∉ starts) (first : r.FirstAims starts f p)
    (second : r.FirstAims starts g q) (order : r.turn starts f < r.turn starts g) :
    r.turn starts p < r.turn starts q := by
  obtain ⟨earlier, later, split, aims, _⟩ := first
  obtain ⟨before, behind, split', _, passed⟩ := second
  rw [turn_of_split split, turn_of_split split'] at order
  -- Whatever came up to the first includer of the one came before that of the other.
  have within : earlier ++ [f] <+: before := by
    have short : (earlier ++ [f]).length ≤ before.length := by
      rw [List.length_append, List.length_singleton]
      omega
    have one : earlier ++ [f] <+: r.asked starts := ⟨later, by rw [split, List.append_assoc]; rfl⟩
    have two : before <+: r.asked starts := ⟨g :: behind, split'.symm⟩
    exact List.prefix_of_prefix_length_le one two short
  have handed : starts ++ (r.asked starts).flatMap r.handsOn =
      (starts ++ (earlier ++ [f]).flatMap r.handsOn) ++ later.flatMap r.handsOn := by
    rw [split]
    simp
  apply turn_lt_of_split handed
  · apply List.mem_append_right
    rw [List.mem_flatMap]
    exact ⟨f, by simp, mem_handsOn_iff.2 aims⟩
  · exact not_mem_handed further fun h at_turn => passed h (within.subset at_turn)

/-- Of two paths with the same first includer, the one comes first that it asks for on an earlier line. -/
theorem turn_lt_of_line (further : q ∉ starts) (first : r.FirstAims starts f p)
    (second : r.FirstAims starts f q) (order : (r.handsOn f).idxOf p < (r.handsOn f).idxOf q) :
    r.turn starts p < r.turn starts q := by
  obtain ⟨earlier, later, split, aims, _⟩ := first
  obtain ⟨before, behind, split', aims', passed⟩ := second
  have same : before = earlier := by
    have length : before.length = earlier.length := by rw [← turn_of_split split, ← turn_of_split split']
    exact (List.append_inj (split'.symm.trans split) length).1
  rw [same] at passed
  have there : p ∈ r.handsOn f := mem_handsOn_iff.2 aims
  -- The includer's lines are cut behind the one that asks for the first of the two.
  let cut := (r.handsOn f).idxOf p + 1
  have handed : starts ++ (r.asked starts).flatMap r.handsOn =
      (starts ++ earlier.flatMap r.handsOn ++ (r.handsOn f).take cut) ++
        ((r.handsOn f).drop cut ++ later.flatMap r.handsOn) := by
    have halves : r.handsOn f ++ later.flatMap r.handsOn =
        (r.handsOn f).take cut ++ ((r.handsOn f).drop cut ++ later.flatMap r.handsOn) := by
      rw [← List.append_assoc, List.take_append_drop]
    rw [split, List.flatMap_append, List.flatMap_cons, halves]
    simp only [List.append_assoc]
  apply turn_lt_of_split handed
  · apply List.mem_append_right
    rw [List.mem_take_iff_idxOf_lt there]
    exact Nat.lt_succ_self _
  · intro listed
    rcases List.mem_append.1 listed with before | here
    · exact not_mem_handed further passed before
    · rw [List.mem_take_iff_idxOf_lt (mem_handsOn_iff.2 aims')] at here
      omega

/-- A path is reached from the starts in a number of steps, each of which goes from a file that loads to what
one of its lines asks for. -/
def ReachesIn (r : Reader) (starts : List Path) : Nat → Path → Prop
  | 0, p => p ∈ starts
  | n + 1, p => ∃ q, r.ReachesIn starts n q ∧ r.AimsAt q p

/-- The least number of steps in which a path is reached from the starts. -/
noncomputable def distance (r : Reader) (starts : List Path) (p : Path) : Nat :=
  sInf {n | r.ReachesIn starts n p}

/-- What is asked for is reached in some number of steps, and whatever is so reached is asked for. -/
theorem mem_asked_iff_reachesIn : p ∈ r.asked starts ↔ ∃ n, r.ReachesIn starts n p := by
  rw [mem_asked_iff_reaches]
  constructor
  · rintro ⟨start, first, onward⟩
    induction onward with
    | refl => exact ⟨0, first⟩
    | @tail q p _ aims ih =>
      obtain ⟨n, reached⟩ := ih
      exact ⟨n + 1, q, reached, aims⟩
  · rintro ⟨n, reached⟩
    induction n generalizing p with
    | zero => exact ⟨p, reached, .refl⟩
    | succ n ih =>
      obtain ⟨q, before, aims⟩ := reached
      obtain ⟨start, first, onward⟩ := ih before
      exact ⟨start, first, onward.tail aims⟩

/-- Some number of steps is the least for a path that is asked for. -/
theorem isLeast_distance (listed : p ∈ r.asked starts) :
    IsLeast {n | r.ReachesIn starts n p} (r.distance starts p) := by
  have reached : {n | r.ReachesIn starts n p}.Nonempty := mem_asked_iff_reachesIn.1 listed
  exact ⟨Nat.sInf_mem reached, fun n more => Nat.sInf_le more⟩

/-- Whatever is reached within a number of steps has its turn before what is not. -/
theorem turn_lt_of_within (n : Nat) (near : ∃ m ≤ n, r.ReachesIn starts m p)
    (listed : q ∈ r.asked starts) (far : ¬ ∃ m ≤ n, r.ReachesIn starts m q) :
    r.turn starts p < r.turn starts q := by
  -- The induction is on the number of steps: the paths within one more are those that the paths within it
  -- hand on, and none of the first includers of the others is within it.
  induction n generalizing p q with
  | zero =>
    obtain ⟨m, none, start⟩ := near
    obtain rfl : m = 0 := Nat.le_zero.1 none
    exact turn_lt_of_start start fun start' => far ⟨0, Nat.le_refl 0, start'⟩
  | succ n ih =>
    have further : q ∉ starts := fun start => far ⟨0, Nat.zero_le _, start⟩
    obtain ⟨m, few, reached⟩ := near
    cases m with
    | zero => exact turn_lt_of_start reached further
    | succ m =>
      obtain ⟨h, before, aims⟩ := reached
      have handed : h ∈ r.asked starts := mem_asked_iff_reachesIn.2 ⟨m, before⟩
      obtain ⟨f, first, early⟩ := exists_firstAims handed aims
      obtain ⟨g', listed', aims'⟩ := exists_aimsAt listed further
      obtain ⟨g, second, _⟩ := exists_firstAims listed' aims'
      have beyond : ¬ ∃ m ≤ n, r.ReachesIn starts m g := by
        rintro ⟨k, few', reached'⟩
        exact far ⟨k + 1, Nat.succ_le_succ few', g, reached', second.aims⟩
      have order := ih ⟨m, Nat.le_of_succ_le_succ few, before⟩ second.mem_asked beyond
      exact turn_lt_of_firstAims further first second (Nat.lt_of_le_of_lt early order)

/-- The order of a breadth-first crawl. -/
structure CrawlsOutward (r : Reader) (starts : List Path) : Prop where
  /-- The starts come first, in the order of their list, each once. -/
  starts_first : starts.eraseDups <+: r.asked starts
  /-- Each path asked for has a distance: the least number of steps in which it is reached. -/
  measured : ∀ p ∈ r.asked starts, IsLeast {n | r.ReachesIn starts n p} (r.distance starts p)
  /-- The distance never decreases. -/
  outward : ((r.asked starts).map (r.distance starts)).Pairwise (· ≤ ·)
  /-- Each path asked for that is no start has a first includer. -/
  included : ∀ p ∈ r.asked starts, p ∉ starts → ∃ f, r.FirstAims starts f p
  /-- Of two paths that are no starts, the one comes first whose first includer comes first. -/
  in_turn : ∀ p q f g, p ∉ starts → q ∉ starts → r.FirstAims starts f p → r.FirstAims starts g q →
    r.turn starts f < r.turn starts g → r.turn starts p < r.turn starts q
  /-- If they have the same first includer, the one comes first that it asks for on an earlier line. -/
  in_line : ∀ p q f, p ∉ starts → q ∉ starts → r.FirstAims starts f p → r.FirstAims starts f q →
    (r.handsOn f).idxOf p < (r.handsOn f).idxOf q → r.turn starts p < r.turn starts q

/-- Every crawl of a reader's files is breadth first. -/
theorem crawlsOutward (r : Reader) (starts : List Path) : r.CrawlsOutward starts where
  starts_first := by
    rw [asked_eq, List.eraseDups_append]
    exact List.prefix_append _ _
  measured := fun _ listed => isLeast_distance listed
  outward := by
    rw [List.pairwise_map, List.pairwise_iff_getElem]
    intro i j iBound jBound order
    by_contra nearer
    have listed : (r.asked starts)[i] ∈ r.asked starts := List.getElem_mem iBound
    have least := isLeast_distance (List.getElem_mem jBound)
    have back := turn_lt_of_within _ ⟨_, Nat.le_refl _, least.1⟩ listed fun ⟨m, few, reached⟩ =>
      nearer (Nat.le_trans ((isLeast_distance listed).2 reached) few)
    have distinct := r.nodup_asked starts
    rw [turn, turn, distinct.idxOf_getElem, distinct.idxOf_getElem] at back
    omega
  included := by
    intro p listed further
    obtain ⟨g, before, aims⟩ := exists_aimsAt listed further
    obtain ⟨f, first, _⟩ := exists_firstAims before aims
    exact ⟨f, first⟩
  in_turn := fun _ _ _ _ _ further first second order => turn_lt_of_firstAims further first second order
  in_line := fun _ _ _ _ further first second order => turn_lt_of_line further first second order

end Reader

end ShaderBundle
