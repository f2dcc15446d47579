import ShaderBundle.Proofs.Flat.Runs
import ShaderBundle.Proofs.Library.Rounds
/-!
# The rounds of flattening

A round of flattening goes past a line of the innermost file, or leaves that file. It puts a line that it
yields at the end of the stretches so far, and looks at the last of them only. Told so, flattening ends and
comes to what the recursion comes to, as do the crawl and the search for cycles before it.
-/

namespace ShaderBundle

namespace Stretch

/-- Puts a line at the end: into the last stretch if the line goes on where that one ends, else alone. -/
def push (stretches : List Stretch) (l : PlacedLine) : List Stretch :=
  match stretches.getLast? with
  | none => [⟨l.file, l.index, [l.line.text]⟩]
  | some last =>
    if last.file = l.file ∧ last.start + last.size = l.index then
      stretches.dropLast ++ [⟨last.file, last.start, last.lines ++ [l.line.text]⟩]
    else stretches ++ [⟨l.file, l.index, [l.line.text]⟩]

/-- Stretches with one more at the end are runs if that one has a line and does not go on where the last of
the others ends. -/
theorem AreRuns.concat {stretches : List Stretch} {s : Stretch} (runs : AreRuns stretches) (filled : 1 ≤ s.size)
    (apart : ∀ last ∈ stretches.getLast?, ¬ last.GoesOn s) : AreRuns (stretches ++ [s]) where
  filled := by
    intro t listed
    rcases List.mem_append.1 listed with early | last
    · exact runs.filled t early
    · rw [List.mem_singleton.1 last]
      exact filled
  apart := by
    rw [List.isChain_append]
    exact ⟨runs.apart, .singleton s, by simpa using apart⟩

/-- The entries of a stretch with one more line. -/
theorem entries_concat (file : Path) (start : Nat) (lines : List Text) (text : Text) :
    entries ⟨file, start, lines ++ [text]⟩ =
      entries ⟨file, start, lines⟩ ++ [(file, start + lines.length, text)] := by
  simp [entries, List.zipIdx_append]

/-- A line that is put at the end of runs makes runs, and comes last in them. -/
theorem AreRuns.push {stretches : List Stretch} (runs : AreRuns stretches) (l : PlacedLine) :
    AreRuns (Stretch.push stretches l) ∧
      (Stretch.push stretches l).flatMap entries = stretches.flatMap entries ++ [l.entry] := by
  have alone : 1 ≤ (⟨l.file, l.index, [l.line.text]⟩ : Stretch).size := Nat.le_refl 1
  rw [Stretch.push]
  cases ends : stretches.getLast? with
  | none =>
    obtain rfl := List.getLast?_eq_none_iff.1 ends
    exact ⟨runs.concat alone (by simp), rfl⟩
  | some last =>
    obtain ⟨front, rfl⟩ := List.getLast?_eq_some_iff.1 ends
    dsimp only
    by_cases joined : last.file = l.file ∧ last.start + last.size = l.index
    case pos =>
      rw [if_pos joined, List.dropLast_concat]
      have chained := List.isChain_append.1 runs.apart
      have early : AreRuns front :=
        ⟨fun s listed => runs.filled s (List.mem_append_left _ listed), chained.1⟩
      constructor
      · apply early.concat
        · simp [size]
        · intro before at_end goesOn
          exact chained.2.2 before at_end last rfl goesOn
      · have entry : (last.file, last.start + last.lines.length, l.line.text) = l.entry := by
          rw [PlacedLine.entry, ← joined.1, ← joined.2, size]
        rw [List.flatMap_append, List.flatMap_append, List.flatMap_singleton, List.flatMap_singleton,
          entries_concat, entry, List.append_assoc]
    case neg =>
      rw [if_neg joined]
      constructor
      · apply runs.concat alone
        intro before at_end goesOn
        obtain rfl : last = before := by simpa using at_end
        exact joined ⟨goesOn.1.symm, goesOn.2.symm⟩
      · rw [List.flatMap_append, List.flatMap_singleton]
        rfl

/-- Putting lines at the end one by one comes to the same stretches as putting them in front. -/
theorem ofLines_eq_foldl (ls : List PlacedLine) : ofLines ls = ls.foldl Stretch.push [] := by
  have pushed : AreRuns (ls.foldl Stretch.push []) ∧
      (ls.foldl Stretch.push []).flatMap entries = ls.map PlacedLine.entry := by
    induction ls using List.reverseRecOn with
    | nil => exact ⟨areRuns_ofLines [], rfl⟩
    | append_singleton ls l ih =>
      obtain ⟨runs, entries⟩ := ih
      obtain ⟨runs', entries'⟩ := runs.push l
      rw [List.foldl_append, List.foldl_cons, List.foldl_nil, List.map_append]
      refine ⟨runs', ?_⟩
      rw [entries', entries]
      rfl
  apply (areRuns_ofLines ls).eq_of_entries pushed.1
  rw [pushed.2, flatMap_entries_ofLines]

end Stretch

/-- Where flattening stands. -/
structure Flattening where
  /-- The files that have been entered. -/
  entered : List Path
  /-- The files that flattening is in the middle of, the innermost first. -/
  frames : List Frame
  /-- What has been yielded so far. -/
  stretches : List Stretch

namespace Library

/-- Flattening of a file before its first round. -/
def flattening (file : SourceFile) : Flattening := ⟨[file.path], [.start file], []⟩

/-- A round of flattening the file at a path. -/
def flattenRound (lib : Library) (root : Path) (c : Flattening) : Round Flattening FlatSource :=
  match c.frames with
  | [] => .done ⟨root, c.stretches⟩
  | frame :: below =>
    match frame.line? with
    | none => .again { c with frames := below }
    | some line =>
      match line.target? with
      | none => .again
          { c with
            frames := frame.advance :: below
            stretches := Stretch.push c.stretches ⟨frame.file.path, frame.next, line⟩ }
      | some target =>
        if target ∈ c.entered then .again { c with frames := frame.advance :: below }
        else match lib.find? target with
          | none => .again
              { c with
                frames := frame.advance :: below
                stretches := Stretch.push c.stretches ⟨frame.file.path, frame.next, line⟩ }
          | some file => .again
              { c with
                entered := target :: c.entered
                frames := .start file :: frame.advance :: below }

/-- Flattening comes to what it has yielded and yields from here. Each round goes past a line or the end of a
file; a file that is entered brings its lines and its end with it, and is entered once. -/
def flattenPlan (lib : Library) (root : Path) : Plan Flattening FlatSource where
  sound _ := True
  cost c := Frame.steps c.frames + weightUnseen (fun file => file.lines.length + 1) lib.files c.entered
  outcome c := ⟨root, (lib.expandFrom c.entered c.frames).foldl Stretch.push c.stretches⟩

section Rounds

variable {lib : Library} {root : Path} {c next : Flattening}

/-- A round that enters no file goes by the plan if it leaves fewer lines and ends of files. -/
theorem flattenPlan_allows_of_steps_lt (fewer : Frame.steps next.frames < Frame.steps c.frames)
    (kept : next.entered = c.entered)
    (same : (lib.flattenPlan root).outcome next = (lib.flattenPlan root).outcome c) :
    (lib.flattenPlan root).Allows c (.again next) := by
  refine ⟨trivial, ?_, same⟩
  simp only [flattenPlan, kept]
  omega

end Rounds

/-- Every round of flattening goes by its plan. -/
theorem flattenPlan_allows (lib : Library) (root : Path) (c : Flattening) :
    (lib.flattenPlan root).Allows c (lib.flattenRound root c) := by
  obtain ⟨entered, frames, stretches⟩ := c
  -- What flattening comes to from a state is read off the lines that it yields from there.
  let comesTo (ls : List PlacedLine) : FlatSource := ⟨root, ls.foldl Stretch.push stretches⟩
  cases frames with
  | nil => simp [flattenRound, flattenPlan, Plan.Allows, expandFrom]
  | cons frame below =>
    rw [flattenRound]
    dsimp only
    cases here : frame.line? with
    | none =>
      exact flattenPlan_allows_of_steps_lt (Frame.steps_lt_cons frame below) rfl
        (congrArg comesTo (expandFrom_of_ended here).symm)
    | some line =>
      have fewer := Frame.steps_advance_lt here below
      dsimp only
      cases aims : line.target? with
      | none =>
        exact flattenPlan_allows_of_steps_lt fewer rfl (congrArg comesTo (expandFrom_of_plain here aims).symm)
      | some target =>
        dsimp only
        by_cases old : target ∈ entered
        case pos =>
          rw [if_pos old]
          exact flattenPlan_allows_of_steps_lt fewer rfl
            (congrArg comesTo (expandFrom_of_old here aims old).symm)
        case neg =>
          rw [if_neg old]
          cases found : lib.find? target with
          | none =>
            exact flattenPlan_allows_of_steps_lt fewer rfl
              (congrArg comesTo (expandFrom_of_absent here aims old found).symm)
          | some file =>
            refine ⟨trivial, ?_, congrArg comesTo (expandFrom_of_fresh here aims old found).symm⟩
            have unseen := weightUnseen_cons_add_le (fun file => file.lines.length + 1) found old
            have brought : Frame.steps (.start file :: frame.advance :: below) =
                file.lines.length + 1 + Frame.steps (frame.advance :: below) := rfl
            simp only [flattenPlan, brought]
            omega

/-- The loops of this library end on every input, and come to what the recursion comes to. The crawl goes
round at most once for each start and for each include of what it reads, whatever supplies the files; the
search for cycles once for each file as a start, each include and each end of a file; and flattening once for
each line and each end of a file, in a library with include cycles or without. -/
theorem loops_end :
    (∀ (s : Supplier) (starts : List Path),
      ∃ n ≤ starts.length + ((s.crawl starts).map fun reading => reading.targets.length).sum,
        EndsAfter s.crawlRound n (Supplier.crawling starts) (ofReadings (s.crawl starts))) ∧
    (∀ lib : Library,
      ∃ n ≤ lib.files.length + (lib.files.map fun file => file.targets.length + 1).sum,
        EndsAfter lib.searchRound n lib.searching lib.cycle?) ∧
    ∀ (lib : Library) (file : SourceFile),
      ∃ n ≤ ((file :: lib.files).map fun file => file.lines.length + 1).sum,
        EndsAfter (lib.flattenRound file.path) n (flattening file) (lib.flatten file) := by
  refine ⟨fun s starts => ?crawl, fun lib => ?search, fun lib file => ?flatten⟩
  case crawl =>
    have sound : s.crawlPlan.sound (Supplier.crawling starts) := trivial
    exact s.crawlPlan.exists_endsAfter (fun c _ => s.crawlPlan_allows c) sound
  case search =>
    have sound : lib.searchPlan.sound lib.searching := rfl
    have planned : lib.searchPlan.outcome lib.searching = lib.cycle? := by
      show cycleOf (lib.searchFrom [] [] (sortByKey Path.text lib.paths)) = lib.cycle?
      unfold cycle? cycleOf
      rfl
    obtain ⟨n, few, ends⟩ := lib.searchPlan.exists_endsAfter lib.searchPlan_allows sound
    rw [planned] at ends
    refine ⟨n, few.trans ?_, ends⟩
    have sorted := length_sortByKey_le Path.text lib.paths
    have paths : lib.paths.length = lib.files.length := List.length_map _
    have unseen := weightUnseen_le (fun file => file.targets.length + 1) lib.files []
    show (sortByKey Path.text lib.paths).length + 0 + weightUnseen _ lib.files [] ≤ _
    omega
  case flatten =>
    have sound : (lib.flattenPlan file.path).sound (flattening file) := trivial
    have planned : (lib.flattenPlan file.path).outcome (flattening file) = lib.flatten file := by
      rw [flatten, Stretch.ofLines_eq_foldl]
      rfl
    obtain ⟨n, few, ends⟩ :=
      (lib.flattenPlan file.path).exists_endsAfter (fun c _ => lib.flattenPlan_allows file.path c) sound
    rw [planned] at ends
    refine ⟨n, few.trans ?_, ends⟩
    have unseen := weightUnseen_le (fun file => file.lines.length + 1) lib.files [file.path]
    rw [List.map_cons, List.sum_cons]
    show file.lines.length + 1 + 0 + weightUnseen _ lib.files [file.path] ≤ _
    omega

end Library

end ShaderBundle
