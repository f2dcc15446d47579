import ShaderBundle.Proofs.Loop
import ShaderBundle.Proofs.Library.Starts
/-!
# The rounds of the crawl and of the search for cycles

Both can be told round by round. A round of the crawl takes a path out of the queue. A round of the search
follows one include of the file on top of its stack, or leaves that file, or turns to the next start. Told so,
they end and come to what the recursion comes to: the outcome of a state is what the recursion makes of what
is left in it.
-/

namespace ShaderBundle

/-- Where a crawl stands. -/
structure Crawling where
  /-- The paths that wait to be read. -/
  queue : List Path
  /-- The paths that have been asked for, the latest first. -/
  asked : List Path
  /-- What has been read so far. -/
  lib : Library

namespace Supplier

/-- The crawl before its first round. -/
def crawling (starts : List Path) : Crawling := ⟨starts, [], ⟨[], []⟩⟩

/-- A round of the crawl. -/
def crawlRound (s : Supplier) (c : Crawling) : Round Crawling Library :=
  match c.queue with
  | [] => .done c.lib
  | path :: queue =>
    if path ∈ c.asked then .again { c with queue := queue }
    else match s.load c.asked path with
      | .ok file => .again
          { queue := queue ++ file.targets.filter fun target => target ∉ path :: c.asked
            asked := path :: c.asked
            lib := ⟨c.lib.files ++ [file], c.lib.failures⟩ }
      | .error reason => .again
          { queue := queue
            asked := path :: c.asked
            lib := ⟨c.lib.files, c.lib.failures ++ [(path, reason)]⟩ }

section Steps

variable {s : Supplier} {asked : List Path} {path : Path}

/-- A path that was asked for before is passed over. -/
theorem crawlFrom_of_old (queue : List Path) (old : path ∈ asked) :
    s.crawlFrom asked (path :: queue) = s.crawlFrom asked queue := by
  rw [crawlFrom, dif_pos old]

/-- A path that does not load is noted. -/
theorem crawlFrom_of_error {reason : String} (queue : List Path) (fresh : path ∉ asked)
    (failed : s.load asked path = .error reason) :
    s.crawlFrom asked (path :: queue) = ⟨path, .error reason⟩ :: s.crawlFrom (path :: asked) queue := by
  rw [crawlFrom, dif_neg fresh]
  grind

/-- A file that loads sends what it includes to the queue. -/
theorem crawlFrom_of_ok {file : SourceFile} (queue : List Path) (fresh : path ∉ asked)
    (loaded : s.load asked path = .ok file) :
    s.crawlFrom asked (path :: queue) = ⟨path, .ok file⟩ :: s.crawlFrom (path :: asked)
      (queue ++ file.targets.filter fun target => target ∉ path :: asked) := by
  rw [crawlFrom, dif_neg fresh]
  grind

end Steps

/-- What a crawl comes to is what it has read and what it reads from here. Each round takes a path out of the
queue, and only what a reading sends there comes in. -/
def crawlPlan (s : Supplier) : Plan Crawling Library where
  sound _ := True
  cost c := c.queue.length +
    ((s.crawlFrom c.asked c.queue).map fun reading => reading.targets.length).sum
  outcome c :=
    { files := c.lib.files ++ (Library.ofReadings (s.crawlFrom c.asked c.queue)).files
      failures := c.lib.failures ++ (Library.ofReadings (s.crawlFrom c.asked c.queue)).failures }

/-- Every round of the crawl goes by its plan. -/
theorem crawlPlan_allows (s : Supplier) (c : Crawling) : s.crawlPlan.Allows c (s.crawlRound c) := by
  obtain ⟨queue, asked, lib⟩ := c
  cases queue with
  | nil => simp [crawlRound, crawlPlan, Plan.Allows, crawlFrom, Library.ofReadings]
  | cons path queue =>
    by_cases old : path ∈ asked
    case pos => simp [crawlRound, crawlPlan, Plan.Allows, old, crawlFrom_of_old queue old]
    case neg =>
      rw [crawlRound]
      simp only [if_neg old]
      cases loaded : s.load asked path with
      | error reason =>
        have onward := crawlFrom_of_error queue old loaded
        refine ⟨trivial, ?_, ?_⟩
        · simp only [crawlPlan, onward, Reading.targets, List.map_cons, List.sum_cons, List.length_cons,
            List.length_nil]
          omega
        · simp [crawlPlan, onward, Library.ofReadings, Except.toOption]
      | ok file =>
        have onward := crawlFrom_of_ok queue old loaded
        have fewer : (file.targets.filter fun target => target ∉ path :: asked).length ≤ file.targets.length :=
          List.length_filter_le _ _
        refine ⟨trivial, ?_, ?_⟩
        · simp only [crawlPlan, onward, Reading.targets, List.map_cons, List.sum_cons, List.length_cons,
            List.length_append]
          omega
        · simp [crawlPlan, onward, Library.ofReadings, Except.toOption]

end Supplier

/-- A file that the search for cycles is in the middle of. -/
structure Visit where
  /-- The path of the file. -/
  path : Path
  /-- The includes that have not been followed. -/
  unread : List Path

/-- Where the search for cycles stands. -/
structure Searching where
  /-- The files that are still to be started from. -/
  starts : List Path
  /-- The files that were cleared from earlier starts. -/
  checked : List Path
  /-- The files that were cleared from the present start. -/
  finished : List Path
  /-- The files on the way from the present start to where the search is. -/
  onPath : List Path
  /-- The same files with what is left of them, the innermost first. -/
  stack : List Visit

namespace Searching

/-- What is left of the files that the search is in the middle of, and of the starts: an include or a start
counts once, and so does the end of a file. -/
def left (c : Searching) : Nat :=
  c.starts.length + (c.stack.map fun visit => visit.unread.length + 1).sum

/-- The files that the search has entered and need not enter again. -/
def seen (c : Searching) : List Path := c.onPath ++ (c.finished ++ c.checked)

end Searching

namespace Library

/-- The search before its first round. -/
def searching (lib : Library) : Searching := ⟨sortByKey Path.text lib.paths, [], [], [], []⟩

/-- A round of the search for cycles. -/
def searchRound (lib : Library) (c : Searching) : Round Searching (Option (List Path)) :=
  match c.stack with
  | visit :: below =>
    match visit.unread with
    | target :: unread =>
      match lib.find? target with
      | none => .again { c with stack := ⟨visit.path, unread⟩ :: below }
      | some file =>
        if target ∈ c.onPath then .done (some ((c.stack.map Visit.path).reverse ++ [target]))
        else if target ∈ c.checked ∨ target ∈ c.finished then
          .again { c with stack := ⟨visit.path, unread⟩ :: below }
        else .again
          { c with
            onPath := target :: c.onPath
            stack := ⟨target, file.targets⟩ :: ⟨visit.path, unread⟩ :: below }
    | [] => .again
        { c with
          finished := visit.path :: c.finished
          onPath := c.onPath.erase visit.path
          stack := below }
  | [] =>
    match c.starts with
    | [] => .done none
    | start :: starts =>
      match lib.find? start with
      | none => .again ⟨starts, c.finished ++ c.checked, [], [], []⟩
      | some file =>
        if start ∈ c.finished ++ c.checked then .again ⟨starts, c.finished ++ c.checked, [], [], []⟩
        else .again ⟨starts, c.finished ++ c.checked, [], [start], [⟨start, file.targets⟩]⟩

/-- What the recursion makes of the files that the search is in the middle of, the innermost first, and of the
starts after them. -/
def searchThrough (lib : Library) (starts clear : List Path) : List Visit → Except (List Path) (List Path)
  | [] => lib.searchFrom [] clear starts
  | visit :: below =>
    (lib.searchFrom (visit.path :: below.map Visit.path) clear visit.unread).bind fun clear =>
      lib.searchThrough starts (visit.path :: clear) below

/-- The cycle that a search has found. -/
def cycleOf : Except (List Path) (List Path) → Option (List Path)
  | .error cycle => some cycle
  | .ok _ => none

/-- The search comes to what the recursion makes of what is left. Each round goes past an include, the end of
a file or a start; a file that is entered brings its includes and its end with it, and is entered once. -/
def searchPlan (lib : Library) : Plan Searching (Option (List Path)) where
  sound c := c.onPath = c.stack.map Visit.path
  cost c := c.left + weightUnseen (fun file => file.targets.length + 1) lib.files c.seen
  outcome c := cycleOf (lib.searchThrough c.starts (c.finished ++ c.checked) c.stack)

section Steps

variable {lib : Library} {starts clear unread : List Path} {start path target : Path} {below : List Visit}
variable {file : SourceFile}

/-- Once all its includes have been followed, a file is clear. -/
theorem searchThrough_of_ended :
    lib.searchThrough starts clear (⟨path, []⟩ :: below) = lib.searchThrough starts (path :: clear) below := by
  rw [searchThrough, searchFrom]
  rfl

/-- An include of a file that did not load is passed over. -/
theorem searchThrough_of_absent (absent : lib.find? target = none) :
    lib.searchThrough starts clear (⟨path, target :: unread⟩ :: below) =
      lib.searchThrough starts clear (⟨path, unread⟩ :: below) := by
  rw [searchThrough, searchFrom_cons, absent]
  rfl

/-- An include of a file on the way closes a cycle. -/
theorem searchThrough_of_met (found : lib.find? target = some file)
    (met : target ∈ path :: below.map Visit.path) :
    lib.searchThrough starts clear (⟨path, target :: unread⟩ :: below) =
      .error ((path :: below.map Visit.path).reverse ++ [target]) := by
  rw [searchThrough, searchFrom_cons, found]
  simp only [if_pos met, List.reverse_cons, List.append_assoc]
  rfl

/-- An include of a file that is clear is passed over. -/
theorem searchThrough_of_clear (found : lib.find? target = some file)
    (fresh : target ∉ path :: below.map Visit.path) (old : target ∈ clear) :
    lib.searchThrough starts clear (⟨path, target :: unread⟩ :: below) =
      lib.searchThrough starts clear (⟨path, unread⟩ :: below) := by
  rw [searchThrough, searchFrom_cons, found]
  simp only [if_neg fresh, if_pos old]
  rfl

/-- Any other include leads into a file, and the one that includes it waits. -/
theorem searchThrough_of_fresh (found : lib.find? target = some file)
    (fresh : target ∉ path :: below.map Visit.path) (new : target ∉ clear) :
    lib.searchThrough starts clear (⟨path, target :: unread⟩ :: below) =
      lib.searchThrough starts clear (⟨target, file.targets⟩ :: ⟨path, unread⟩ :: below) := by
  rw [searchThrough, searchFrom_cons, found]
  simp only [if_neg fresh, if_neg new, searchThrough, List.map_cons]
  cases lib.searchFrom (target :: path :: below.map Visit.path) clear file.targets <;> rfl

/-- A start that did not load, or is clear, is passed over. -/
theorem searchThrough_of_old_start (passed : lib.find? start = none ∨ start ∈ clear) :
    lib.searchThrough (start :: starts) clear [] = lib.searchThrough starts clear [] := by
  rw [searchThrough, searchFrom_cons]
  cases found : lib.find? start with
  | none => rfl
  | some file =>
    have old : start ∈ clear := passed.resolve_left (by simp [found])
    simp only [List.not_mem_nil, if_false, if_pos old]
    rfl

/-- Any other start is entered. -/
theorem searchThrough_of_new_start (found : lib.find? start = some file) (new : start ∉ clear) :
    lib.searchThrough (start :: starts) clear [] =
      lib.searchThrough starts clear [⟨start, file.targets⟩] := by
  rw [searchThrough, searchFrom_cons, found]
  simp only [List.not_mem_nil, if_false, if_neg new]
  rfl

end Steps

section Rounds

variable {lib : Library} {c next : Searching} {target : Path} {file : SourceFile}

/-- A round that enters no file goes by the plan if it leaves less to do and forgets no file. -/
theorem searchPlan_allows_of_left_lt (sound : lib.searchPlan.sound next) (fewer : next.left < c.left)
    (kept : c.seen ⊆ next.seen) (same : lib.searchPlan.outcome next = lib.searchPlan.outcome c) :
    lib.searchPlan.Allows c (.again next) := by
  refine ⟨sound, ?_, same⟩
  have unseen := @weightUnseen_le_of_subset (fun file => file.targets.length + 1) lib.files _ _ kept
  simp only [searchPlan]
  omega

/-- A round that enters a file goes by the plan if it does so for the first time and brings nothing else. -/
theorem searchPlan_allows_of_entered (sound : lib.searchPlan.sound next) (found : lib.find? target = some file)
    (fresh : target ∉ c.seen) (entered : next.seen = target :: c.seen)
    (brought : next.left ≤ c.left + file.targets.length)
    (same : lib.searchPlan.outcome next = lib.searchPlan.outcome c) :
    lib.searchPlan.Allows c (.again next) := by
  refine ⟨sound, ?_, same⟩
  have unseen := weightUnseen_cons_add_le (fun file => file.targets.length + 1) found fresh
  simp only [searchPlan, entered]
  omega

end Rounds

/-- A round that turns to the next start goes by the plan. -/
theorem searchPlan_allows_start (lib : Library) (starts checked finished : List Path) :
    lib.searchPlan.Allows ⟨starts, checked, finished, [], []⟩
      (lib.searchRound ⟨starts, checked, finished, [], []⟩) := by
  cases starts with
  | nil => simp [searchRound, searchPlan, Plan.Allows, searchThrough, searchFrom, cycleOf]
  | cons start starts =>
    have kept := List.Subset.refl (finished ++ checked)
    have fewer : (⟨starts, finished ++ checked, [], [], []⟩ : Searching).left <
        (⟨start :: starts, checked, finished, [], []⟩ : Searching).left := by
      simp only [Searching.left, List.length_cons]
      omega
    rw [searchRound]
    dsimp only
    cases found : lib.find? start with
    | none =>
      exact searchPlan_allows_of_left_lt rfl fewer kept
        (congrArg cycleOf (searchThrough_of_old_start (.inl found)).symm)
    | some file =>
      dsimp only
      by_cases old : start ∈ finished ++ checked
      case pos =>
        rw [if_pos old]
        exact searchPlan_allows_of_left_lt rfl fewer kept
          (congrArg cycleOf (searchThrough_of_old_start (.inr old)).symm)
      case neg =>
        rw [if_neg old]
        refine searchPlan_allows_of_entered rfl found old rfl ?_
          (congrArg cycleOf (searchThrough_of_new_start found old).symm)
        simp only [Searching.left, List.length_cons, List.map_nil, List.map_cons, List.sum_nil, List.sum_cons]
        omega

/-- A round that leaves a file goes by the plan. -/
theorem searchPlan_allows_ended (lib : Library) (starts checked finished : List Path) (path : Path)
    (below : List Visit) :
    let c : Searching := ⟨starts, checked, finished, path :: below.map Visit.path, ⟨path, []⟩ :: below⟩
    lib.searchPlan.Allows c (lib.searchRound c) := by
  intro c
  have way : (path :: below.map Visit.path).erase path = below.map Visit.path := List.erase_cons_head _ _
  rw [searchRound]
  dsimp only [c]
  rw [way]
  refine searchPlan_allows_of_left_lt rfl ?_ ?_ (congrArg cycleOf searchThrough_of_ended.symm)
  · simp only [Searching.left, List.map_cons, List.sum_cons, List.length_nil]
    omega
  · -- A file that is left goes from the way to those that are clear, so what has been seen stays.
    intro p
    simp only [Searching.seen, List.mem_append, List.mem_cons]
    tauto

/-- A round that follows an include goes by the plan. -/
theorem searchPlan_allows_followed (lib : Library) (starts checked finished : List Path) (path target : Path)
    (unread : List Path) (below : List Visit) :
    let c : Searching :=
      ⟨starts, checked, finished, path :: below.map Visit.path, ⟨path, target :: unread⟩ :: below⟩
    lib.searchPlan.Allows c (lib.searchRound c) := by
  intro c
  have kept := List.Subset.refl c.seen
  have fewer : Searching.left { c with stack := ⟨path, unread⟩ :: below } < c.left := by
    simp only [c, Searching.left, List.map_cons, List.sum_cons, List.length_cons]
    omega
  rw [searchRound]
  dsimp only [c]
  cases found : lib.find? target with
  | none =>
    exact searchPlan_allows_of_left_lt rfl fewer kept (congrArg cycleOf (searchThrough_of_absent found).symm)
  | some file =>
    dsimp only
    by_cases met : target ∈ path :: below.map Visit.path
    case pos =>
      rw [if_pos met]
      exact congrArg cycleOf (searchThrough_of_met found met).symm
    case neg =>
      rw [if_neg met]
      by_cases old : target ∈ finished ++ checked
      case pos =>
        rw [if_pos (List.mem_append.1 old).symm]
        exact searchPlan_allows_of_left_lt rfl fewer kept
          (congrArg cycleOf (searchThrough_of_clear found met old).symm)
      case neg =>
        rw [if_neg fun listed => old (List.mem_append.2 listed.symm)]
        have fresh : target ∉ c.seen := fun listed => (List.mem_append.1 listed).elim met old
        refine searchPlan_allows_of_entered rfl found fresh rfl ?_
          (congrArg cycleOf (searchThrough_of_fresh found met old).symm)
        simp only [Searching.left, List.map_cons, List.sum_cons, List.length_cons]
        omega

/-- Every round of the search goes by its plan. -/
theorem searchPlan_allows (lib : Library) (c : Searching) (sound : lib.searchPlan.sound c) :
    lib.searchPlan.Allows c (lib.searchRound c) := by
  obtain ⟨starts, checked, finished, onPath, stack⟩ := c
  obtain rfl : onPath = stack.map Visit.path := sound
  cases stack with
  | nil => exact lib.searchPlan_allows_start starts checked finished
  | cons visit below =>
    obtain ⟨path, unread⟩ := visit
    cases unread with
    | nil => exact lib.searchPlan_allows_ended starts checked finished path below
    | cons target unread => exact lib.searchPlan_allows_followed starts checked finished path target unread below

end Library

end ShaderBundle
