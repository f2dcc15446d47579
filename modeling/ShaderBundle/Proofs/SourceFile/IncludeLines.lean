import ShaderBundle.SourceFile
import ShaderBundle.Proofs.Path.Joining
import ShaderBundle.Proofs.Text.Blanks
/-!
# Include lines

A line includes a file exactly if, after trimming, it starts with the include word and something is left of
the rest, trimmed in its turn, when a quote is taken off each end that has one. Blanks and quotes therefore
make no difference where they stand around a target, and do where they stand inside it. What a line includes
is told by the line alone and by the folder that holds the file.
-/

namespace ShaderBundle

/-- A target that blanks and quotes can be put around: it is not empty, and neither of them stands at its
ends. -/
structure Text.IsTarget (t : Text) : Prop where
  /-- There is something to go to. -/
  filled : t ≠ []
  /-- No blank stands at an end. -/
  trimmed : IsTrimmed t
  /-- No quote stands at the start. -/
  unopened : t.head? ≠ some '"'
  /-- No quote stands at the end. -/
  unclosed : t.getLast? ≠ some '"'

/-- What may stand on a side of a target: one quote, or nothing. -/
def Text.MayQuote (t : Text) : Prop := t = [] ∨ t = ['"']

namespace SourceLine

variable {t target : Text}

/-- What is left of a text when a quote is taken off its start, if one is there, and then off its end. -/
def IsUnquoted (t target : Text) : Prop :=
  ∃ middle, (t = '"' :: middle ∨ t = middle ∧ t.head? ≠ some '"') ∧
    (middle = target ++ ['"'] ∨ middle = target ∧ middle.getLast? ≠ some '"')

/-- A line that asks for a target: behind the include word it is the target, up to blanks and quotes. -/
def AsksFor (t target : Text) : Prop :=
  ∃ rest, t.trim = includeWord ++ rest ∧ IsUnquoted rest.trim target

/-- The text without its quotes is what is left of it. -/
theorem unquote_eq_iff : unquote t = target ↔ IsUnquoted t target := by
  rw [IsUnquoted, unquote]
  constructor
  · intro same
    exact ⟨_, Text.getD_isPrefixOf?_eq_iff.1 rfl, Text.getD_isSuffixOf?_eq_iff.1 same⟩
  · rintro ⟨middle, starts, ends⟩
    obtain rfl := Text.getD_isPrefixOf?_eq_iff.2 starts
    exact Text.getD_isSuffixOf?_eq_iff.2 ends

/-- Nothing is left only of nothing, of a quote and of two. -/
theorem isUnquoted_nil_iff : IsUnquoted t [] ↔ t = [] ∨ t = ['"'] ∨ t = ['"', '"'] := by
  constructor
  · rintro ⟨middle, starts, ends⟩
    rcases ends with rfl | ⟨rfl, _⟩
    · rcases starts with quotes | ⟨rfl, unopened⟩
      · exact .inr (.inr quotes)
      · exact absurd rfl unopened
    · rcases starts with quote | ⟨none, _⟩
      · exact .inr (.inl quote)
      · exact .inl none
  · intro quotes
    rw [← unquote_eq_iff]
    rcases quotes with rfl | rfl | rfl <;> rfl

/-- What a line asks for is what is read from it. -/
theorem written?_eq_some_iff : written? t = some target ↔ AsksFor t target := by
  rw [written?, Option.map_eq_some_iff, AsksFor]
  refine exists_congr fun rest => ?_
  rw [List.isPrefixOf?_eq_some_iff_append_eq, eq_comm, unquote_eq_iff]

/-- A line asks for one target. -/
theorem AsksFor.unique {other : Text} (asks : AsksFor t target) (asks' : AsksFor t other) : target = other :=
  Option.some.inj ((written?_eq_some_iff.2 asks).symm.trans (written?_eq_some_iff.2 asks'))

/-- A line includes what it asks for, joined to the folder of its file, unless that is nothing. -/
theorem target?_ofText_eq_some_iff {folder p : Path} :
    (ofText folder t).target? = some p ↔
      ∃ target, AsksFor t target ∧ target ≠ [] ∧ folder.join target = .ok p := by
  have joined (target : Text) :
      (folder.join target).toOption = some p ↔ target ≠ [] ∧ folder.join target = .ok p := by
    cases target with
    | nil => simp [Path.join, Except.toOption]
    | cons c target =>
      rw [folder.join_of_ne_nil (List.cons_ne_nil c target)]
      simp [Except.toOption]
  rw [ofText, Option.bind_eq_some_iff]
  refine exists_congr fun target => ?_
  rw [written?_eq_some_iff, joined]

section Written

variable {opened closed : Text}

/-- Quotes put around a target are no blanks. -/
theorem isTrimmed_quoted (isTarget : target.IsTarget) (mayOpen : opened.MayQuote)
    (mayClose : closed.MayQuote) : Text.IsTrimmed (opened ++ target ++ closed) := by
  have quote {c : Char} (same : some '"' = some c) : Text.isBlank c = false := by
    obtain rfl := Option.some.inj same
    decide
  constructor
  case first =>
    intro c at_start
    rcases mayOpen with rfl | rfl
    · rw [List.nil_append, List.head?_append_of_ne_nil _ isTarget.filled] at at_start
      exact isTarget.trimmed.first c at_start
    · exact quote at_start
  case last =>
    intro c at_end
    rcases mayClose with rfl | rfl
    · rw [List.append_nil, List.getLast?_append_of_ne_nil _ isTarget.filled] at at_end
      exact isTarget.trimmed.last c at_end
    · rw [List.getLast?_concat] at at_end
      exact quote at_end

/-- Quotes put around a target are taken off, on either side for itself. -/
theorem isUnquoted_quoted (isTarget : target.IsTarget) (mayOpen : opened.MayQuote)
    (mayClose : closed.MayQuote) : IsUnquoted (opened ++ target ++ closed) target := by
  refine ⟨target ++ closed, ?_, ?_⟩
  · rcases mayOpen with rfl | rfl
    · right
      rw [List.nil_append, List.head?_append_of_ne_nil _ isTarget.filled]
      exact ⟨rfl, isTarget.unopened⟩
    · exact .inl rfl
  · rcases mayClose with rfl | rfl
    · right
      rw [List.append_nil]
      exact ⟨rfl, isTarget.unclosed⟩
    · exact .inl rfl

/-- A line asks for a target that is written behind the include word, with or without a quote on either side
and with any blanks around both. -/
theorem asksFor_written {b₁ b₂ b₃ : Text} (isTarget : target.IsTarget) (mayOpen : opened.MayQuote)
    (mayClose : closed.MayQuote) (blank₁ : b₁.AllBlank) (blank₂ : b₂.AllBlank) (blank₃ : b₃.AllBlank) :
    AsksFor (b₁ ++ includeWord ++ b₂ ++ (opened ++ target ++ closed) ++ b₃) target := by
  have trimmed := isTrimmed_quoted isTarget mayOpen mayClose
  have filled : opened ++ target ++ closed ≠ [] := by simp [isTarget.filled]
  have word : Text.IsTrimmed includeWord := by
    apply Text.IsSolid.isTrimmed
    decide
  have whole : Text.IsTrimmed (includeWord ++ b₂ ++ (opened ++ target ++ closed)) :=
    word.append b₂ trimmed (List.cons_ne_nil _ _) filled
  refine ⟨b₂ ++ (opened ++ target ++ closed), ?_, ?_⟩
  · rw [List.append_assoc b₁, List.append_assoc b₁, Text.trim_append blank₁ blank₃ whole, List.append_assoc]
  · rw [← List.append_nil (b₂ ++ _), Text.trim_append blank₂ (List.forall_mem_nil _) trimmed]
    exact isUnquoted_quoted isTarget mayOpen mayClose

end Written

end SourceLine

namespace SourceFile

variable {path folder : Path} {ls : List Text} {f : SourceFile}

/-- The text of a line, counted from zero. -/
def textAt? (f : SourceFile) (index : Nat) : Option Text := f.lines[index]?.map SourceLine.text

/-- The given lines are those of the file, which lies at the path and includes what its lines ask for, from
the folder. -/
structure IsReadFrom (f : SourceFile) (path folder : Path) (ls : List Text) : Prop where
  /-- It lies at the path. -/
  path_eq : f.path = path
  /-- Its lines are the given ones as they stand if the first does not start with a byte order mark. -/
  unmarked : (∀ first ∈ ls.head?, first.head? ≠ some '\ufeff') → f.lines.map SourceLine.text = ls
  /-- One byte order mark is taken off the start of the first line, and nothing else. -/
  marked : ∀ first rest, ls = ('\ufeff' :: first) :: rest → f.lines.map SourceLine.text = first :: rest
  /-- What a line includes depends on its text alone: the same text includes the same wherever it stands, in
  this file and in any other of the folder. -/
  linewise : ∀ path' ls' f', path'.parent? = some folder → ofLines? path' ls' = some f' →
    ∀ i j, f.textAt? i = f'.textAt? j → f.includeAt? i = f'.includeAt? j
  /-- A target that is written behind the include word is included. Any blanks may stand around the word and
  around the target, and a quote may stand on either side of the target. -/
  written : ∀ i b₁ b₂ b₃ opened target closed, Text.IsTarget target →
    Text.MayQuote opened → Text.MayQuote closed → Text.AllBlank b₁ → Text.AllBlank b₂ → Text.AllBlank b₃ →
    f.textAt? i = some (b₁ ++ SourceLine.includeWord ++ b₂ ++ (opened ++ target ++ closed) ++ b₃) →
      ∃ p, folder.join target = .ok p ∧ f.includeAt? i = some p
  /-- A line includes something exactly if a target stands behind the word, up to blanks and quotes. -/
  asked : ∀ i p, f.includeAt? i = some p ↔ ∃ line target, f.textAt? i = some line ∧
    SourceLine.AsksFor line target ∧ target ≠ [] ∧ folder.join target = .ok p
  /-- Without a target nothing is included: not where nothing stands behind the include word, nor where one
  quote or two stand there. -/
  empty : ∀ i line rest, f.textAt? i = some line → Text.trim line = SourceLine.includeWord ++ rest →
    Text.trim rest = [] ∨ Text.trim rest = ['"'] ∨ Text.trim rest = ['"', '"'] → f.includeAt? i = none

/-- What a line includes is read from its text, in the folder that holds the file. -/
theorem includeAt?_eq_bind_textAt? (held : path.parent? = some folder) (read : ofLines? path ls = some f)
    (i : Nat) : f.includeAt? i = (f.textAt? i).bind fun t => (SourceLine.ofText folder t).target? := by
  rw [ofLines?, held] at read
  obtain rfl := Option.some.inj read
  rw [includeAt?, textAt?, List.getElem?_map, Option.map_map, Option.bind_map, Option.bind_map]
  rfl

/-- A line includes what it asks for, joined to the folder, unless that is nothing. -/
theorem includeAt?_eq_some_iff (held : path.parent? = some folder) (read : ofLines? path ls = some f)
    {i : Nat} {p : Path} :
    f.includeAt? i = some p ↔ ∃ line target, f.textAt? i = some line ∧
      SourceLine.AsksFor line target ∧ target ≠ [] ∧ folder.join target = .ok p := by
  rw [includeAt?_eq_bind_textAt? held read, Option.bind_eq_some_iff]
  refine exists_congr fun line => ?_
  rw [SourceLine.target?_ofText_eq_some_iff, exists_and_left]

/-- The lines are kept, up to a byte order mark. -/
theorem map_text_lines (read : ofLines? path ls = some f) : f.lines.map SourceLine.text = dropMark ls := by
  obtain ⟨folder, _, rfl⟩ := Option.map_eq_some_iff.1 read
  rw [List.map_map]
  exact List.map_id _

/-- Without a byte order mark at the start nothing is dropped. -/
theorem dropMark_eq_self (plain : ∀ first ∈ ls.head?, first.head? ≠ some '\ufeff') : dropMark ls = ls := by
  rw [dropMark.eq_def]
  split
  · exact absurd rfl (plain _ rfl)
  · rfl

/-- Lines that are given for a path other than the root are a file, which keeps them and includes what they
ask for, each from the folder that holds the path. -/
theorem exists_isReadFrom (inside : path ≠ Path.root) (ls : List Text) :
    ∃ folder name f, path = folder.child name ∧ path.parent? = some folder ∧ ofLines? path ls = some f ∧
      f.IsReadFrom path folder ls := by
  obtain ⟨folder, name, rfl⟩ := path.eq_root_or_child.resolve_left inside
  have held : (folder.child name).parent? = some folder := Path.parent?_child folder name
  have read : ofLines? (folder.child name) ls =
      some ⟨folder.child name, (dropMark ls).map (SourceLine.ofText folder)⟩ := by
    rw [ofLines?, held]
    rfl
  have texts := map_text_lines read
  refine ⟨folder, name, _, rfl, held, read, ?_⟩
  constructor
  case path_eq => rfl
  case unmarked =>
    intro plain
    rw [texts, dropMark_eq_self plain]
  case marked =>
    rintro first rest rfl
    exact texts
  case linewise =>
    intro path' ls' f' held' read' i j same
    rw [includeAt?_eq_bind_textAt? held read, includeAt?_eq_bind_textAt? held' read', same]
  case written =>
    intro i b₁ b₂ b₃ opened target closed isTarget mayOpen mayClose blank₁ blank₂ blank₃ here
    have asks := SourceLine.asksFor_written isTarget mayOpen mayClose blank₁ blank₂ blank₃
    have joined := folder.join_of_ne_nil isTarget.filled
    exact ⟨_, joined, (includeAt?_eq_some_iff held read).2 ⟨_, target, here, asks, isTarget.filled, joined⟩⟩
  case asked => exact fun i p => includeAt?_eq_some_iff held read
  case empty =>
    intro i line rest here begins nothing
    have asks : SourceLine.AsksFor line [] := ⟨rest, begins, SourceLine.isUnquoted_nil_iff.2 nothing⟩
    rw [Option.eq_none_iff_forall_ne_some]
    intro p included
    obtain ⟨line', target, here', asks', filled, _⟩ := (includeAt?_eq_some_iff held read).1 included
    obtain rfl : line = line' := Option.some.inj (here.symm.trans here')
    exact filled (asks'.unique asks)

/-- In a folder with a dot in its name, a quote on one side is taken off, an empty target is none, and a byte
order mark is taken off the first line alone. -/
theorem exists_isReadFrom_dotted :
    let path := Path.root.follow "shaders.v2/main.fsh".toList
    let ls := ["\ufeff #include \"a b.glsl".toList, "#include../c.glsl\"\t".toList, "#include \"\"".toList,
      "\ufeff#include /d.glsl".toList]
    path ≠ Path.root ∧
    (∃ folder name f, path = folder.child name ∧ path.parent? = some folder ∧ ofLines? path ls = some f ∧
      f.IsReadFrom path folder ls) ∧
    (ofLines? path ls).map (fun f => (List.range 4).map fun i => (f.includeAt? i).map Path.text) =
      some [some "/shaders.v2/a b.glsl".toList, some "/c.glsl".toList, none, none] := by
  intro path ls
  have inside : path ≠ Path.root := by decide +kernel
  exact ⟨inside, exists_isReadFrom inside ls, by decide +kernel⟩

end SourceFile

end ShaderBundle
