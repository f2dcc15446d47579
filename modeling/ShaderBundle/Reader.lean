import ShaderBundle.SourceFile
import ShaderBundle.Fault
/-!
# Suppliers and readers

A supplier answers for every path with the lines of the file there, or with the reason why there are
none, and what it answers may depend on what it was asked before. A reader is a supplier whose answer
depends on the path alone. Both know finitely many paths at which they can succeed.
-/

namespace ShaderBundle

/-- A source of files that may remember what it was asked for. -/
structure Supplier where
  /-- The lines of the file at a path, or why they cannot be had, when the listed paths were asked for
  before, the latest first. -/
  answer : List Path → Path → Except String (List Text)
  /-- The paths at which an answer can have lines. -/
  known : List Path
  /-- No other answer has lines. -/
  mem_known : ∀ asked path ls, answer asked path = .ok ls → path ∈ known

/-- The file at a path that was answered for, with its include lines read. -/
def SourceFile.ofAnswer (path : Path) : Except String (List Text) → Except String SourceFile
  | .error reason => .error reason
  | .ok ls =>
    match ofLines? path ls with
    | none => .error (Fault.noParent path).message
    | some file => .ok file

/-- A file comes from an answer that has lines. -/
theorem SourceFile.ofAnswer_eq_ok_iff {path : Path} {answer : Except String (List Text)}
    {file : SourceFile} :
    ofAnswer path answer = .ok file ↔ ∃ ls, answer = .ok ls ∧ ofLines? path ls = some file := by
  cases answer with
  | error reason => simp [ofAnswer]
  | ok ls =>
    cases read : ofLines? path ls with
    | none => simp [ofAnswer, read]
    | some made => simp [ofAnswer, read]

namespace Supplier

/-- Asks for a file and reads its include lines. -/
def load (s : Supplier) (asked : List Path) (path : Path) : Except String SourceFile :=
  SourceFile.ofAnswer path (s.answer asked path)

/-- A path that loads is known. -/
theorem mem_known_of_load {s : Supplier} {asked : List Path} {path : Path} {file : SourceFile}
    (loaded : s.load asked path = .ok file) : path ∈ s.known := by
  obtain ⟨ls, answered, _⟩ := SourceFile.ofAnswer_eq_ok_iff.1 loaded
  exact s.mem_known asked path ls answered

end Supplier

/-- A source of files that answers by the path alone. -/
structure Reader where
  /-- The lines of the file at a path, or why they cannot be had. -/
  read : Path → Except String (List Text)
  /-- The paths at which reading can succeed. -/
  known : List Path
  /-- Reading succeeds nowhere else. -/
  mem_known : ∀ path ls, read path = .ok ls → path ∈ known

namespace Reader

/-- A reader of files held in memory; `absent` is the reason given where there is none. -/
def ofTable (table : List (Path × Except String (List Text))) (absent : Path → String) : Reader where
  read path := (table.lookup path).getD (.error (absent path))
  known := table.map Prod.fst
  mem_known := by
    intro path ls found
    induction table with
    | nil => simp at found
    | cons entry rest ih =>
      rw [List.lookup_cons] at found
      by_cases same : path = entry.1
      · simp [same]
      · have differs : (path == entry.1) = false := by simpa using same
        rw [differs] at found
        exact List.mem_cons_of_mem _ (ih found)

/-- The reader as a supplier that remembers nothing. -/
def supplier (r : Reader) : Supplier where
  answer _ := r.read
  known := r.known
  mem_known _ := r.mem_known

instance : Coe Reader Supplier := ⟨supplier⟩

/-- Reads a file and its include lines. -/
def load (r : Reader) (path : Path) : Except String SourceFile :=
  SourceFile.ofAnswer path (r.read path)

end Reader

end ShaderBundle
