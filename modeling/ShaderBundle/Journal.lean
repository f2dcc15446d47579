import ShaderBundle.Fault
import ShaderBundle.Library.Basic
import ShaderBundle.RenderState.Comment
import ShaderBundle.Stage
/-!
# The journal

What this library has to report of its work is data: a record for each event, in the order of the work.
A record has a level and a wording. Work that reports returns its records beside its value, so that no
value depends on who reads them.
-/

namespace ShaderBundle

/-- How much a record matters, the most first. -/
inductive Level where
  | error
  | warn
  | info
  | debug
deriving DecidableEq

namespace Level

/-- The place of a level in the order of importance, which starts at one. -/
def rank : Level → Nat
  | .error => 1
  | .warn => 2
  | .info => 3
  | .debug => 4

/-- The name of the level in front of a record. -/
def label : Level → String
  | .error => "ERROR"
  | .warn => "WARN"
  | .info => "INFO"
  | .debug => "DEBUG"

end Level

/-- The events that are reported. -/
inductive Record where
  /-- A file loaded. -/
  | loaded (path : Path) (lineCount includeCount : Nat)
  /-- A file did not load. -/
  | failed (path : Path) (reason : String)
  /-- A directive comment is malformed and has no effect. -/
  | malformed (comment : Comment)
  /-- A program has one of the two tessellation stages. -/
  | loneTessellation (name : Text) (given : String)
  /-- A folder has a program's two main stages, and one has no line. -/
  | emptyStage (name : Text) (folder : Path)
  /-- A folder has a program's two main stages, and one flattens to nothing. -/
  | invalidSource (name : Text) (folder : Path)
  /-- A folder has a program's two main stages, and one flattens to blank lines and markers. -/
  | blankSource (name : Text) (folder : Path)
  /-- A program was found. -/
  | found (name : Text) (folder : Path)
  /-- The programs of a dimension were looked up. -/
  | cataloged (dimension : Text) (programs passes : Nat)
  /-- The programs of a dimension are about to be looked up. -/
  | searching (dimension : Text) (folders : List Path)
  /-- The bundle at a place is about to be loaded from so many files. -/
  | loading (place : Text) (files : Nat)
  /-- More of a bundle's files failed to load than is tolerated. -/
  | intolerable (place : Text) (failures total : Nat)
  /-- The folder for shaders cannot be listed. -/
  | unlisted (place : Text) (reason : String)
  /-- The table of programs is at fault. -/
  | fault (cause : Fault)
deriving DecidableEq

namespace Record

/-- How much the event matters. -/
def level : Record → Level
  | .fault _ => .error
  | .failed .. | .malformed .. | .loneTessellation .. | .intolerable .. | .unlisted .. => .warn
  | .cataloged .. | .loading .. => .info
  | .loaded .. | .emptyStage .. | .invalidSource .. | .blankSource .. | .found .. | .searching .. => .debug

/-- The pieces of the wording of the record. -/
def wording : Record → List String
  | .loaded path lineCount includeCount =>
    ["loaded ", toString path, " (", toString lineCount, " lines, ", toString includeCount, " includes)"]
  | .failed path reason => ["failed to load ", toString path, ": ", reason]
  | .malformed comment =>
    ["ignoring malformed directive ", comment.key.word, ":", String.ofList comment.value]
  | .loneTessellation name given =>
    [String.ofList name, ": tessellation needs both hull and domain stages, only ", given, " given"]
  | .emptyStage name folder => [String.ofList name, ": empty stage file in ", toString folder, ", skipping"]
  | .invalidSource name folder => [String.ofList name, ": invalid source in ", toString folder, ", skipping"]
  | .blankSource name folder =>
    [String.ofList name, ": whitespace-only source in ", toString folder, ", skipping"]
  | .found name folder => [String.ofList name, ": found in ", toString folder]
  | .cataloged dimension programs passes =>
    ["dimension ", String.ofList dimension, ": ", toString programs, " programs, ", toString passes,
      " array programs"]
  | .searching dimension folders =>
    ["dimension ", String.ofList dimension, ": searching ", String.ofList (Path.showList folders)]
  | .loading place files =>
    ["loading shader pack ", String.ofList place.quoted, " (", toString files, " program files)"]
  | .intolerable place failures total =>
    [toString failures, " of ", toString total, " files in ", String.ofList place.quoted, " failed to load"]
  | .unlisted place reason => ["cannot list ", String.ofList place.quoted, ": ", reason]
  | .fault cause => [cause.message]

/-- The wording of the record. -/
def message (record : Record) : String := String.join record.wording

/-- What is reported of reading a path. -/
def ofReading (reading : Reading) : Record :=
  match reading.outcome with
  | .ok file => .loaded reading.path file.lines.length file.targets.length
  | .error reason => .failed reading.path reason

/-- Whether a reader of the given level, if any, gets to see the record. -/
def isFor (threshold? : Option Level) (record : Record) : Bool :=
  threshold?.any fun threshold => record.level.rank ≤ threshold.rank

end Record

/-- A value with what is reported of the work on it. -/
structure Journaled (α : Type) where
  /-- The value. -/
  value : α
  /-- The records, in order. -/
  records : List Record

namespace Journaled

instance : Monad Journaled where
  pure value := ⟨value, []⟩
  bind first next :=
    let second := next first.value
    ⟨second.value, first.records ++ second.records⟩

/-- Reports an event. -/
def report (record : Record) : Journaled Unit := ⟨(), [record]⟩

/-- Work that reports nothing has its value. -/
@[simp] theorem value_pure {α : Type} (value : α) : (pure value : Journaled α).value = value := rfl

/-- What is reported on the way does not change the value of the work that follows. -/
@[simp] theorem value_bind {α β : Type} (first : Journaled α) (next : α → Journaled β) :
    (first >>= next).value = (next first.value).value := rfl

end Journaled

end ShaderBundle
