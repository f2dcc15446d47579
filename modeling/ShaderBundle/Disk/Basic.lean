import ShaderBundle.Path
/-!
# Disks

The place where a bundle lies: a tree of folders and files, with the rules by which the system answers
for a path. A path goes down from the bundle's folder segment by segment, and the first segment that
leads nowhere decides which fault is reported.
-/

namespace ShaderBundle

/-- A file with its bytes, or a folder with what it holds by name. -/
inductive Entry where
  | file (bytes : ByteArray)
  | folder (content : List (Segment × Entry))

/-- Why there is no text at a place. -/
inductive DiskFault where
  /-- There is nothing. -/
  | missing
  /-- A file stands where a folder is needed. -/
  | notFolder
  /-- There is a folder. -/
  | isFolder
  /-- A segment, or the whole place, is longer than the system allows. -/
  | nameTooLong
  /-- The place cannot be handed to the system, which ends a name at the character NUL. -/
  | nulCharacter
  /-- There is a file that is not UTF-8. -/
  | notUtf8
deriving DecidableEq

/-- What a message says of the fault. -/
def DiskFault.message : DiskFault → String
  | .missing => "No such file or directory (os error 2)"
  | .notFolder => "Not a directory (os error 20)"
  | .isFolder => "Is a directory (os error 21)"
  | .nameTooLong => "File name too long (os error 36)"
  | .nulCharacter => "file name contained an unexpected NUL byte"
  | .notUtf8 => "stream did not contain valid UTF-8"

namespace Entry

/-- Whether the entry is a folder. -/
def isFolder : Entry → Bool
  | .folder _ => true
  | .file _ => false

/-- The names in a folder, in byte order, each once. -/
def names : Entry → List Segment
  | .file _ => []
  | .folder content => sortByKey Segment.text (content.map Prod.fst)

/-- The longest segment that the system allows, in bytes. -/
def longestSegment : Nat := 255

/-- Goes down from an entry. -/
def walk : Entry → List Segment → Except DiskFault Entry
  | e, [] => .ok e
  | .file _, _ :: _ => .error .notFolder
  | .folder content, name :: rest =>
    if longestSegment < name.text.byteCount then .error .nameTooLong
    else match content.lookup name with
      | none => .error .missing
      | some e => walk e rest

/-- The folder with an entry put in under a name. -/
def put (name : Segment) (e : Entry) (content : List (Segment × Entry)) : Entry :=
  .folder ((name, e) :: content.filter fun (other, _) => other ≠ name)

/-- The tree with a file written at a place, and folders made on the way to it. A file in the way stays. -/
def write (bytes : ByteArray) : List Segment → Entry → Entry
  | [], _ => .file bytes
  | _ :: _, .file old => .file old
  | name :: rest, .folder content =>
    put name (write bytes rest ((content.lookup name).getD (.folder []))) content

/-- The tree with a folder made at a place, and folders on the way to it. A file in the way stays. -/
def makeFolder : List Segment → Entry → Entry
  | [], e => e
  | _ :: _, .file old => .file old
  | name :: rest, .folder content =>
    put name (makeFolder rest ((content.lookup name).getD (.folder []))) content

/-- The tree without what is at a place. -/
def remove : List Segment → Entry → Entry
  | _, .file old => .file old
  | [], e => e
  | [name], .folder content => .folder (content.filter fun (other, _) => other ≠ name)
  | name :: rest, .folder content =>
    match content.lookup name with
    | none => .folder content
    | some e => put name (remove rest e) content

end Entry

/-- A disk with the folder of one bundle. -/
structure Disk where
  /-- The place of the bundle's folder, as it is written. -/
  place : Text
  /-- The bundle's folder. -/
  top : Entry

namespace Disk

/-- A disk where the bundle's folder is empty. -/
def empty (place : Text) : Disk := ⟨place, .folder []⟩

/-- The longest place that the system allows, in bytes. -/
def longestPlace : Nat := 4095

/-- What is at a path, or why nothing is. -/
def entryAt (d : Disk) (p : Path) : Except DiskFault Entry :=
  let place := p.below d.place
  if '\x00' ∈ place then .error .nulCharacter
  else if longestPlace < place.byteCount then .error .nameTooLong
  else d.top.walk p.segments

/-- Whether there is a folder at a path. -/
def isFolder (d : Disk) (p : Path) : Bool :=
  match d.entryAt p with
  | .ok e => e.isFolder
  | .error _ => false

/-- Whether there is a file at a path. -/
def isFile (d : Disk) (p : Path) : Bool :=
  match d.entryAt p with
  | .ok e => !e.isFolder
  | .error _ => false

/-- What lies right inside the folder at a path, in the order of the names. -/
def inside (d : Disk) (folder : Path) : List Path :=
  match d.entryAt folder with
  | .ok e => e.names.map folder.child
  | .error _ => []

/-- The lines of the file at a path, or why there are none. -/
def readLines (d : Disk) (p : Path) : Except DiskFault (List Text) :=
  match d.entryAt p with
  | .error cause => .error cause
  | .ok (.folder _) => .error .isFolder
  | .ok (.file bytes) =>
    match String.fromUTF8? bytes with
    | none => .error .notUtf8
    | some text => .ok (Text.lines text.toList)

end Disk

end ShaderBundle
