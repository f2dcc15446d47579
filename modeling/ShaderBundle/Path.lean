import ShaderBundle.Text.Quoted
import ShaderBundle.Text.Order
/-!
# Paths inside a bundle

A path is the list of segments that leads from the bundle's root to a file or folder. Since a segment
is never empty, never a dot or two dots and never holds a slash, a place has one path, and a path
never leads out of the bundle: reading a text as a path takes the dots out, and two dots at the root
stay there.
-/

namespace ShaderBundle

/-- A text that can name a file or folder inside another folder. -/
def IsSegment (t : Text) : Prop :=
  t ≠ [] ∧ t ≠ ['.'] ∧ t ≠ ['.', '.'] ∧ '/' ∉ t

instance (t : Text) : Decidable (IsSegment t) :=
  inferInstanceAs (Decidable (_ ∧ _ ∧ _ ∧ _))

/-- One segment of a path. -/
structure Segment where
  /-- The segment as written. -/
  text : Text
  /-- The text can name a file or folder. -/
  isSegment : IsSegment text
deriving DecidableEq

/-- The segment with the given text, if it can be one. -/
def Segment.ofText? (t : Text) : Option Segment :=
  if h : IsSegment t then some ⟨t, h⟩ else none

/-- A path inside a bundle. -/
structure Path where
  /-- The segments from the root down. -/
  segments : List Segment
deriving DecidableEq

/-- Why a text is no path. -/
inductive PathFault where
  /-- A path from the root was wanted, and the text does not start with a slash. -/
  | notRooted (text : Text)
  /-- The text to go on with is empty. -/
  | empty
deriving DecidableEq

namespace Path

/-- The root of the bundle. -/
def root : Path := ⟨[]⟩

/-- The file or folder of the given name right inside the folder. -/
def child (folder : Path) (name : Segment) : Path := ⟨folder.segments ++ [name]⟩

/-- The last segment; the root has none. -/
def name? (p : Path) : Option Segment := p.segments.getLast?

/-- The folder that a path without its last segment leads to; the root stays where it is. -/
def up (p : Path) : Path := ⟨p.segments.dropLast⟩

/-- The folder that holds the path; the root has none. -/
def parent? (p : Path) : Option Path :=
  if p = root then none else some p.up

/-- The place of what a folder at the given place has by a name: a slash goes between the two, unless the
place ends with one or is that of the folder at hand, which is written as nothing. -/
def putBehind (place name : Text) : Text :=
  if place = [] ∨ place.getLast? = some '/' then place ++ name else place ++ '/' :: name

/-- Where the path leads on a disk that has the bundle's folder at the given place. -/
def below (top : Text) (p : Path) : Text :=
  p.segments.foldl (fun place name => putBehind place name.text) top

/-- The path as it is written: its segments, each after a slash. -/
def text (p : Path) : Text :=
  if p = root then ['/'] else p.segments.flatMap fun name => '/' :: name.text

instance : ToString Path := ⟨fun p => String.ofList p.text⟩

/-- Goes one part of a written path further; a part that names nothing leads nowhere. -/
def step (p : Path) (part : Text) : Path :=
  if part = ['.', '.'] then p.up
  else match Segment.ofText? part with
    | some name => p.child name
    | none => p

/-- Follows a written path, part by part. -/
def follow (p : Path) (t : Text) : Path :=
  (t.splitOn '/').foldl step p

/-- Reads a path from the root. -/
def parse (t : Text) : Except PathFault Path :=
  match t with
  | '/' :: rest => .ok (root.follow rest)
  | _ => .error (.notRooted t)

/-- Where a text leads from the given folder; after a leading slash it leads from the root. -/
def join (folder : Path) (t : Text) : Except PathFault Path :=
  match t with
  | [] => .error .empty
  | '/' :: _ => parse t
  | _ => .ok (folder.follow t)

/-- Whether the last segment looks like a file's: it has a dot, and the last one is not its first character. -/
def looksLikeFile (p : Path) : Bool :=
  p.name?.any fun name => (name.text.reverse.dropWhile (· ≠ '.')).length > 1

/-- Where a text leads from a path that is taken for a file or for a folder by its looks. From a file it
leads on from the folder that holds it; after a leading slash it leads from the root. -/
def resolve (p : Path) (t : Text) : Except PathFault Path :=
  match t with
  | '/' :: _ => parse t
  | _ => if p.looksLikeFile then (p.parent?.getD root).join t else p.join t

/-- The paths as a list in a message: each quoted, between square brackets. -/
def showList (ps : List Path) : Text :=
  '[' :: [',', ' '].intercalate (ps.map fun p => p.text.quoted) ++ [']']

end Path

namespace PathFault

/-- The text that is no path. -/
def text : PathFault → Text
  | .notRooted t => t
  | .empty => []

/-- What is wrong with the text. -/
def reason : PathFault → String
  | .notRooted _ => "pack paths must start with '/'"
  | .empty => "empty relative path"

/-- What a message says of a text that is no path. -/
def message (cause : PathFault) : String :=
  String.join ["invalid pack path ", String.ofList cause.text.quoted, ": ", cause.reason]

end PathFault

end ShaderBundle
