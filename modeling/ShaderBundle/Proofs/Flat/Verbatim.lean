import ShaderBundle.Proofs.Disk.Inside
import ShaderBundle.Proofs.Flat.Marked
import ShaderBundle.Proofs.Library.Starts
import ShaderBundle.Proofs.SourceFile.IncludeLines
/-!
# Texts without includes

A text that includes nothing that loads is left as it is when it is read, split into lines and flattened, up
to the ends of its lines and a byte order mark. Each of the steps has its own boundary: splitting takes the
carriage return of a pair and knows no line behind the last line feed, the mark is dropped from the first
line, and flattening ends every line. Put together they change line ends, and the start, and nothing else.
-/

namespace ShaderBundle

/-- The text without the byte order mark at its start, if one is there. -/
def Text.unmarked (t : Text) : Text := if t.head? = some '\ufeff' then t.tail else t

/-- The mark that is dropped from the lines is the one at the start of their text. -/
theorem SourceFile.unlines_dropMark (ls : List Text) :
    Text.unlines (dropMark ls) = (Text.unlines ls).unmarked := by
  cases ls with
  | nil => rfl
  | cons first rest =>
    cases first with
    | nil => rfl
    | cons c first =>
      by_cases mark : c = '\ufeff'
      · subst mark
        rfl
      · have plain : (c :: first).head? ≠ some '\ufeff' := by simpa using mark
        have plain' : (Text.unlines ((c :: first) :: rest)).head? ≠ some '\ufeff' := by
          simpa [Text.unlines] using mark
        rw [Text.unmarked, if_neg plain', dropMark_eq_self]
        rintro _ ⟨⟩
        exact plain

/-- The placed lines of a file are its lines. -/
theorem SourceFile.map_line_placed (f : SourceFile) : f.placed.map PlacedLine.line = f.lines := by
  rw [placed, List.map_map]
  exact List.zipIdx_map_fst 0 f.lines

/-- The file at a path includes nothing that loads. -/
def Reader.StandsAlone (r : Reader) (p : Path) : Prop := ∀ q, r.AimsAt p q → ¬ ∃ file, r.load q = .ok file

namespace Library

variable {lib : Library} {path : Path} {file : SourceFile}

/-- Lines that all stay are flattened into themselves. -/
theorem lines_inlineFrom_of_forall_isKept {entered : List Path} {ls : List PlacedLine}
    (loaded : ∀ p ∈ entered, p ∈ lib.paths) (stay : ∀ l ∈ ls, lib.IsKept l.line) :
    (lib.inlineFrom entered ls).lines = ls := by
  induction ls with
  | nil => rw [inlineFrom]
  | cons l rest ih =>
    obtain ⟨first, others⟩ := List.forall_mem_cons.1 stay
    rw [lines_inlineFrom_of_isKept rest loaded first, ih others]

/-- A file that includes nothing of the library is flattened into its lines. -/
theorem text_flatten_of_forall_not_mem (found : lib.find? path = some file)
    (absent : ∀ q ∈ file.targets, q ∉ lib.paths) :
    (lib.flatten file).text = Text.unlines (file.lines.map SourceLine.text) := by
  have loaded : ∀ p ∈ [file.path], p ∈ lib.paths := by
    simpa [(mem_of_find?_eq_some found).2] using mem_paths_of_find?_eq_some found
  have stay : ∀ l ∈ file.placed, lib.IsKept l.line := by
    intro l listed q aims
    have here : l.line ∈ file.lines := List.mem_of_getElem? (SourceFile.mem_placed_iff.1 listed).2
    exact absent q (SourceFile.mem_targets_iff.2 ⟨l.line, here, aims⟩)
  have texts : file.placed.map (fun l => l.line.text) = file.lines.map SourceLine.text := by
    rw [← file.map_line_placed, List.map_map]
    rfl
  rw [text_flatten_eq_unlines, expand_eq_inlineFrom, lines_inlineFrom_of_forall_isKept loaded stay, texts]

/-- A file that includes nothing that loads is the only one that is loaded from its path. -/
theorem eq_of_load_of_mem_asked {r : Reader} {p : Path} (alone : r.StandsAlone path)
    (listed : p ∈ r.asked [path]) (loaded : r.load p = .ok file) : p = path := by
  have closed : r.Closed [path] {p | p = path ∨ ¬ ∃ file, r.load p = .ok file} := by
    constructor
    case starts_mem => exact fun q start => .inl (List.mem_singleton.1 start)
    case targets_mem =>
      rintro q (rfl | failed) other loaded target included
      · exact .inr (alone target ⟨other, loaded, included⟩)
      · exact absurd ⟨other, loaded⟩ failed
  rcases (r.isLeast_asked [path]).2 closed listed with same | failed
  · exact same
  · exact absurd ⟨file, loaded⟩ failed

/-- In a library that is built, what a file includes is no file if it does not load. -/
theorem not_mem_paths_of_standsAlone {r : Reader} {starts : List Path} (alone : r.StandsAlone path)
    (found : (ofReadings (r.crawl starts)).find? path = some file) :
    ∀ q ∈ file.targets, q ∉ (ofReadings (r.crawl starts)).paths := by
  intro q included listed
  obtain ⟨_, loaded⟩ := find?_crawl_eq_some_iff.1 found
  exact alone q ⟨file, loaded, included⟩ (mem_paths_crawl.1 listed).2

/-- A file that includes nothing that loads can be loaded from its path. -/
theorem build_eq_ok_of_standsAlone {r : Reader} (alone : r.StandsAlone path) :
    build r [path] = .ok (ofReadings (r.crawl [path])) := by
  apply build_eq_ok_iff.2
  refine ⟨rfl, cycle?_eq_none_of_forall_not_includes ?_⟩
  rintro p q ⟨file, found, included, listed⟩
  obtain ⟨asked, loaded⟩ := find?_crawl_eq_some_iff.1 found
  obtain rfl : p = path := eq_of_load_of_mem_asked alone asked loaded
  exact not_mem_paths_of_standsAlone alone found q included listed

end Library

/-- A text stays as it is when it is flattened at a path: each pair of a carriage return and a line feed
becomes a line feed, a text that is not empty is ended by one, and then a byte order mark at the start is
dropped. -/
structure Text.StaysVerbatim (t : Text) (path : Path) : Prop where
  /-- So it is in every library that has a file of the text's lines at the path, if the library has none of
  the files that it includes. -/
  flattened : ∀ (lib : Library) file, SourceFile.ofLines? path t.lines = some file →
    lib.find? path = some file → (∀ q ∈ file.targets, q ∉ lib.paths) →
      ∃ source, lib.flattenAt path = .ok source ∧ source.text = t.bareFeeds.ended.unmarked
  /-- So it is with every reader that has the text's lines at the path, if nothing that they include loads:
  the path alone can be loaded, and from any starts that lead to it, the text is the same. -/
  loaded : ∀ r : Reader, r.read path = .ok t.lines → r.StandsAlone path →
    (∃ lib, Library.build r [path] = .ok lib) ∧
    ∀ starts lib, Library.build r starts = .ok lib → path ∈ r.asked starts →
      ∃ source, lib.flattenAt path = .ok source ∧ source.text = t.bareFeeds.ended.unmarked
  /-- A disk with a file of the text is such a reader. -/
  stored : ∀ (d : Disk) bytes, d.entryAt path = .ok (.file bytes) →
    String.fromUTF8? bytes = some (String.ofList t) → d.reader.read path = .ok t.lines

namespace Library

variable {lib : Library} {path : Path} {file : SourceFile}

/-- A file of a text's lines that includes nothing of the library is flattened into the text. -/
theorem flattenAt_of_forall_not_mem {t : Text} (made : SourceFile.ofLines? path t.lines = some file)
    (found : lib.find? path = some file) (absent : ∀ q ∈ file.targets, q ∉ lib.paths) :
    ∃ source, lib.flattenAt path = .ok source ∧ source.text = t.bareFeeds.ended.unmarked := by
  refine ⟨lib.flatten file, by rw [flattenAt, found], ?_⟩
  rw [text_flatten_of_forall_not_mem found absent, SourceFile.map_text_lines made,
    SourceFile.unlines_dropMark, Text.unlines_lines]

/-- A text that includes nothing that loads stays as it is at every path but the root. -/
theorem staysVerbatim (inside : path ≠ Path.root) (t : Text) : t.StaysVerbatim path := by
  constructor
  case flattened => exact fun lib file made found absent => flattenAt_of_forall_not_mem made found absent
  case loaded =>
    intro r read alone
    refine ⟨⟨_, build_eq_ok_of_standsAlone alone⟩, ?_⟩
    intro starts lib built asked
    obtain rfl := eq_of_build_eq_ok built
    obtain ⟨file, loads⟩ := Reader.exists_load_eq_ok_iff.2 ⟨inside, t.lines, read⟩
    have found := find?_crawl_eq_some_iff.2 ⟨asked, loads⟩
    obtain ⟨ls, read', made⟩ := SourceFile.ofAnswer_eq_ok_iff.1 loads
    obtain rfl : t.lines = ls := Except.ok.inj (read.symm.trans read')
    exact flattenAt_of_forall_not_mem made found (not_mem_paths_of_standsAlone alone found)
  case stored =>
    intro d bytes lies decoded
    rw [Disk.read_of_file lies decoded, String.toList_ofList]

/-- A text with a byte order mark, a pair behind a lone carriage return, a blank line, an include of a path at
which there is nothing, and a carriage return at its end. -/
def ragged : Text := "\ufeff\ufeffa\r\r\n\n#include \"x\"\nb\x00\r".toList

/-- This text loses one of its byte order marks and one of three carriage returns, and gains a line feed at its
end. -/
theorem staysVerbatim_ragged :
    let path := Path.root.follow "s/a.glsl".toList
    let r := Reader.ofTable [(path, .ok ragged.lines)] fun _ => "no such file"
    path ≠ Path.root ∧ ragged.StaysVerbatim path ∧ r.read path = .ok ragged.lines ∧ r.StandsAlone path ∧
      ∃ lib source, build r [path] = .ok lib ∧ lib.flattenAt path = .ok source ∧
        source.text = "\ufeffa\r\n\n#include \"x\"\nb\x00\r\n".toList := by
  intro path r
  have inside : path ≠ Path.root := by decide +kernel
  have stays := staysVerbatim inside ragged
  have read : r.read path = .ok ragged.lines := rfl
  have aims : (r.load path).toOption.map SourceFile.targets = some [Path.root.follow "s/x".toList] := by
    decide +kernel
  have fails : (r.load (Path.root.follow "s/x".toList)).toOption = none := by decide +kernel
  have alone : r.StandsAlone path := by
    rintro q ⟨file, loads, included⟩ ⟨other, loads'⟩
    rw [loads] at aims
    obtain rfl : q = Path.root.follow "s/x".toList := by
      rw [← List.mem_singleton, ← Option.some.inj aims]
      exact included
    rw [loads'] at fails
    cases fails
  obtain ⟨⟨lib, built⟩, flat⟩ := stays.loaded r read alone
  have asked : path ∈ r.asked [path] := (r.isLeast_asked [path]).1.starts_mem path List.mem_cons_self
  obtain ⟨source, flattened, text⟩ := flat [path] lib built asked
  refine ⟨inside, stays, read, alone, lib, source, built, flattened, ?_⟩
  rw [text]
  decide +kernel

/-- The empty text stays empty, and a byte order mark alone leaves a blank line. -/
example : (Text.bareFeeds []).ended.unmarked = [] ∧ (Text.bareFeeds ['\ufeff']).ended.unmarked = ['\n'] := by
  decide

end Library

end ShaderBundle
