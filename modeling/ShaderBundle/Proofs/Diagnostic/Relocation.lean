import ShaderBundle.Proofs.Diagnostic.Linewise
import ShaderBundle.Proofs.Flat.Origins
import ShaderBundle.Proofs.Text.Numerals
/-!
# Relocated logs

Each line of a log is relocated by itself. If it starts with a location whose line is a numeral for a line
of the flat text, the file and the line give way to that line's origin, and the column and all that follows
stay as they are. Any other line stays as it is.
-/

namespace ShaderBundle

namespace FlatSource

variable {s : FlatSource} {t out : Text} {l : Location} {n : Nat}

/-- A flat source has a place for each line that it counts. -/
theorem length_places (s : FlatSource) : s.places.length = s.lineCount := by
  have sizes (stretch : Stretch) : stretch.places.length = stretch.lines.length := by
    simp [Stretch.places, Stretch.size]
  rw [places, lineCount, List.length_flatMap, List.length_flatMap]
  simp only [sizes]

/-- The lines that have an origin are those that are counted. -/
theorem isSome_origin?_iff : (s.origin? n).isSome = true ↔ 1 ≤ n ∧ n ≤ s.lineCount := by
  cases n with
  | zero => simp [origin?]
  | succ n =>
    have counted : (s.places[n]?).isSome = true ↔ n < s.lineCount := by
      rw [← length_places]
      simp
    rw [origin?_succ, Option.isSome_map, counted]
    omega

/-- How a line of a log is relocated by a flat source. -/
structure IsRelocated (s : FlatSource) (t out : Text) : Prop where
  /-- Where the line of a location is a numeral for a line of the flat text, the origin of that line takes
  the place of the file and the line. -/
  moved : ∀ file w (l : Location) n, Location.IsFileName file →
    (∀ letter : Char, letter.isAlpha = true → file ≠ [letter]) → l.IsWritten w → t = file ++ w →
    l.line.Denotes n → 1 ≤ n → n ≤ s.lineCount →
    ∃ path k, s.origin? n = some (path, k) ∧
      out = path.text ++ Location.written l.style (Text.decimal k) l.column l.rest
  /-- Where the line of a location is none of the flat text, or no numeral at all, nothing changes. -/
  outside : ∀ file w (l : Location), Location.IsFileName file →
    (∀ letter : Char, letter.isAlpha = true → file ≠ [letter]) → l.IsWritten w → t = file ++ w →
    (∀ n, l.line.Denotes n → n = 0 ∨ s.lineCount < n) → out = t
  /-- Nothing changes where no location is written. -/
  absent : (∀ file w (l : Location), Location.IsFileName file → l.IsWritten w → t ≠ file ++ w) → out = t

/-- A line stays as it is if no location is read. -/
theorem relocateLine_of_absent (s : FlatSource) (absent : Location.ofLine? t = none) :
    s.relocateLine t = t := by
  rw [relocateLine, absent]

/-- A line with a location whose line is counted is moved to the origin. -/
theorem relocateLine_of_origin? (read : Location.ofLine? t = some l) (denotes : l.line.Denotes n)
    {path : Path} {k : Nat} (origin : s.origin? n = some (path, k)) :
    s.relocateLine t = path.text ++ Location.written l.style (Text.decimal k) l.column l.rest := by
  have numeral := Text.numeral?_eq_some_iff.2 denotes
  have moved : s.relocateLine t = l.moved path k ++ l.rest := by
    simp [relocateLine, replacement, read, numeral, origin]
  rw [moved, Location.moved]
  cases l.style with
  | colons => simp [Location.written]
  | parentheses => simp [Location.written]

/-- A line with any other location stays as it is. -/
theorem relocateLine_of_outside (read : Location.ofLine? t = some l)
    (outside : ∀ n, l.line.Denotes n → n = 0 ∨ s.lineCount < n) : s.relocateLine t = t := by
  have nowhere : (Text.numeral? l.line).bind s.origin? = none := by
    cases numeral : Text.numeral? l.line with
    | none => rfl
    | some n =>
      have beyond := outside n (Text.numeral?_eq_some_iff.1 numeral)
      apply Option.not_isSome_iff_eq_none.1
      rw [Option.bind_some, isSome_origin?_iff]
      omega
  obtain ⟨front, whole⟩ := Location.exists_append_rest read
  have kept : t.take (t.length - l.rest.length) = front := by
    rw [whole, List.length_append, Nat.add_sub_cancel, List.take_left]
  simp only [relocateLine, replacement, read, nowhere]
  rw [kept, ← whole]

/-- A line is relocated as it should be. -/
theorem isRelocated_relocateLine (s : FlatSource) (t : Text) : s.IsRelocated t (s.relocateLine t) := by
  constructor
  case moved =>
    rintro file w l n named wide stands rfl denotes first last
    have read := Location.ofLine?_append named wide stands
    obtain ⟨⟨path, k⟩, origin⟩ := Option.isSome_iff_exists.1 (isSome_origin?_iff.2 ⟨first, last⟩)
    exact ⟨path, k, origin, relocateLine_of_origin? read denotes origin⟩
  case outside =>
    rintro file w l named wide stands rfl outside
    exact relocateLine_of_outside (Location.ofLine?_append named wide stands) outside
  case absent =>
    intro absent
    apply relocateLine_of_absent
    apply Option.eq_none_iff_forall_ne_some.2
    intro l read
    obtain ⟨file, w, named, stands, same⟩ := Location.exists_of_ofLine? read
    exact absent file w l named stands same

/-- A log is relocated line by line. -/
theorem relocate_isRelocated (s : FlatSource) (log : Text) :
    ∃ outs, s.relocate log = ['\n'].intercalate outs ∧ List.Forall₂ s.IsRelocated (log.splitOn '\n') outs := by
  refine ⟨_, s.relocate_eq log, List.forall₂_map_right_iff.2 (List.forall₂_same.2 fun t _ => ?_)⟩
  exact s.isRelocated_relocateLine t

example :
    (FlatSource.mk (Path.root.follow ['a']) [⟨Path.root.follow ['b'], 6, ["float b;".toList]⟩]).relocate
      "C:\\a.hlsl(01,4-9): see a:1:2:\na.hlsl:2:3: f(1,2)\na:1:5: x".toList =
      "/b(7,4): see a:1:2:\na.hlsl:2:3: f(1,2)\n/b:7:5: x".toList := by
  cbv

end FlatSource

end ShaderBundle
