import ShaderBundle.Proofs.Keyed
import ShaderBundle.RenderState.Setting
import Mathlib.Data.List.Forall2
import Mathlib.Data.List.Perm.Basic
import Mathlib.Data.List.Induction
/-!
# The last directive counts

Of several directives for one thing the last counts whose value can be read. A malformed directive leaves
what was asked for before it; directives for different things do not touch each other, but for the two keys
of render targets, of which `RENDERTARGETS` goes before `DRAWBUFFERS`.
-/

namespace ShaderBundle

/-- The value is what the last of the readable elements reads as; there is none if no element is readable. -/
def IsLast {α β : Type} (read : α → Option β) (l : List α) : Option β → Prop
  | some v => ∃ before x behind, l = before ++ x :: behind ∧ read x = some v ∧ ∀ y ∈ behind, read y = none
  | none => ∀ x ∈ l, read x = none

/-- The last of the readable elements ends the list of what is read. -/
theorem isLast_iff {α β : Type} {read : α → Option β} {l : List α} {v? : Option β} :
    IsLast read l v? ↔ (l.filterMap read).getLast? = v? := by
  cases v? with
  | none => rw [List.getLast?_eq_none_iff, List.filterMap_eq_nil_iff, IsLast]
  | some v =>
    rw [List.getLast?_eq_some_iff]
    constructor
    · rintro ⟨before, x, behind, rfl, reads, unreadable⟩
      refine ⟨before.filterMap read, ?_⟩
      rw [List.filterMap_append, List.filterMap_cons_some reads, List.filterMap_eq_nil_iff.2 unreadable]
    · rintro ⟨_, split⟩
      obtain ⟨front, back, rfl, rfl, last⟩ := List.filterMap_eq_append_iff.1 split
      obtain ⟨skipped, x, behind, rfl, _, reads, unreadable⟩ := List.filterMap_eq_cons_iff.1 last
      exact ⟨front ++ skipped, x, behind, (List.append_assoc _ _ _).symm, reads,
        List.filterMap_eq_nil_iff.1 unreadable⟩

/-- The last of the readable elements is one of them. -/
theorem IsLast.exists_mem {α β : Type} {read : α → Option β} {l : List α} {v : β}
    (last : IsLast read l (some v)) : ∃ x ∈ l, read x = some v := by
  obtain ⟨before, x, behind, rfl, reads, _⟩ := last
  exact ⟨x, by simp, reads⟩

/-- There is one last value. -/
theorem IsLast.unique {α β : Type} {read : α → Option β} {l : List α} {v? w? : Option β}
    (last : IsLast read l v?) (last' : IsLast read l w?) : v? = w? :=
  (isLast_iff.1 last).symm.trans (isLast_iff.1 last')

namespace Setting

/-- The targets that are named by digits. -/
def drawBuffers? : Setting → Option (List UInt32)
  | .drawBuffers targets => some targets
  | _ => none

/-- The targets that are named in a list. -/
def renderTargets? : Setting → Option (List UInt32)
  | .renderTargets targets => some targets
  | _ => none

/-- The blending that is set. -/
def blend? : Setting → Option Blend
  | .blend mode => some mode
  | _ => none

/-- The depth test that is set. -/
def depthTest? : Setting → Option Comparison
  | .depthTest comparison => some comparison
  | _ => none

/-- The faces that are to be culled. -/
def cullFace? : Setting → Option Culling
  | .cullFace faces => some faces
  | _ => none

/-- Whether depth is to be written. -/
def depthWrite? : Setting → Option Bool
  | .depthWrite enabled => some enabled
  | _ => none

/-- The alpha test that is set. -/
def alphaTest? : Setting → Option AlphaTest
  | .alphaTest test => some test
  | _ => none

/-- The target whose format is set, and the format. -/
def targetFormat? : Setting → Option (UInt32 × Text)
  | .format target name => some (target, name)
  | _ => none

/-- The name in an entry for the target. -/
def nameFor? (target : UInt32) (entry : UInt32 × Text) : Option Text :=
  if target = entry.1 then some entry.2 else none

/-- The format of one target that is set. -/
def formatOf? (target : UInt32) (s : Setting) : Option Text := (targetFormat? s).bind (nameFor? target)

section Kinds

variable {s : Setting}

/-- Targets are read off a setting of draw buffers alone. -/
theorem drawBuffers?_eq_some_iff {targets : List UInt32} :
    drawBuffers? s = some targets ↔ s = .drawBuffers targets := by
  cases s <;> simp [drawBuffers?]

/-- Targets are read off a setting of render targets alone. -/
theorem renderTargets?_eq_some_iff {targets : List UInt32} :
    renderTargets? s = some targets ↔ s = .renderTargets targets := by
  cases s <;> simp [renderTargets?]

/-- A mode is read off a setting of blending alone. -/
theorem blend?_eq_some_iff {mode : Blend} : blend? s = some mode ↔ s = .blend mode := by
  cases s <;> simp [blend?]

/-- A comparison is read off a setting of the depth test alone. -/
theorem depthTest?_eq_some_iff {comparison : Comparison} :
    depthTest? s = some comparison ↔ s = .depthTest comparison := by
  cases s <;> simp [depthTest?]

/-- Faces are read off a setting of culling alone. -/
theorem cullFace?_eq_some_iff {faces : Culling} : cullFace? s = some faces ↔ s = .cullFace faces := by
  cases s <;> simp [cullFace?]

/-- A switch is read off a setting of depth writing alone. -/
theorem depthWrite?_eq_some_iff {enabled : Bool} : depthWrite? s = some enabled ↔ s = .depthWrite enabled := by
  cases s <;> simp [depthWrite?]

/-- A test is read off a setting of the alpha test alone. -/
theorem alphaTest?_eq_some_iff {test : AlphaTest} : alphaTest? s = some test ↔ s = .alphaTest test := by
  cases s <;> simp [alphaTest?]

/-- A name is read off a setting of that target's format alone. -/
theorem formatOf?_eq_some_iff {target : UInt32} {name : Text} :
    formatOf? target s = some name ↔ s = .format target name := by
  cases s <;> simp [formatOf?, targetFormat?, nameFor?, eq_comm]

end Kinds

/-- What the last setting of one kind sets. -/
def last? {α : Type} (kind : Setting → Option α) (settings : List Setting) : Option α :=
  (settings.filterMap kind).getLast?

/-- One more setting counts if it is of the kind. -/
theorem last?_append_singleton {α : Type} (kind : Setting → Option α) (settings : List Setting) (s : Setting) :
    last? kind (settings ++ [s]) = (kind s).or (last? kind settings) := by
  rw [last?, List.filterMap_append, List.getLast?_append]
  cases reads : kind s with
  | none => rw [List.filterMap_cons_none reads]; rfl
  | some v => rw [List.filterMap_cons_some reads]; rfl

/-- The formats that some settings ask for. -/
def formats (settings : List Setting) : List (UInt32 × Text) :=
  (settings.filterMap targetFormat?).foldl (fun formats entry => putFormat entry.1 entry.2 formats) []

/-- One more setting counts if it is of a format. -/
theorem formats_append_singleton (settings : List Setting) (s : Setting) :
    formats (settings ++ [s]) = ((targetFormat? s).map fun entry =>
      putFormat entry.1 entry.2 (formats settings)).getD (formats settings) := by
  rw [formats, List.filterMap_append, List.foldl_append]
  cases reads : targetFormat? s with
  | none => rw [List.filterMap_cons_none reads]; rfl
  | some entry => rw [List.filterMap_cons_some reads]; rfl

section Formats

variable {target other : UInt32} {name : Text} {formats formats' : List (UInt32 × Text)}

/-- Formats ascend by target, each target once. -/
def IsAscending (formats : List (UInt32 × Text)) : Prop :=
  formats.Pairwise fun entry entry' => entry.1 < entry'.1

/-- The format that is put in is the only one that changes. -/
theorem lookup_putFormat (target other : UInt32) (name : Text) (formats : List (UInt32 × Text)) :
    (putFormat target name formats).lookup other =
      if other = target then some name else formats.lookup other := by
  fun_induction putFormat target name formats with
  | case1 => rw [lookup_cons]
  | case2 => rw [lookup_cons]
  | case3 =>
    rw [lookup_cons, lookup_cons]
    split <;> rfl
  | case4 first firstName rest _ different ih =>
    rw [lookup_cons, lookup_cons, ih]
    by_cases at_first : other = first
    · rw [if_pos at_first, if_pos at_first, if_neg fun same => different (same.symm.trans at_first)]
    · rw [if_neg at_first, if_neg at_first]

/-- What is put in is there beside what was there. -/
theorem mem_putFormat {entry : UInt32 × Text} (listed : entry ∈ putFormat target name formats) :
    entry = (target, name) ∨ entry ∈ formats := by
  fun_induction putFormat target name formats with
  | case1 => exact .inl (List.mem_singleton.1 listed)
  | case2 => exact List.mem_cons.1 listed
  | case3 =>
    obtain here | later := List.mem_cons.1 listed
    · exact .inl here
    · exact .inr (List.mem_cons_of_mem _ later)
  | case4 first firstName rest _ _ ih =>
    obtain here | later := List.mem_cons.1 listed
    · exact .inr (List.mem_cons.2 (.inl here))
    · exact (ih later).imp_right (List.mem_cons_of_mem _)

/-- Formats still ascend when one is put in. -/
theorem isAscending_putFormat (target : UInt32) (name : Text) (ascending : IsAscending formats) :
    IsAscending (putFormat target name formats) := by
  fun_induction putFormat target name formats with
  | case1 => exact List.pairwise_singleton _ _
  | case2 first firstName rest less =>
    refine List.pairwise_cons.2 ⟨fun entry listed => ?_, ascending⟩
    obtain rfl | later := List.mem_cons.1 listed
    · exact less
    · exact UInt32.lt_trans less ((List.pairwise_cons.1 ascending).1 entry later)
  | case3 => exact List.pairwise_cons.2 (List.pairwise_cons.1 ascending)
  | case4 first firstName rest not_less different ih =>
    obtain ⟨above, later⟩ := List.pairwise_cons.1 ascending
    refine List.pairwise_cons.2 ⟨fun entry listed => ?_, ih later⟩
    obtain rfl | listed := mem_putFormat listed
    · exact UInt32.lt_of_le_of_ne (UInt32.not_lt.1 not_less) (Ne.symm different)
    · exact above entry listed

/-- The formats that settings ask for ascend. -/
theorem isAscending_formats (settings : List Setting) : IsAscending (Setting.formats settings) := by
  induction settings using List.reverseRecOn with
  | nil => exact List.Pairwise.nil
  | append_singleton settings s ih =>
    rw [formats_append_singleton]
    cases targetFormat? s with
    | none => exact ih
    | some entry => exact isAscending_putFormat entry.1 entry.2 ih

/-- A target has the format that the last setting for it names. -/
theorem lookup_formats (settings : List Setting) (target : UInt32) :
    (Setting.formats settings).lookup target = last? (formatOf? target) settings := by
  induction settings using List.reverseRecOn with
  | nil => rfl
  | append_singleton settings s ih =>
    rw [formats_append_singleton, last?_append_singleton, formatOf?]
    cases targetFormat? s with
    | none => exact ih
    | some entry =>
      rw [Option.map_some, Option.getD_some, lookup_putFormat, ih, Option.bind_some, nameFor?]
      split <;> rfl

/-- In ascending formats, no target stands twice. -/
theorem IsAscending.nodup_targets (ascending : IsAscending formats) : (formats.map Prod.fst).Nodup :=
  List.pairwise_map.2 (ascending.imp UInt32.ne_of_lt)

/-- In ascending formats, an entry is found by its target. -/
theorem lookup_eq_some_iff_mem (ascending : IsAscending formats) {entry : UInt32 × Text} :
    formats.lookup entry.1 = some entry.2 ↔ entry ∈ formats :=
  (mem_iff_lookup_eq_some ascending.nodup_targets).symm

/-- Ascending formats are known by what is looked up in them. -/
theorem IsAscending.ext (ascending : IsAscending formats) (ascending' : IsAscending formats')
    (same : ∀ target, formats.lookup target = formats'.lookup target) : formats = formats' := by
  have permuted : formats.Perm formats' := by
    rw [List.perm_ext_iff_of_nodup ascending.nodup_targets.of_map ascending'.nodup_targets.of_map]
    intro entry
    rw [← lookup_eq_some_iff_mem ascending, same, lookup_eq_some_iff_mem ascending']
  refine permuted.eq_of_pairwise (fun a b _ _ less greater => ?_) ascending ascending'
  exact absurd (UInt32.lt_trans less greater) (UInt32.lt_irrefl _)

end Formats

end Setting

namespace Draft

open Setting (last?)

/-- The draft in which the last setting of each kind stands. -/
def ofLast (settings : List Setting) : Draft where
  state := {
    blend? := last? Setting.blend? settings
    depthTest? := last? Setting.depthTest? settings
    culling? := last? Setting.cullFace? settings
    depthWrite? := last? Setting.depthWrite? settings
    alphaTest? := last? Setting.alphaTest? settings
    formats := Setting.formats settings }
  digits? := last? Setting.drawBuffers? settings
  listed? := last? Setting.renderTargets? settings

/-- Putting a setting in makes it the last of its kind. -/
theorem ofLast_append_singleton (settings : List Setting) (s : Setting) :
    ofLast (settings ++ [s]) = (ofLast settings).put s := by
  simp only [ofLast, Setting.last?_append_singleton, Setting.formats_append_singleton]
  cases s <;> rfl

/-- Once all settings are put in, the last of each kind stands. -/
theorem foldl_put (settings : List Setting) : settings.foldl put {} = ofLast settings := by
  induction settings using List.reverseRecOn with
  | nil => rfl
  | append_singleton settings s ih => rw [List.foldl_concat, ih, ofLast_append_singleton]

end Draft

/-- What a directive with the given key reads as. -/
def Comment.valueOf? {α : Type} (key : Key) (read : Text → Option α) (c : Comment) : Option α :=
  if c.key = key then read c.value else none

/-- What a directive reads as is read from its value. -/
theorem Comment.read_of_valueOf? {α : Type} {key : Key} {read : Text → Option α} {c : Comment} {v : α}
    (reads : c.valueOf? key read = some v) : read c.value = some v := by
  rw [valueOf?] at reads
  split at reads
  · exact reads
  · cases reads

namespace Setting

/-- The key that a setting is made with. -/
def key : Setting → Key
  | .drawBuffers _ => .drawBuffers
  | .renderTargets _ => .renderTargets
  | .blend _ => .blend
  | .depthTest _ => .depthTest
  | .cullFace _ => .cullFace
  | .depthWrite _ => .depthWrite
  | .alphaTest _ => .alphaTest
  | .format _ _ => .format

/-- A directive makes a setting of its own key. -/
theorem key_of_ofComment? {c : Comment} {s : Setting} (made : ofComment? c = some s) : s.key = c.key := by
  obtain ⟨key, value⟩ := c
  cases key <;>
    · obtain ⟨_, _, rfl⟩ := Option.map_eq_some_iff.1 made
      rfl

/-- The last setting of a kind that only one key makes is what the last readable directive with that key
reads as. -/
theorem isLast_of_key {α : Type} {kind : Setting → Option α} {key : Key} {read : Text → Option α}
    {make : α → Setting} (kinds : ∀ {s v}, kind s = some v ↔ s = make v) (keyed : ∀ v, (make v).key = key)
    (reads : ∀ value, (ofComment? ⟨key, value⟩).bind kind = read value) (found : List Comment) :
    IsLast (Comment.valueOf? key read) found (last? kind (found.filterMap ofComment?)) := by
  have same (c : Comment) : (ofComment? c).bind kind = c.valueOf? key read := by
    obtain ⟨key', value⟩ := c
    rw [Comment.valueOf?]
    split
    · next here =>
      obtain rfl : key' = key := here
      exact reads value
    · next elsewhere =>
      -- a setting of this kind would have been made with this key
      rw [Option.eq_none_iff_forall_ne_some]
      intro v made
      obtain ⟨s, made, sets⟩ := Option.bind_eq_some_iff.1 made
      rw [kinds] at sets
      exact elsewhere ((key_of_ofComment? made).symm.trans (sets ▸ keyed v))
  rw [isLast_iff, last?, List.filterMap_filterMap]
  simp only [same]

/-- The same, if what is read is what the setting is made with. -/
theorem isLast_of_make {α : Type} {kind : Setting → Option α} {key : Key} {read : Text → Option α}
    {make : α → Setting} (kinds : ∀ {s v}, kind s = some v ↔ s = make v) (keyed : ∀ v, (make v).key = key)
    (reads : ∀ value, ofComment? ⟨key, value⟩ = (read value).map make) (found : List Comment) :
    IsLast (Comment.valueOf? key read) found (last? kind (found.filterMap ofComment?)) := by
  refine isLast_of_key kinds keyed (fun value => ?_) found
  rw [reads, Option.bind_map]
  cases read value with
  | none => rfl
  | some v => exact kinds.2 rfl

/-- Reads the format of one target. -/
def formatFor? (target : UInt32) (t : Text) : Option Text := (format? t).bind (nameFor? target)

/-- A format is bound by what stands before the first colon and what stands behind it. -/
theorem format?_append_cons {front : Text} (first : ':' ∉ front) (back : Text) :
    format? (front ++ ':' :: back) = (target? front.trim).bind fun target =>
      if back.trim = [] then none else some (target, back.trim) := by
  have before : ∀ c ∈ front, decide (c ≠ ':') = true := by
    intro c listed
    rw [decide_eq_true_eq]
    rintro rfl
    exact first listed
  have behind : [':'].isPrefixOf? (':' :: back) = some back := rfl
  rw [format?, List.takeWhile_append_of_pos before, List.dropWhile_append_of_pos before,
    List.takeWhile_cons_of_neg (by decide), List.dropWhile_cons_of_neg (by decide), List.append_nil, behind]
  rfl

section Pieces

variable {α β : Type} {read : α → Option β} {pieces : List α} {vs : List β}

/-- What is read piece by piece is what each piece reads as, in order. -/
theorem mapM_eq_some_iff :
    pieces.mapM read = some vs ↔ List.Forall₂ (fun piece v => read piece = some v) pieces vs := by
  induction pieces generalizing vs with
  | nil =>
    rw [List.mapM_nil, List.forall₂_nil_left_iff]
    exact Option.some_inj.trans eq_comm
  | cons piece pieces ih =>
    rw [List.mapM_cons, List.forall₂_cons_left_iff]
    constructor
    · intro reads
      obtain ⟨v, first, reads⟩ := Option.bind_eq_some_iff.1 reads
      obtain ⟨others, later, same⟩ := Option.bind_eq_some_iff.1 reads
      exact ⟨v, others, first, ih.1 later, (Option.some.inj same).symm⟩
    · rintro ⟨v, others, first, later, rfl⟩
      rw [first, ih.2 later]
      rfl

/-- Something is read piece by piece exactly if each piece is. -/
theorem exists_mapM_eq_some_iff :
    (∃ vs, pieces.mapM read = some vs) ↔ ∀ piece ∈ pieces, ∃ v, read piece = some v := by
  simp only [mapM_eq_some_iff]
  induction pieces with
  | nil => simp
  | cons piece pieces ih =>
    rw [List.forall_mem_cons, ← ih]
    simp only [List.forall₂_cons_left_iff]
    constructor
    · rintro ⟨_, v, others, first, later, _⟩
      exact ⟨⟨v, first⟩, others, later⟩
    · rintro ⟨⟨v, first⟩, others, later⟩
      exact ⟨v :: others, v, others, first, later, rfl⟩

/-- Something that is read piece by piece is empty only without a piece. -/
theorem ne_nil_of_mapM (filled : pieces ≠ []) (reads : pieces.mapM read = some vs) : vs ≠ [] := by
  rintro rfl
  exact filled (List.forall₂_nil_right_iff.1 (mapM_eq_some_iff.1 reads))

end Pieces

/-- A list of targets names one. -/
theorem ne_nil_of_listedTargets? {t : Text} {targets : List UInt32} (read : listedTargets? t = some targets) :
    targets ≠ [] :=
  ne_nil_of_mapM (List.splitOn_ne_nil ',' t) read

/-- Digits of targets name one. -/
theorem ne_nil_of_digitTargets? {t : Text} {targets : List UInt32} (read : digitTargets? t = some targets) :
    targets ≠ [] := by
  rw [digitTargets?] at read
  split at read
  · cases read
  · next filled => exact ne_nil_of_mapM filled read

end Setting

namespace RenderState

open Setting (last?)

/-- What directive comments ask for, given in the order in which they are found. -/
structure IsAskedFor (found : List Comment) (state : RenderState) : Prop where
  /-- The blending. -/
  blend : IsLast (Comment.valueOf? .blend Blend.ofText?) found state.blend?
  /-- The depth test. -/
  depthTest : IsLast (Comment.valueOf? .depthTest (meaning? Comparison.words)) found state.depthTest?
  /-- The faces that are culled. -/
  culling : IsLast (Comment.valueOf? .cullFace (meaning? Culling.words)) found state.culling?
  /-- Whether depth is written. -/
  depthWrite : IsLast (Comment.valueOf? .depthWrite (meaning? switchWords)) found state.depthWrite?
  /-- The alpha test. -/
  alphaTest : IsLast (Comment.valueOf? .alphaTest AlphaTest.ofText?) found state.alphaTest?
  /-- The format of each target. -/
  format : ∀ target, IsLast (Comment.valueOf? .format (Setting.formatFor? target)) found
    (state.formats.lookup target)
  /-- No target has two formats. -/
  ascending : Setting.IsAscending state.formats
  /-- The targets: those of a list before those of digits, and without either the first alone. -/
  targets : ∃ listed? digits?,
    IsLast (Comment.valueOf? .renderTargets Setting.listedTargets?) found listed? ∧
    IsLast (Comment.valueOf? .drawBuffers Setting.digitTargets?) found digits? ∧
    state.targets = (listed?.or digits?).getD [0] ∧ state.namesTargets = (listed?.or digits?).isSome
  /-- There is a target. -/
  filled : state.targets ≠ []

/-- The state that settings ask for, field by field. -/
theorem ofSettings_eq (settings : List Setting) :
    ofSettings settings =
      let named? := (last? Setting.renderTargets? settings).or (last? Setting.drawBuffers? settings)
      { targets := named?.getD [0]
        namesTargets := named?.isSome
        blend? := last? Setting.blend? settings
        depthTest? := last? Setting.depthTest? settings
        culling? := last? Setting.cullFace? settings
        depthWrite? := last? Setting.depthWrite? settings
        alphaTest? := last? Setting.alphaTest? settings
        formats := Setting.formats settings } := by
  rw [ofSettings, Draft.foldl_put, Draft.finish, Draft.ofLast]
  cases (last? Setting.renderTargets? settings).or (last? Setting.drawBuffers? settings) <;> rfl

/-- Settings that are read from directives ask for what the directives ask for. -/
theorem isAskedFor_ofSettings (found : List Comment) :
    (ofSettings (found.filterMap Setting.ofComment?)).IsAskedFor found := by
  have listed : IsLast (Comment.valueOf? .renderTargets Setting.listedTargets?) found
      (last? Setting.renderTargets? (found.filterMap Setting.ofComment?)) :=
    Setting.isLast_of_make Setting.renderTargets?_eq_some_iff (fun _ => rfl) (fun _ => rfl) found
  have digits : IsLast (Comment.valueOf? .drawBuffers Setting.digitTargets?) found
      (last? Setting.drawBuffers? (found.filterMap Setting.ofComment?)) :=
    Setting.isLast_of_make Setting.drawBuffers?_eq_some_iff (fun _ => rfl) (fun _ => rfl) found
  have filled : ((last? Setting.renderTargets? (found.filterMap Setting.ofComment?)).or
      (last? Setting.drawBuffers? (found.filterMap Setting.ofComment?))).getD [0] ≠ [] := by
    -- whichever key the targets are from, its reader does not read a text that names none
    cases named : (last? Setting.renderTargets? (found.filterMap Setting.ofComment?)).or
        (last? Setting.drawBuffers? (found.filterMap Setting.ofComment?)) with
    | none => exact List.cons_ne_nil 0 []
    | some targets =>
      obtain named | ⟨_, named⟩ := Option.or_eq_some_iff.1 named
      · rw [named] at listed
        obtain ⟨c, _, read⟩ := listed.exists_mem
        exact Setting.ne_nil_of_listedTargets? (Comment.read_of_valueOf? read)
      · rw [named] at digits
        obtain ⟨c, _, read⟩ := digits.exists_mem
        exact Setting.ne_nil_of_digitTargets? (Comment.read_of_valueOf? read)
  rw [ofSettings_eq]
  exact {
    blend := Setting.isLast_of_make Setting.blend?_eq_some_iff (fun _ => rfl) (fun _ => rfl) found
    depthTest := Setting.isLast_of_make Setting.depthTest?_eq_some_iff (fun _ => rfl) (fun _ => rfl) found
    culling := Setting.isLast_of_make Setting.cullFace?_eq_some_iff (fun _ => rfl) (fun _ => rfl) found
    depthWrite := Setting.isLast_of_make Setting.depthWrite?_eq_some_iff (fun _ => rfl) (fun _ => rfl) found
    alphaTest := Setting.isLast_of_make Setting.alphaTest?_eq_some_iff (fun _ => rfl) (fun _ => rfl) found
    format := fun target => by
      rw [Setting.lookup_formats]
      exact Setting.isLast_of_key Setting.formatOf?_eq_some_iff (fun _ => rfl) (fun _ => Option.bind_map) found
    ascending := Setting.isAscending_formats _
    targets := ⟨_, _, listed, digits, rfl, rfl⟩
    filled := filled }

variable {found found' : List Comment} {state state' : RenderState}

/-- Directives ask for one state. -/
theorem IsAskedFor.unique (asked : state.IsAskedFor found) (asked' : state'.IsAskedFor found) :
    state = state' := by
  obtain ⟨listed?, digits?, listed, digits, targets, named⟩ := asked.targets
  obtain ⟨_, _, listed', digits', targets', named'⟩ := asked'.targets
  obtain rfl := listed.unique listed'
  obtain rfl := digits.unique digits'
  have formats : state.formats = state'.formats :=
    asked.ascending.ext asked'.ascending fun target => (asked.format target).unique (asked'.format target)
  cases state
  cases state'
  simp only [mk.injEq]
  exact ⟨targets.trans targets'.symm, named.trans named'.symm, asked.blend.unique asked'.blend,
    asked.depthTest.unique asked'.depthTest, asked.culling.unique asked'.culling,
    asked.depthWrite.unique asked'.depthWrite, asked.alphaTest.unique asked'.alphaTest, formats⟩

/-- Directives ask for the same if those with each key are the same. -/
theorem IsAskedFor.of_filter (asked : state.IsAskedFor found')
    (same : ∀ key, (found'.filter fun c => c.key = key) = found.filter fun c => c.key = key) :
    state.IsAskedFor found := by
  have last {α : Type} {key : Key} {read : Text → Option α} {v? : Option α}
      (last : IsLast (Comment.valueOf? key read) found' v?) : IsLast (Comment.valueOf? key read) found v? := by
    have values (found : List Comment) : found.filterMap (Comment.valueOf? key read) =
        (found.filter fun c => c.key = key).filterMap fun c => read c.value := by
      rw [List.filterMap_filter]
      simp only [decide_eq_true_eq]
      rfl
    rw [isLast_iff, values] at last ⊢
    rw [← same, last]
  obtain ⟨listed?, digits?, listed, digits, targets, named⟩ := asked.targets
  exact {
    blend := last asked.blend
    depthTest := last asked.depthTest
    culling := last asked.culling
    depthWrite := last asked.depthWrite
    alphaTest := last asked.alphaTest
    format := fun target => last (asked.format target)
    ascending := asked.ascending
    targets := ⟨listed?, digits?, last listed, last digits, targets, named⟩
    filled := asked.filled }

/-- The state that sources ask for is what the directives in them ask for, taken source by source. It stays
the same if a malformed directive is taken away, and if directives with different keys change places. -/
theorem ofSources_isAskedFor (sources : List Text) :
    (ofSources sources).IsAskedFor (comments sources) ∧
      (∀ sources' before c behind, comments sources = before ++ c :: behind → Setting.ofComment? c = none →
        comments sources' = before ++ behind → ofSources sources' = ofSources sources) ∧
      ∀ sources', (∀ key, ((comments sources').filter fun c => c.key = key) =
        (comments sources).filter fun c => c.key = key) → ofSources sources' = ofSources sources := by
  have asked (sources : List Text) : (ofSources sources).IsAskedFor (comments sources) :=
    isAskedFor_ofSettings (comments sources)
  refine ⟨asked sources, ?deleted, ?reordered⟩
  case deleted =>
    intro sources' before c behind found malformed found'
    rw [ofSources, ofSources, found, found', List.filterMap_append, List.filterMap_append,
      List.filterMap_cons_none malformed]
  case reordered =>
    intro sources' same
    exact ((asked sources').of_filter same).unique (asked sources)

example : ofSources ["/*DRAWBUFFERS:12*//* BLEND : add */".toList, "/*RENDERTARGETS:x*//*BLEND:?*/".toList] =
    { targets := [1, 2], namesTargets := true, blend? := some .add } := by
  decide +kernel

end RenderState

end ShaderBundle
