import ShaderBundle.Proofs.RenderState.Spelling
/-!
# Writing a rendering state

A rendering state can be written as directives, one for each thing it asks for, and is read back from them:
in whatever order they stand, over however many sources they are spread, with any blanks in them and any
text between them that does not start a comment.
-/

namespace ShaderBundle

open Text (AllBlank IsSolid)
open Comment (opening closing IsHead IsValue)

namespace Setting

/-- A setting written as a directive, with any blanks around its key, its colon and its value. -/
def IsWritten (s : Setting) (t : Text) : Prop :=
  ∃ head b value b', IsHead s.key head ∧ AllBlank b ∧ AllBlank b' ∧ Spells s value ∧
    t = opening ++ (head ++ (b ++ (value ++ b' ++ closing)))

/-- A text that has some settings written in it, and starts no other comment. -/
inductive Writes : List Setting → Text → Prop where
  /-- A text in which no comment starts. -/
  | plain {t : Text} (plain : ¬ opening <:+: t) : Writes [] t
  /-- A directive behind such a text, and what follows. -/
  | directive {s : Setting} {settings : List Setting} {between t rest : Text}
    (plain : ¬ opening <:+: between) (written : IsWritten s t) (others : Writes settings rest) :
    Writes (s :: settings) (between ++ t ++ rest)

/-- A written setting is found before anything else. -/
theorem IsWritten.scan_append {s : Setting} {t : Text} (written : IsWritten s t) (rest : Text) :
    ∃ value, Spells s value ∧ Comment.scan (t ++ rest) = ⟨s.key, value⟩ :: Comment.scan rest := by
  obtain ⟨head, b, value, b', heads, blank, blank', spells, rfl⟩ := written
  have read := Comment.ofOpened?_written heads blank blank' spells.isValue rest
  refine ⟨value, spells, ?_⟩
  rw [← Comment.scan_opening_of_some read]
  simp [opening]

/-- The settings that are written in a text are read from it, in their order. -/
theorem Writes.filterMap_scan {settings : List Setting} {t : Text} (writes : Writes settings t) :
    (Comment.scan t).filterMap ofComment? = settings := by
  induction writes with
  | plain plain => rw [Comment.scan_eq_nil plain, List.filterMap_nil]
  | @directive s settings between t rest plain written _ ih =>
    obtain ⟨value, spells, found⟩ := written.scan_append rest
    -- a slash before the directive is not taken for the start of its comment
    have seam : ¬ (between.getLast? = some '/' ∧ (t ++ rest).head? = some '*') := by
      obtain ⟨_, _, _, _, _, _, _, _, rfl⟩ := written
      rintro ⟨_, star⟩
      cases star
    rw [List.append_assoc, Comment.scan_append (Comment.isApart_of_not_opening plain seam),
      Comment.scan_eq_nil plain, List.nil_append, found, List.filterMap_cons_some spells.ofComment?_eq, ih]

/-- The settings that are written in several sources are read from them, source by source. -/
theorem filterMap_comments {parts : List (List Setting)} {sources : List Text}
    (writes : List.Forall₂ Writes parts sources) :
    (RenderState.comments sources).filterMap ofComment? = parts.flatten := by
  induction writes with
  | nil => rfl
  | cons first _ ih =>
    rw [RenderState.comments] at ih ⊢
    rw [List.flatMap_cons, List.filterMap_append, first.filterMap_scan, ih, List.flatten_cons]

/-- The last setting of a kind is the only one. -/
theorem last?_eq {α : Type} {kind : Setting → Option α} {make : α → Setting}
    (kinds : ∀ {s v}, kind s = some v ↔ s = make v) {settings : List Setting} {v? : Option α}
    (only : ∀ v, make v ∈ settings ↔ v? = some v) : last? kind settings = v? := by
  have listed (v : α) : v ∈ settings.filterMap kind ↔ v? = some v := by
    rw [List.mem_filterMap, ← only]
    constructor
    · rintro ⟨s, listed, sets⟩
      rwa [← kinds.1 sets]
    · exact fun listed => ⟨make v, listed, kinds.2 rfl⟩
  rw [last?]
  cases last : (settings.filterMap kind).getLast? with
  | some v => exact ((listed v).1 (List.mem_of_getLast? last)).symm
  | none =>
    rw [List.getLast?_eq_none_iff] at last
    rw [eq_comm, Option.eq_none_iff_forall_ne_some]
    intro v some
    have inside := (listed v).2 some
    rw [last] at inside
    cases inside

end Setting

namespace RenderState

/-- Whether a setting is one that the state asks for. -/
def Sets (state : RenderState) : Setting → Prop
  | .drawBuffers _ => False
  | .renderTargets targets => state.namesTargets = true ∧ targets = state.targets
  | .blend mode => state.blend? = some mode
  | .depthTest comparison => state.depthTest? = some comparison
  | .cullFace faces => state.culling? = some faces
  | .depthWrite enabled => state.depthWrite? = some enabled
  | .alphaTest test => state.alphaTest? = some test
  | .format target name => (target, name) ∈ state.formats

/-- The settings that a state asks for: one for each thing that is set, and one for each format. -/
def settings (state : RenderState) : List Setting :=
  (if state.namesTargets then [.renderTargets state.targets] else []) ++
    (state.blend?.map .blend).toList ++ (state.depthTest?.map .depthTest).toList ++
    (state.culling?.map .cullFace).toList ++ (state.depthWrite?.map .depthWrite).toList ++
    (state.alphaTest?.map .alphaTest).toList ++ state.formats.map fun entry => .format entry.1 entry.2

/-- The settings of a state are those that it sets. -/
theorem mem_settings_iff {state : RenderState} {s : Setting} : s ∈ state.settings ↔ state.Sets s := by
  cases s <;> simp [settings, Sets]

/-- A state that can be written as directives. -/
structure IsWritable (state : RenderState) : Prop where
  /-- There is a target. -/
  filled : state.targets ≠ []
  /-- Targets that are not named are the first alone. -/
  unnamed : state.namesTargets = false → state.targets = [0]
  /-- The reference of an alpha test is read from some text without blanks. -/
  reference : ∀ comparison reference, state.alphaTest? = some (.against comparison reference) →
    ∃ r, IsSolid r ∧ Binary32.ofText? r = some reference
  /-- No target has two formats. -/
  ascending : Setting.IsAscending state.formats
  /-- The name of each format has no blanks around it and does not end a comment. -/
  names : ∀ entry ∈ state.formats, IsValue entry.2

variable {state : RenderState} {settings : List Setting}

/-- Settings that are those of a state ask for that state. -/
theorem ofSettings_eq_of_mem_iff (writable : state.IsWritable) (same : ∀ s, s ∈ settings ↔ s ∈ state.settings) :
    ofSettings settings = state := by
  have sets (s : Setting) : s ∈ settings ↔ state.Sets s := (same s).trans mem_settings_iff
  -- no kind is set in two ways, so that the order does not matter
  have listed : Setting.last? Setting.renderTargets? settings =
      if state.namesTargets then some state.targets else none := by
    refine Setting.last?_eq Setting.renderTargets?_eq_some_iff fun targets => (sets _).trans ?_
    rw [Sets, Option.ite_none_right_eq_some, Option.some.injEq, eq_comm (a := targets)]
  have digits : Setting.last? Setting.drawBuffers? settings = none := by
    refine Setting.last?_eq Setting.drawBuffers?_eq_some_iff fun targets => (sets _).trans ?_
    simp [Sets]
  have blend : Setting.last? Setting.blend? settings = state.blend? :=
    Setting.last?_eq Setting.blend?_eq_some_iff fun _ => sets _
  have depthTest : Setting.last? Setting.depthTest? settings = state.depthTest? :=
    Setting.last?_eq Setting.depthTest?_eq_some_iff fun _ => sets _
  have culling : Setting.last? Setting.cullFace? settings = state.culling? :=
    Setting.last?_eq Setting.cullFace?_eq_some_iff fun _ => sets _
  have depthWrite : Setting.last? Setting.depthWrite? settings = state.depthWrite? :=
    Setting.last?_eq Setting.depthWrite?_eq_some_iff fun _ => sets _
  have alphaTest : Setting.last? Setting.alphaTest? settings = state.alphaTest? :=
    Setting.last?_eq Setting.alphaTest?_eq_some_iff fun _ => sets _
  have formats : Setting.formats settings = state.formats := by
    refine (Setting.isAscending_formats settings).ext writable.ascending fun target => ?_
    rw [Setting.lookup_formats]
    refine Setting.last?_eq Setting.formatOf?_eq_some_iff fun name => (sets _).trans ?_
    show (target, name) ∈ state.formats ↔ _
    exact (Setting.lookup_eq_some_iff_mem writable.ascending).symm
  rw [ofSettings_eq, listed, digits, blend, depthTest, culling, depthWrite, alphaTest, formats, Option.or_none]
  cases named : state.namesTargets with
  | true => cases state; cases named; rfl
  | false =>
    have first := writable.unnamed named
    cases state
    cases named
    cases first
    rfl

end RenderState

namespace Setting

/-- Whatever a table has a word for is named. -/
theorem exists_names {α : Type} {table : List (String × α)} (vocabulary : IsVocabulary table) {x : α}
    (meant : x ∈ table.map Prod.snd) : ∃ t, Names table x t := by
  obtain ⟨⟨word, _⟩, listed, rfl⟩ := List.mem_map.1 meant
  exact ⟨_, vocabulary.names listed⟩

/-- Any targets can be spelled. -/
theorem exists_spellsTargets {targets : List UInt32} (filled : targets ≠ []) : ∃ t, SpellsTargets targets t := by
  induction targets with
  | nil => contradiction
  | cons target rest ih =>
    cases rest with
    | nil => exact ⟨_, .single target⟩
    | cons next rest =>
      obtain ⟨t, others⟩ := ih (List.cons_ne_nil next rest)
      have blank : AllBlank [] := by decide
      exact ⟨_, .cons target blank blank others⟩

/-- Each setting of a state that can be written can be spelled. -/
theorem exists_spells {state : RenderState} (writable : state.IsWritable) {s : Setting} (sets : state.Sets s) :
    ∃ t, Spells s t := by
  have blank : AllBlank [] := by decide
  have gap : AllBlank [' '] ∧ [' '] ≠ ([] : Text) := by decide
  have factor (f : BlendFactor) : ∃ t, Names BlendFactor.words f t :=
    exists_names BlendFactor.isVocabulary_words (by cases f <;> decide)
  have comparison (c : Comparison) : ∃ t, Names Comparison.words c t :=
    exists_names Comparison.isVocabulary_words (by cases c <;> decide)
  cases s with
  | drawBuffers targets => cases sets
  | renderTargets targets =>
    obtain ⟨_, rfl⟩ := sets
    obtain ⟨t, spells⟩ := exists_spellsTargets writable.filled
    exact ⟨t, .renderTargets spells⟩
  | blend mode =>
    cases mode with
    | off =>
      obtain ⟨t, names⟩ := exists_names Blend.isVocabulary_words (x := .off) (by decide)
      exact ⟨t, .blend names⟩
    | factors f₁ f₂ f₃ f₄ =>
      obtain ⟨_, names₁⟩ := factor f₁
      obtain ⟨_, names₂⟩ := factor f₂
      obtain ⟨_, names₃⟩ := factor f₃
      obtain ⟨_, names₄⟩ := factor f₄
      exact ⟨_, .factors names₁ names₂ names₃ names₄ gap gap gap⟩
  | depthTest c =>
    obtain ⟨t, names⟩ := comparison c
    exact ⟨t, .depthTest names⟩
  | cullFace faces =>
    obtain ⟨t, names⟩ := exists_names Culling.isVocabulary_words (x := faces) (by cases faces <;> decide)
    exact ⟨t, .cullFace names⟩
  | depthWrite enabled =>
    obtain ⟨t, names⟩ := exists_names isVocabulary_switchWords (x := enabled) (by cases enabled <;> decide)
    exact ⟨t, .depthWrite names⟩
  | alphaTest test =>
    cases test with
    | off => exact ⟨"OFF".toList, .alphaTestOff (by decide)⟩
    | against c reference =>
      obtain ⟨_, names⟩ := comparison c
      obtain ⟨r, solid, reads⟩ := writable.reference c reference sets
      exact ⟨_, .alphaTest names gap solid reads⟩
  | format target name =>
    exact ⟨_, .format target blank blank (writable.names _ sets)⟩

/-- A setting that can be spelled can be written. -/
theorem Spells.exists_isWritten {s : Setting} {value : Text} (spells : Spells s value) : ∃ t, IsWritten s t :=
  ⟨_, _, [], value, [], ⟨[], [], by decide, by decide, rfl⟩, by decide, by decide, spells, rfl⟩

/-- Settings that can be written can be written in one text. -/
theorem exists_writes {settings : List Setting} (written : ∀ s ∈ settings, ∃ t, IsWritten s t) :
    ∃ t, Writes settings t := by
  have plain : ¬ opening <:+: ([] : Text) := by decide
  induction settings with
  | nil => exact ⟨[], .plain plain⟩
  | cons s settings ih =>
    obtain ⟨⟨t, first⟩, others⟩ := List.forall_mem_cons.1 written
    obtain ⟨rest, writes⟩ := ih others
    exact ⟨_, .directive plain first writes⟩

/-- Settings that can be written can be written in several texts. -/
theorem exists_forall₂_writes {parts : List (List Setting)}
    (written : ∀ s ∈ parts.flatten, ∃ t, IsWritten s t) : ∃ sources, List.Forall₂ Writes parts sources := by
  induction parts with
  | nil => exact ⟨[], .nil⟩
  | cons part parts ih =>
    rw [List.flatten_cons, List.forall_mem_append] at written
    obtain ⟨t, first⟩ := exists_writes written.1
    obtain ⟨sources, others⟩ := ih written.2
    exact ⟨t :: sources, .cons first others⟩

end Setting

namespace RenderState

/-- However the settings of a state are ordered and spread over sources, they can be written so, and from
whatever sources they are written in the state is read back. -/
theorem ofSources_of_writes (state : RenderState) (writable : state.IsWritable) (parts : List (List Setting))
    (same : ∀ s, s ∈ parts.flatten ↔ s ∈ state.settings) :
    (∃ sources, List.Forall₂ Setting.Writes parts sources) ∧
      ∀ sources, List.Forall₂ Setting.Writes parts sources → ofSources sources = state := by
  constructor
  · refine Setting.exists_forall₂_writes fun s listed => ?_
    obtain ⟨_, spells⟩ := Setting.exists_spells writable (mem_settings_iff.1 ((same s).1 listed))
    exact spells.exists_isWritten
  · intro sources writes
    rw [ofSources, Setting.filterMap_comments writes, ofSettings_eq_of_mem_iff writable same]

/-- A state with a format whose name looks like a comment. -/
def dressed : RenderState where
  targets := [0, 3]
  namesTargets := true
  blend? := some .add
  alphaTest? := some (.against .greater (.signed false 0x3F000000))
  formats := [(3, "R/*:*".toList)]

/-- Written over two sources, with a slash before a directive and ends of comments behind, the state is read
back. -/
theorem ofSources_of_writes_dressed :
    dressed.IsWritable ∧
      ofSources ["//*FORMAT:3 :R/*:* */*/ /* BLEND\n: add*/".toList,
        "/*RENDERTARGETS:0, 3*/\n/*ALPHATEST:greater 0.5*/*/".toList] = dressed := by
  have number : Binary32.ofText? "0.5".toList = some (.signed false 0x3F000000) := by decide +kernel
  have name : IsValue "R/*:*".toList := {
    trimmed := Text.IsSolid.isTrimmed (by decide)
    filled := by decide
    unclosed := by decide }
  have writable : dressed.IsWritable := {
    filled := by decide
    unnamed := by decide
    reference := by
      rintro _ _ ⟨⟩
      exact ⟨"0.5".toList, by decide, number⟩
    ascending := List.pairwise_singleton _ _
    names := by
      intro entry listed
      rw [List.mem_singleton.1 listed]
      exact name }
  have blank : AllBlank [] := by decide
  have gap : AllBlank [' '] := by decide
  have add : Names Blend.words .add "add".toList := ⟨"ADD", by decide, rfl⟩
  have greater : Names Comparison.words .greater "greater".toList := ⟨"GREATER", by decide, rfl⟩
  have format : Setting.IsWritten (.format 3 "R/*:*".toList) "/*FORMAT:3 :R/*:* */".toList :=
    ⟨"FORMAT:".toList, [], _, [' '], ⟨[], [], blank, blank, rfl⟩, blank, gap, .format 3 gap blank name, by cbv⟩
  have blend : Setting.IsWritten (.blend .add) "/* BLEND\n: add*/".toList :=
    ⟨" BLEND\n:".toList, [' '], _, [], ⟨[' '], ['\n'], gap, by decide, rfl⟩, gap, blank,
      .blend add, rfl⟩
  have targets : Setting.IsWritten (.renderTargets [0, 3]) "/*RENDERTARGETS:0, 3*/".toList :=
    ⟨"RENDERTARGETS:".toList, [], _, [], ⟨[], [], blank, blank, rfl⟩, blank, blank,
      .renderTargets (.cons 0 blank gap (.single 3)), by cbv⟩
  have test : Setting.IsWritten (.alphaTest (.against .greater (.signed false 0x3F000000)))
      "/*ALPHATEST:greater 0.5*/".toList :=
    ⟨"ALPHATEST:".toList, [], _, [], ⟨[], [], blank, blank, rfl⟩, blank, blank,
      .alphaTest greater ⟨gap, by decide⟩ (by decide) number, rfl⟩
  have first : Setting.Writes _ ("/".toList ++ "/*FORMAT:3 :R/*:* */".toList ++
      ("*/ ".toList ++ "/* BLEND\n: add*/".toList ++ [])) :=
    .directive (by decide) format (.directive (by decide) blend (.plain (by decide)))
  have second : Setting.Writes _ ([] ++ "/*RENDERTARGETS:0, 3*/".toList ++
      ("\n".toList ++ "/*ALPHATEST:greater 0.5*/".toList ++ "*/".toList)) :=
    .directive (by decide) targets (.directive (by decide) test (.plain (by decide)))
  have permuted : List.Perm [Setting.format 3 "R/*:*".toList, .blend .add, .renderTargets [0, 3],
      .alphaTest (.against .greater (.signed false 0x3F000000))] dressed.settings := by
    decide
  have read := (ofSources_of_writes dressed writable [[_, _], [_, _]] fun _ => permuted.mem_iff).2
  exact ⟨writable, read _ (.cons first (.cons second .nil))⟩

end RenderState

end ShaderBundle
