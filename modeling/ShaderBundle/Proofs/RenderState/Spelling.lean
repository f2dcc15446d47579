import ShaderBundle.Proofs.RenderState.Precedence
import ShaderBundle.Proofs.RenderState.Scanning
import Mathlib.Data.List.Nodup
/-!
# How settings are spelled

The value of a directive is made of words: names from a table, decimal numbers and the reference of an alpha
test. No word has a blank or a star in it. So the words are found again, whatever blanks stand between them,
and no value ends its comment early.
-/

namespace ShaderBundle

open Text (AllBlank IsSolid IsTrimmed)
open Comment (IsValue)

namespace Text

variable {t : Text}

/-- A word of a value. -/
structure IsWord (t : Text) : Prop where
  /-- It has no blank. -/
  solid : IsSolid t
  /-- It has a character. -/
  filled : t ≠ []
  /-- It has no star, with which a comment could end. -/
  starless : '*' ∉ t

instance (t : Text) : Decidable (IsWord t) :=
  decidable_of_iff (IsSolid t ∧ t ≠ [] ∧ '*' ∉ t)
    ⟨fun word => ⟨word.1, word.2.1, word.2.2⟩, fun word => ⟨word.solid, word.filled, word.starless⟩⟩

/-- There is no star among blanks. -/
theorem AllBlank.starless (blank : AllBlank t) : '*' ∉ t :=
  fun listed => absurd (blank '*' listed) (by decide)

/-- A word is a value. -/
theorem IsWord.isValue (word : IsWord t) : IsValue t where
  trimmed := word.solid.isTrimmed
  filled := word.filled
  unclosed closes := word.starless (closes.mem List.mem_cons_self)

/-- A value with a word and more in front of it is a value, as long as no star is among the rest. -/
theorem IsWord.isValue_append {middle back : Text} (word : IsWord t) (starless : '*' ∉ middle)
    (value : IsValue back) : IsValue (t ++ middle ++ back) where
  trimmed := word.solid.isTrimmed.append middle value.trimmed word.filled value.filled
  filled := by simp [word.filled]
  unclosed closes := by
    have front : '*' ∉ t ++ middle := fun listed => (List.mem_append.1 listed).elim word.starless starless
    obtain inFront | inBack | ⟨last, _⟩ := pair_infix_append closes
    · exact front (inFront.mem List.mem_cons_self)
    · exact value.unclosed inBack
    · exact front (List.mem_of_getLast? last)

/-- A digit is not blank. -/
theorem isBlank_of_isDigit {c : Char} (digit : c.isDigit = true) : isBlank c = false := by
  have bounds : 48 ≤ c.toNat ∧ c.toNat ≤ 57 := by simpa [Char.isDigit, UInt32.le_iff_toNat_le] using digit
  simp only [isBlank, inRanges, blankRanges, List.any_cons, List.any_nil, Bool.or_false, Bool.or_eq_false_iff,
    Bool.and_eq_false_iff, decide_eq_false_iff_not]
  omega

/-- A number in decimal is a word. -/
theorem isWord_decimal (n : Nat) : IsWord (decimal n) where
  solid _ listed := isBlank_of_isDigit (isDigit_of_mem_decimal listed)
  filled := decimal_ne_nil n
  starless listed := absurd (isDigit_of_mem_decimal listed) (by decide)

/-- A blank has no other upper case. -/
theorem toUpper_of_isBlank {c : Char} (blank : isBlank c = true) : c.toUpper = c := by
  refine dif_neg fun letter => ?_
  have bounds : 97 ≤ c.toNat ∧ c.toNat ≤ 122 := by simpa [UInt32.le_iff_toNat_le] using letter
  simp only [isBlank, inRanges, blankRanges, List.any_cons, List.any_nil, Bool.or_false, Bool.or_eq_true,
    Bool.and_eq_true, decide_eq_true_eq] at blank
  omega

/-- A text is a word if it is one in upper case. -/
theorem IsWord.of_upper (word : IsWord (upper t)) : IsWord t where
  solid c listed := by
    rw [← Bool.not_eq_true]
    intro blank
    have solid := word.solid _ (List.mem_map_of_mem (f := Char.toUpper) listed)
    rw [toUpper_of_isBlank blank, blank] at solid
    cases solid
  filled := by
    rintro rfl
    exact word.filled rfl
  starless listed := word.starless (List.mem_map_of_mem (f := Char.toUpper) listed)

end Text

section Vocabulary

variable {α : Type} {table : List (String × α)} {x : α} {t : Text}

/-- A table of words. -/
structure IsVocabulary (table : List (String × α)) : Prop where
  /-- No word has two meanings. -/
  distinct : (table.map Prod.fst).Nodup
  /-- Each word is a word of values. -/
  words : ∀ entry ∈ table, Text.IsWord entry.1.toList
  /-- Each word is in upper case. -/
  upper : ∀ entry ∈ table, Text.upper entry.1.toList = entry.1.toList

/-- A text names a meaning if it is one of the words for it; the case of ASCII letters does not count. -/
def Names (table : List (String × α)) (x : α) (t : Text) : Prop :=
  ∃ word, (word, x) ∈ table ∧ Text.upper t = word.toList

/-- A text has the meaning that it names. -/
theorem IsVocabulary.meaning?_eq (vocabulary : IsVocabulary table) (names : Names table x t) :
    meaning? table t = some x := by
  obtain ⟨word, listed, same⟩ := names
  obtain ⟨before, behind, rfl⟩ := List.append_of_mem listed
  have distinct := vocabulary.distinct
  rw [List.map_append, List.map_cons, List.nodup_middle, List.nodup_cons] at distinct
  rw [meaning?, List.findSome?_append, Option.or_eq_some_iff]
  refine .inr ⟨?_, ?_⟩
  · rw [List.findSome?_eq_none_iff]
    rintro ⟨other, _⟩ earlier
    refine if_neg fun again => ?_
    have repeated : other = word := String.ext (again.trans same)
    exact distinct.1 (List.mem_append_left _ (List.mem_map.2 ⟨_, earlier, repeated⟩))
  · simp only [List.findSome?_cons, same, if_true]

/-- A text that names something is a word. -/
theorem IsVocabulary.isWord (vocabulary : IsVocabulary table) (names : Names table x t) : Text.IsWord t := by
  obtain ⟨word, listed, same⟩ := names
  refine Text.IsWord.of_upper ?_
  rw [same]
  exact vocabulary.words _ listed

/-- The words of the table name what they stand for. -/
theorem IsVocabulary.names (vocabulary : IsVocabulary table) {word : String} (listed : (word, x) ∈ table) :
    Names table x word.toList :=
  ⟨word, listed, vocabulary.upper _ listed⟩

/-- The words for blending factors are a vocabulary. -/
theorem BlendFactor.isVocabulary_words : IsVocabulary words := by
  constructor <;> decide +kernel

/-- The words for blending modes are a vocabulary. -/
theorem Blend.isVocabulary_words : IsVocabulary words := by
  constructor <;> decide +kernel

/-- The words for comparisons are a vocabulary. -/
theorem Comparison.isVocabulary_words : IsVocabulary words := by
  constructor <;> decide +kernel

/-- The words for culling are a vocabulary. -/
theorem Culling.isVocabulary_words : IsVocabulary words := by
  constructor <;> decide +kernel

/-- The words for switches are a vocabulary. -/
theorem isVocabulary_switchWords : IsVocabulary switchWords := by
  constructor <;> decide +kernel

end Vocabulary

namespace Binary32

variable {t : Text}

/-- A sign is no star. -/
theorem star_mem_unsign (listed : '*' ∈ t) : '*' ∈ (unsign t).2 := by
  fun_cases unsign t with
  | case1 rest => exact List.mem_of_ne_of_mem (by decide) listed
  | case2 rest => exact List.mem_of_ne_of_mem (by decide) listed
  | case3 => exact listed

/-- There is no star in a numeral. -/
theorem star_not_mem_of_numeral? {n : Nat} (read : Text.numeral? t = some n) : '*' ∉ t := by
  intro listed
  rw [Text.numeral?] at read
  split at read
  · next digits => exact absurd (List.all_eq_true.1 digits.2 '*' listed) (by decide)
  · cases read

/-- There is no star in an exponent. -/
theorem star_not_mem_of_exponent? {e : Int} (read : exponent? t = some e) : '*' ∉ t := by
  intro listed
  cases t with
  | nil => cases listed
  | cons mark rest =>
    rw [exponent?] at read
    split at read
    · next marked =>
      have inRest : '*' ∈ rest := by
        refine List.mem_of_ne_of_mem (fun star => ?_) listed
        rw [← star] at marked
        exact absurd marked (by decide)
      have inDigits := star_mem_unsign inRest
      cases numeral : Text.numeral? (unsign rest).2 with
      | none =>
        simp only [numeral] at read
        cases read
      | some n => exact star_not_mem_of_numeral? numeral inDigits
    · cases read

/-- A star does not stand among digits. -/
theorem star_mem_dropWhile (listed : '*' ∈ t) : '*' ∈ t.dropWhile Char.isDigit := by
  rw [← List.takeWhile_append_dropWhile (p := Char.isDigit) (l := t), List.mem_append] at listed
  refine listed.resolve_left fun inDigits => ?_
  exact absurd (List.mem_takeWhile_imp inDigits) (by decide)

/-- There is no star before the exponent. -/
theorem star_mem_of_pointed? {whole fraction rest : Text} (read : pointed? t = some (whole, fraction, rest))
    (listed : '*' ∈ t) : '*' ∈ rest := by
  have behind := star_mem_dropWhile listed
  rw [pointed?] at read
  split at read
  next parts =>
    split at read
    · cases read
    · cases read
      split at parts
      · next fractional =>
        cases parts
        rw [fractional] at behind
        exact star_mem_dropWhile (List.mem_of_ne_of_mem (by decide) behind)
      · cases parts
        exact behind

/-- There is no star in what can be read as a number. -/
theorem star_not_mem_of_ofText? {x : Binary32} (read : ofText? t = some x) : '*' ∉ t := by
  intro listed
  have inBody := star_mem_unsign listed
  have inWord : '*' ∈ Text.upper (unsign t).2 := List.mem_map_of_mem (f := Char.toUpper) inBody
  simp only [ofText?] at read
  split at read
  · next word =>
    rcases word with word | word <;>
      · rw [word] at inWord
        exact absurd inWord (by decide)
  · split at read
    · next word =>
      rw [word] at inWord
      exact absurd inWord (by decide)
    · obtain ⟨⟨whole, fraction, rest⟩, pointed, read⟩ := Option.bind_eq_some_iff.1 read
      obtain ⟨e, exponent, _⟩ := Option.bind_eq_some_iff.1 read
      exact star_not_mem_of_exponent? exponent (star_mem_of_pointed? pointed inBody)

/-- A text without blanks that can be read as a number is a word. -/
theorem isWord_of_ofText? {x : Binary32} (solid : IsSolid t) (read : ofText? t = some x) : Text.IsWord t where
  solid := solid
  filled := by
    rintro rfl
    cases read
  starless := star_not_mem_of_ofText? read

end Binary32

namespace Setting

variable {t b b' : Text}

/-- A target that is written in decimal is read. -/
theorem target?_decimal (target : UInt32) : target? (Text.decimal target.toNat) = some target := by
  have unsigned : ['+'].isPrefixOf? (Text.decimal target.toNat) = none := by
    rw [Option.eq_none_iff_forall_ne_some]
    intro rest sign
    have listed : '+' ∈ Text.decimal target.toNat := by
      rw [← List.append_eq_of_isPrefixOf?_eq_some sign]
      exact List.mem_cons_self
    exact absurd (Text.isDigit_of_mem_decimal listed) (by decide)
  have bounded : target.toNat ≤ UInt32.size - 1 := Nat.le_pred_of_lt target.toNat_lt
  rw [target?, Text.unsigned?, unsigned, Option.getD_none, Text.numeral?_decimal, Option.filter_some,
    if_pos (decide_eq_true bounded), Option.map_some, UInt32.ofNat_toNat]

/-- Blanks around a target do not matter. -/
theorem target?_trim (target : UInt32) (blank : AllBlank b) (blank' : AllBlank b') :
    target? (Text.trim (b ++ Text.decimal target.toNat ++ b')) = some target := by
  rw [Text.trim_append blank blank' (Text.isWord_decimal _).solid.isTrimmed, target?_decimal]

/-- Among the digits of a number and the blanks around it there is nothing else. -/
theorem not_mem_padded {c : Char} (not_blank : Text.isBlank c = false) (not_digit : c.isDigit = false)
    (n : Nat) (blank : AllBlank b) (blank' : AllBlank b') : c ∉ b ++ Text.decimal n ++ b' := by
  simp only [List.mem_append, not_or]
  refine ⟨⟨fun listed => ?_, fun listed => ?_⟩, fun listed => ?_⟩
  · rw [blank c listed] at not_blank
    cases not_blank
  · rw [Text.isDigit_of_mem_decimal listed] at not_digit
    cases not_digit
  · rw [blank' c listed] at not_blank
    cases not_blank

/-- Targets in decimal, with commas between them and any blanks around the commas. -/
inductive SpellsTargets : List UInt32 → Text → Prop where
  /-- One target. -/
  | single (target : UInt32) : SpellsTargets [target] (Text.decimal target.toNat)
  /-- One target before others. -/
  | cons (target : UInt32) {targets : List UInt32} {t b b' : Text} (blank : AllBlank b) (blank' : AllBlank b')
    (others : SpellsTargets targets t) :
    SpellsTargets (target :: targets) (Text.decimal target.toNat ++ (b ++ ',' :: b') ++ t)

/-- Targets that are spelled, with blanks in front, are read one by one. -/
theorem SpellsTargets.mapM_splitOn {targets : List UInt32} (spells : SpellsTargets targets t)
    (blank : AllBlank b) :
    ((b ++ t).splitOn ',').mapM (fun piece => target? (Text.trim piece)) = some targets := by
  induction spells generalizing b with
  | single target =>
    have piece : ',' ∉ b ++ Text.decimal target.toNat := by
      rw [← List.append_nil (b ++ _)]
      exact not_mem_padded (by decide) (by decide) _ blank (by decide)
    have read : target? (Text.trim (b ++ Text.decimal target.toNat)) = some target := by
      rw [← List.append_nil (b ++ _)]
      exact target?_trim target blank (by decide)
    rw [List.splitOn_eq_singleton piece, List.mapM_cons, read]
    rfl
  | @cons target targets t b₁ b₂ blank₁ blank₂ _ ih =>
    have first : b ++ (Text.decimal target.toNat ++ (b₁ ++ ',' :: b₂) ++ t) =
        (b ++ Text.decimal target.toNat ++ b₁) ++ ',' :: (b₂ ++ t) := by
      simp only [List.append_assoc, List.cons_append]
    have piece : ',' ∉ b ++ Text.decimal target.toNat ++ b₁ :=
      not_mem_padded (by decide) (by decide) _ blank blank₁
    rw [first, List.splitOn_append_cons_self, List.splitOn_eq_singleton piece, List.singleton_append,
      List.mapM_cons, target?_trim target blank blank₁, ih blank₂]
    rfl

/-- Targets that are spelled are a value. -/
theorem SpellsTargets.isValue {targets : List UInt32} (spells : SpellsTargets targets t) : IsValue t := by
  induction spells with
  | single target => exact (Text.isWord_decimal _).isValue
  | cons target blank blank' _ ih =>
    refine (Text.isWord_decimal _).isValue_append ?_ ih
    simp [blank.starless, blank'.starless]

/-- A format that is written behind its target is read. -/
theorem format?_written {b' name : Text} (target : UInt32) (blank : AllBlank b) (blank' : AllBlank b')
    (value : IsValue name) :
    format? (Text.decimal target.toNat ++ (b ++ ':' :: b') ++ name) = some (target, name) := by
  have parts : Text.decimal target.toNat ++ (b ++ ':' :: b') ++ name =
      (Text.decimal target.toNat ++ b) ++ ':' :: (b' ++ name) := by
    simp only [List.append_assoc, List.cons_append]
  have first : ':' ∉ Text.decimal target.toNat ++ b :=
    not_mem_padded (b := []) (by decide) (by decide) target.toNat (by decide) blank
  have number : target? (Text.trim (Text.decimal target.toNat ++ b)) = some target :=
    target?_trim target (b := []) (by decide) blank
  have named : Text.trim (b' ++ name) = name := by
    rw [← List.append_nil (b' ++ name)]
    exact Text.trim_append blank' (by decide) value.trimmed
  rw [parts, format?_append_cons first, number, Option.bind_some, named, if_neg value.filled]

/-- How the values of settings are spelled: by names, whose case does not count, numbers in decimal, and
blanks between them. -/
inductive Spells : Setting → Text → Prop where
  /-- Targets in a list. -/
  | renderTargets {targets : List UInt32} {t : Text} (spells : SpellsTargets targets t) :
    Spells (.renderTargets targets) t
  /-- A usual blend. -/
  | blend {mode : Blend} {t : Text} (names : Names Blend.words mode t) : Spells (.blend mode) t
  /-- Any blend by its four factors. -/
  | factors {f₁ f₂ f₃ f₄ : BlendFactor} {t₁ t₂ t₃ t₄ b₁ b₂ b₃ : Text}
    (names₁ : Names BlendFactor.words f₁ t₁) (names₂ : Names BlendFactor.words f₂ t₂)
    (names₃ : Names BlendFactor.words f₃ t₃) (names₄ : Names BlendFactor.words f₄ t₄)
    (gap₁ : AllBlank b₁ ∧ b₁ ≠ []) (gap₂ : AllBlank b₂ ∧ b₂ ≠ []) (gap₃ : AllBlank b₃ ∧ b₃ ≠ []) :
    Spells (.blend (.factors f₁ f₂ f₃ f₄)) (t₁ ++ b₁ ++ (t₂ ++ b₂ ++ (t₃ ++ b₃ ++ t₄)))
  /-- A depth test. -/
  | depthTest {comparison : Comparison} {t : Text} (names : Names Comparison.words comparison t) :
    Spells (.depthTest comparison) t
  /-- Faces to cull. -/
  | cullFace {faces : Culling} {t : Text} (names : Names Culling.words faces t) : Spells (.cullFace faces) t
  /-- Whether depth is written. -/
  | depthWrite {enabled : Bool} {t : Text} (names : Names switchWords enabled t) :
    Spells (.depthWrite enabled) t
  /-- No alpha test. -/
  | alphaTestOff {t : Text} (off : Text.upper t = "OFF".toList) : Spells (.alphaTest .off) t
  /-- An alpha test by its comparison and what its reference is read from. -/
  | alphaTest {comparison : Comparison} {reference : Binary32} {t b r : Text}
    (names : Names Comparison.words comparison t) (gap : AllBlank b ∧ b ≠ []) (solid : IsSolid r)
    (reads : Binary32.ofText? r = some reference) :
    Spells (.alphaTest (.against comparison reference)) (t ++ b ++ r)
  /-- A format behind its target. -/
  | format (target : UInt32) {name b b' : Text} (blank : AllBlank b) (blank' : AllBlank b')
    (value : IsValue name) :
    Spells (.format target name) (Text.decimal target.toNat ++ (b ++ ':' :: b') ++ name)

/-- What a setting is spelled as can be the value of a directive. -/
theorem Spells.isValue {s : Setting} (spells : Spells s t) : IsValue t := by
  cases spells with
  | renderTargets spells => exact spells.isValue
  | blend names => exact (Blend.isVocabulary_words.isWord names).isValue
  | factors names₁ names₂ names₃ names₄ gap₁ gap₂ gap₃ =>
    have last := (BlendFactor.isVocabulary_words.isWord names₄).isValue
    have third := (BlendFactor.isVocabulary_words.isWord names₃).isValue_append gap₃.1.starless last
    have second := (BlendFactor.isVocabulary_words.isWord names₂).isValue_append gap₂.1.starless third
    exact (BlendFactor.isVocabulary_words.isWord names₁).isValue_append gap₁.1.starless second
  | depthTest names => exact (Comparison.isVocabulary_words.isWord names).isValue
  | cullFace names => exact (Culling.isVocabulary_words.isWord names).isValue
  | depthWrite names => exact (isVocabulary_switchWords.isWord names).isValue
  | alphaTestOff off =>
    have word : Text.IsWord (Text.upper t) := by
      rw [off]
      decide
    exact word.of_upper.isValue
  | alphaTest names gap solid reads =>
    exact (Comparison.isVocabulary_words.isWord names).isValue_append gap.1.starless
      (Binary32.isWord_of_ofText? solid reads).isValue
  | format target blank blank' value =>
    refine (Text.isWord_decimal _).isValue_append ?_ value
    simp [blank.starless, blank'.starless]

/-- What a setting is spelled as is read as that setting. -/
theorem Spells.ofComment?_eq {s : Setting} (spells : Spells s t) : ofComment? ⟨s.key, t⟩ = some s := by
  cases spells with
  | renderTargets spells =>
    have read : listedTargets? t = some _ := spells.mapM_splitOn (b := []) (by decide)
    rw [key, ofComment?, read]
    rfl
  | blend names =>
    have word := Blend.isVocabulary_words.isWord names
    rw [key, ofComment?, Blend.ofText?, Text.words_of_isSolid word.solid word.filled]
    simp only [Blend.isVocabulary_words.meaning?_eq names, Option.map_some]
  | factors names₁ names₂ names₃ names₄ gap₁ gap₂ gap₃ =>
    have word₁ := BlendFactor.isVocabulary_words.isWord names₁
    have word₂ := BlendFactor.isVocabulary_words.isWord names₂
    have word₃ := BlendFactor.isVocabulary_words.isWord names₃
    have word₄ := BlendFactor.isVocabulary_words.isWord names₄
    rw [key, ofComment?, Blend.ofText?, Text.words_append word₁.solid word₁.filled gap₁.1 gap₁.2,
      Text.words_append word₂.solid word₂.filled gap₂.1 gap₂.2,
      Text.words_append word₃.solid word₃.filled gap₃.1 gap₃.2, Text.words_of_isSolid word₄.solid word₄.filled]
    simp only [BlendFactor.isVocabulary_words.meaning?_eq names₁,
      BlendFactor.isVocabulary_words.meaning?_eq names₂, BlendFactor.isVocabulary_words.meaning?_eq names₃,
      BlendFactor.isVocabulary_words.meaning?_eq names₄]
    rfl
  | depthTest names =>
    rw [key, ofComment?, Comparison.isVocabulary_words.meaning?_eq names]
    rfl
  | cullFace names =>
    rw [key, ofComment?, Culling.isVocabulary_words.meaning?_eq names]
    rfl
  | depthWrite names =>
    rw [key, ofComment?, isVocabulary_switchWords.meaning?_eq names]
    rfl
  | alphaTestOff off =>
    have word : Text.IsWord (Text.upper t) := by
      rw [off]
      decide
    rw [key, ofComment?, AlphaTest.ofText?, Text.words_of_isSolid word.of_upper.solid word.of_upper.filled]
    simp only [off, if_true, Option.map_some]
  | alphaTest names gap solid reads =>
    have word := Comparison.isVocabulary_words.isWord names
    have number := Binary32.isWord_of_ofText? solid reads
    rw [key, ofComment?, AlphaTest.ofText?, Text.words_append word.solid word.filled gap.1 gap.2,
      Text.words_of_isSolid number.solid number.filled]
    simp only [Comparison.isVocabulary_words.meaning?_eq names, reads]
    rfl
  | format target blank blank' value =>
    rw [key, ofComment?, format?_written target blank blank' value]
    rfl

end Setting

end ShaderBundle
