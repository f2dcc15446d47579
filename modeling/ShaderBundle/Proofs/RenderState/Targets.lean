import ShaderBundle.Proofs.RenderState.Precedence
import ShaderBundle.Proofs.Text.Lines
import ShaderBundle.Proofs.Text.Numerals
import Mathlib.Data.List.TakeWhile
/-!
# Naming targets as a whole

Three directives name render targets. Each is accepted exactly if the whole of its value has its form, and is
then read for all of it: one piece of a list that is no number, or is too large for one, takes the others with
it. A directive that is not accepted leaves everything that was asked for as it was.
-/

namespace ShaderBundle

/-- A directive is accepted if its value can be read. -/
def Comment.IsAccepted (c : Comment) : Prop := ∃ s, Setting.ofComment? c = some s

/-- A directive is accepted if the reader of its key reads its value. -/
theorem Comment.isAccepted_iff {α : Type} {c : Comment} {read : Option α} {make : α → Setting}
    (reads : Setting.ofComment? c = read.map make) : c.IsAccepted ↔ ∃ v, read = some v := by
  rw [IsAccepted, reads]
  cases read <;> simp

namespace Setting

variable {t value front back name : Text} {target : UInt32} {targets : List UInt32}

/-- A target is named by what denotes its number. -/
theorem target?_eq_some_iff : target? t = some target ↔ t.DenotesUnsigned target.toNat := by
  rw [target?, Option.map_eq_some_iff]
  simp only [Text.unsigned?_eq_some_iff]
  constructor
  · rintro ⟨n, ⟨denotes, fits⟩, rfl⟩
    have bounded : n < UInt32.size := by
      have positive : 0 < UInt32.size := by decide
      omega
    rwa [UInt32.toNat_ofNat_of_lt' bounded]
  · intro denotes
    exact ⟨target.toNat, ⟨denotes, Nat.le_pred_of_lt target.toNat_lt⟩, UInt32.ofNat_toNat⟩

/-- A text names some target exactly if it denotes a number of 32 bits. -/
theorem exists_target?_iff :
    (∃ target, target? t = some target) ↔ ∃ n ≤ 4294967295, t.DenotesUnsigned n := by
  simp only [target?_eq_some_iff]
  constructor
  · rintro ⟨target, denotes⟩
    exact ⟨target.toNat, Nat.le_pred_of_lt target.toNat_lt, denotes⟩
  · rintro ⟨n, fits, denotes⟩
    have bounded : n < UInt32.size := Nat.lt_succ_of_le fits
    exact ⟨UInt32.ofNat n, by rwa [UInt32.toNat_ofNat_of_lt' bounded]⟩

/-- A single character names a target exactly if it is a digit. -/
theorem target?_singleton_eq_some_iff {c : Char} :
    target? [c] = some target ↔ c.isDigit = true ∧ target.toNat = c.toNat - '0'.toNat := by
  rw [target?_eq_some_iff, Text.DenotesUnsigned, Text.denotes_singleton_iff]
  refine or_iff_left ?_
  rintro ⟨digits, same, denotes⟩
  exact denotes.1 (List.cons.inj same).2.symm

/-- A digit names a target. -/
theorem exists_target?_singleton_iff {c : Char} :
    (∃ target, target? [c] = some target) ↔ c.isDigit = true := by
  simp only [target?_singleton_eq_some_iff]
  constructor
  · rintro ⟨_, digit, _⟩
    exact digit
  · intro digit
    have small : c.toNat - '0'.toNat < UInt32.size := by
      have bounds : 48 ≤ c.toNat ∧ c.toNat ≤ 57 := by simpa [Char.isDigit, UInt32.le_iff_toNat_le] using digit
      have large : 58 ≤ UInt32.size := by decide
      omega
    exact ⟨UInt32.ofNat (c.toNat - '0'.toNat), digit, UInt32.toNat_ofNat_of_lt' small⟩

/-- Targets in a list are named by its pieces. -/
theorem listedTargets?_eq_some_iff : listedTargets? value = some targets ↔
    List.Forall₂ (fun (piece : Text) target => piece.trim.DenotesUnsigned target.toNat) (value.splitOn ',')
      targets := by
  rw [listedTargets?, mapM_eq_some_iff]
  simp only [target?_eq_some_iff]

/-- A list is read exactly if each of its pieces denotes a number of 32 bits. -/
theorem exists_listedTargets?_iff : (∃ targets, listedTargets? value = some targets) ↔
    ∀ piece ∈ value.splitOn ',', ∃ n ≤ 4294967295, (Text.trim piece).DenotesUnsigned n :=
  exists_mapM_eq_some_iff.trans (forall₂_congr fun _ _ => exists_target?_iff)

/-- Targets that are written as digits are named by its characters. -/
theorem digitTargets?_eq_some_iff : digitTargets? value = some targets ↔ value ≠ [] ∧
    List.Forall₂ (fun c target => c.isDigit = true ∧ target.toNat = c.toNat - '0'.toNat) value targets := by
  rw [digitTargets?]
  split
  · next empty => simp [empty]
  · next filled =>
    rw [mapM_eq_some_iff]
    simp only [target?_singleton_eq_some_iff]
    exact (and_iff_right filled).symm

/-- Digits are read exactly if there is a character and each is a digit. -/
theorem exists_digitTargets?_iff : (∃ targets, digitTargets? value = some targets) ↔
    value ≠ [] ∧ ∀ c ∈ value, c.isDigit = true := by
  rw [digitTargets?]
  split
  · next empty => simp [empty]
  · next filled =>
    rw [exists_mapM_eq_some_iff]
    simp only [exists_target?_singleton_iff]
    exact (and_iff_right filled).symm

/-- Without a colon there is no format. -/
theorem format?_eq_none (absent : ':' ∉ value) : format? value = none := by
  have all : value.dropWhile (· ≠ ':') = [] := by
    rw [List.dropWhile_eq_nil_iff]
    intro c listed
    rw [decide_eq_true_eq]
    rintro rfl
    exact absent listed
  have nothing : [':'].isPrefixOf? [] = none := rfl
  rw [format?, all, nothing]
  cases target? (Text.trim (value.takeWhile (· ≠ ':'))) with
  | none => rfl
  | some target => rfl

/-- A format is bound to a target exactly if the value has a colon, the text before the first one names the
target, and the text behind it is not blank. -/
theorem format?_eq_some_iff : format? value = some (target, name) ↔ ∃ front back : Text,
    value = front ++ ':' :: back ∧ ':' ∉ front ∧ front.trim.DenotesUnsigned target.toNat ∧ name = back.trim ∧
      name ≠ [] := by
  have parts (front back : Text) (first : ':' ∉ front) :
      format? (front ++ ':' :: back) = some (target, name) ↔
      front.trim.DenotesUnsigned target.toNat ∧ name = back.trim ∧ name ≠ [] := by
    rw [format?_append_cons first, Option.bind_eq_some_iff]
    by_cases blank : back.trim = []
    · simp only [blank, if_true]
      constructor
      · rintro ⟨_, _, none⟩
        cases none
      · rintro ⟨_, empty, filled⟩
        contradiction
    · simp only [blank, if_false, Option.some.injEq, Prod.mk.injEq, ← target?_eq_some_iff]
      constructor
      · rintro ⟨_, named, rfl, rfl⟩
        exact ⟨named, rfl, blank⟩
      · rintro ⟨named, rfl, _⟩
        exact ⟨target, named, rfl, rfl⟩
  constructor
  · intro bound
    have colon : ':' ∈ value := by
      by_contra absent
      rw [format?_eq_none absent] at bound
      cases bound
    obtain ⟨front, back, rfl, first⟩ := List.eq_append_cons_of_mem colon
    exact ⟨front, back, rfl, first, (parts front back first).1 bound⟩
  · rintro ⟨front, back, rfl, first, named⟩
    exact (parts front back first).2 named

/-- A format is read exactly if what stands before the first colon denotes a number of 32 bits, and what stands
behind it is not blank. -/
theorem exists_format?_iff : (∃ entry, format? value = some entry) ↔ ∃ front back : Text,
    value = front ++ ':' :: back ∧ ':' ∉ front ∧ (∃ n ≤ 4294967295, front.trim.DenotesUnsigned n) ∧
      back.trim ≠ [] := by
  simp only [← exists_target?_iff, target?_eq_some_iff, Prod.exists, format?_eq_some_iff]
  constructor
  · rintro ⟨target, name, front, back, split, first, named, rfl, filled⟩
    exact ⟨front, back, split, first, ⟨target, named⟩, filled⟩
  · rintro ⟨front, back, split, first, ⟨target, named⟩, filled⟩
    exact ⟨target, back.trim, front, back, split, first, named, rfl, filled⟩

/-- A directive with the key for lists sets a list, if it is accepted, and no other directive does. -/
theorem exists_renderTargets_iff {c : Comment} :
    (∃ targets, ofComment? c = some (.renderTargets targets)) ↔ c.key = .renderTargets ∧ c.IsAccepted := by
  constructor
  · rintro ⟨targets, made⟩
    exact ⟨(key_of_ofComment? made).symm, _, made⟩
  · rintro ⟨keyed, s, made⟩
    have kind : s.key = .renderTargets := (key_of_ofComment? made).trans keyed
    cases s with
    | renderTargets targets => exact ⟨targets, made⟩
    | _ => cases kind

/-- There is no list of targets exactly if no directive for one is accepted. -/
theorem last?_renderTargets?_eq_none_iff {found : List Comment} :
    last? renderTargets? (found.filterMap ofComment?) = none ↔
      ¬ ∃ c ∈ found, c.key = .renderTargets ∧ c.IsAccepted := by
  have sets (c : Comment) : (ofComment? c).bind renderTargets? = none ↔
      ¬ (c.key = .renderTargets ∧ c.IsAccepted) := by
    rw [← exists_renderTargets_iff, Option.eq_none_iff_forall_ne_some, not_exists]
    refine forall_congr' fun targets => not_congr ?_
    rw [Option.bind_eq_some_iff]
    simp only [renderTargets?_eq_some_iff]
    exact ⟨fun ⟨_, made, same⟩ => same ▸ made, fun made => ⟨_, made, rfl⟩⟩
  rw [last?, List.getLast?_eq_none_iff, List.filterMap_filterMap, List.filterMap_eq_nil_iff]
  simp only [sets, not_exists, not_and]

end Setting

namespace Draft

variable (draft : Draft) {targets : List UInt32}

/-- A list of targets that is put in is the targets in the end. -/
theorem finish_put_renderTargets (targets : List UInt32) :
    (draft.put (.renderTargets targets)).finish =
      { draft.finish with targets := targets, namesTargets := true } := by
  rw [finish, finish]
  cases draft.listed?.or draft.digits? <;> rfl

/-- Targets that are put in as digits are the targets in the end, if none are in a list. -/
theorem finish_put_drawBuffers (unlisted : draft.listed? = none) (targets : List UInt32) :
    (draft.put (.drawBuffers targets)).finish =
      { draft.finish with targets := targets, namesTargets := true } := by
  rw [finish, finish, put, unlisted, Option.none_or, Option.none_or]
  cases draft.digits? <;> rfl

/-- Behind a list of targets, digits change nothing. -/
theorem finish_put_drawBuffers_of_listed (listed : draft.listed?.isSome = true) (targets : List UInt32) :
    (draft.put (.drawBuffers targets)).finish = draft.finish := by
  obtain ⟨named, same⟩ := Option.isSome_iff_exists.1 listed
  rw [finish, finish, put, same]
  rfl

/-- A format that is put in is among the formats in the end. -/
theorem finish_put_format (target : UInt32) (name : Text) : (draft.put (.format target name)).finish =
    { draft.finish with formats := Setting.putFormat target name draft.finish.formats } := by
  rw [finish, finish, put]
  cases draft.listed?.or draft.digits? <;> rfl

end Draft

namespace RenderState

/-- The state that directives ask for, in the order in which they are found. -/
def ofComments (found : List Comment) : RenderState := ofSettings (found.filterMap Setting.ofComment?)

/-- What a directive changes that is found behind others and accepted. -/
theorem ofComments_concat {before : List Comment} {c : Comment} {s : Setting}
    (made : Setting.ofComment? c = some s) :
    ofComments (before ++ [c]) = ((Draft.ofLast (before.filterMap Setting.ofComment?)).put s).finish := by
  rw [ofComments, ofSettings, Draft.foldl_put, List.filterMap_append, List.filterMap_cons_some made,
    List.filterMap_nil, Draft.ofLast_append_singleton]

/-- What directives ask for is what is left of them in the end. -/
theorem ofComments_eq (before : List Comment) :
    ofComments before = (Draft.ofLast (before.filterMap Setting.ofComment?)).finish := by
  rw [ofComments, ofSettings, Draft.foldl_put]

/-- How the three directives that name targets are read, whatever their value is. -/
structure IsAllOrNothing (value : Text) : Prop where
  /-- A list of targets is accepted exactly if each piece between commas denotes a number of 32 bits, blanks
  around it apart. -/
  listed_iff : Comment.IsAccepted ⟨.renderTargets, value⟩ ↔
    ∀ piece ∈ value.splitOn ',', ∃ n ≤ 4294967295, (Text.trim piece).DenotesUnsigned n
  /-- Then these numbers are the targets, in order, and nothing else changes. -/
  listed : Comment.IsAccepted ⟨.renderTargets, value⟩ → ∃ targets : List UInt32,
    List.Forall₂ (fun piece target => (Text.trim piece).DenotesUnsigned target.toNat) (value.splitOn ',')
      targets ∧
    ∀ before, ofComments (before ++ [⟨.renderTargets, value⟩]) =
      { ofComments before with targets := targets, namesTargets := true }
  /-- Targets as digits are accepted exactly if there is a character and each is an ASCII digit. -/
  digits_iff : Comment.IsAccepted ⟨.drawBuffers, value⟩ ↔ value ≠ [] ∧ ∀ c ∈ value, c.isDigit = true
  /-- Then the digits are the targets, in order, unless there is a list of targets, and nothing else
  changes. -/
  digits : Comment.IsAccepted ⟨.drawBuffers, value⟩ → ∃ targets : List UInt32,
    List.Forall₂ (fun c target => target.toNat = c.toNat - '0'.toNat) value targets ∧
    ∀ before, ((∃ c ∈ before, c.key = .renderTargets ∧ c.IsAccepted) →
        ofComments (before ++ [⟨.drawBuffers, value⟩]) = ofComments before) ∧
      ((¬ ∃ c ∈ before, c.key = .renderTargets ∧ c.IsAccepted) →
        ofComments (before ++ [⟨.drawBuffers, value⟩]) =
          { ofComments before with targets := targets, namesTargets := true })
  /-- A format is accepted exactly if there is a colon, what stands before the first one denotes a number of 32
  bits, and what stands behind it is not blank. -/
  format_iff : Comment.IsAccepted ⟨.format, value⟩ ↔ ∃ front back : Text, value = front ++ ':' :: back ∧
    ':' ∉ front ∧ (∃ n ≤ 4294967295, front.trim.DenotesUnsigned n) ∧ back.trim ≠ []
  /-- Then it is the format of that target, and nothing else changes. -/
  format : Comment.IsAccepted ⟨.format, value⟩ → ∃ (front back : Text) (target : UInt32),
    value = front ++ ':' :: back ∧ ':' ∉ front ∧ front.trim.DenotesUnsigned target.toNat ∧
    ∀ before, ∃ formats,
      ofComments (before ++ [⟨.format, value⟩]) = { ofComments before with formats := formats } ∧
      ∀ other, formats.lookup other =
        if other = target then some back.trim else (ofComments before).formats.lookup other
  /-- A directive that is not accepted, whatever its key is, might as well not be there. -/
  refused : ∀ key, ¬ Comment.IsAccepted ⟨key, value⟩ → ∀ before behind,
    ofComments (before ++ ⟨key, value⟩ :: behind) = ofComments (before ++ behind)

/-- What sources ask for is what the directives found in them ask for, and those that name targets are each read
as a whole or not at all. -/
theorem isAllOrNothing :
    (∀ sources, ofSources sources = ofComments (comments sources)) ∧ ∀ value, IsAllOrNothing value := by
  refine ⟨fun _ => rfl, fun value => ?_⟩
  have listed := Comment.isAccepted_iff (c := ⟨.renderTargets, value⟩) rfl
  have digits := Comment.isAccepted_iff (c := ⟨.drawBuffers, value⟩) rfl
  have format := Comment.isAccepted_iff (c := ⟨.format, value⟩) rfl
  constructor
  case listed_iff => exact listed.trans Setting.exists_listedTargets?_iff
  case listed =>
    intro accepted
    obtain ⟨targets, read⟩ := listed.1 accepted
    refine ⟨targets, Setting.listedTargets?_eq_some_iff.1 read, fun before => ?_⟩
    have made : Setting.ofComment? ⟨.renderTargets, value⟩ = some (.renderTargets targets) :=
      congrArg (Option.map _) read
    rw [ofComments_concat made, Draft.finish_put_renderTargets, ← ofComments_eq]
  case digits_iff => exact digits.trans Setting.exists_digitTargets?_iff
  case digits =>
    intro accepted
    obtain ⟨targets, read⟩ := digits.1 accepted
    obtain ⟨_, each⟩ := Setting.digitTargets?_eq_some_iff.1 read
    refine ⟨targets, each.imp fun _ _ named => named.2, fun before => ?_⟩
    have made : Setting.ofComment? ⟨.drawBuffers, value⟩ = some (.drawBuffers targets) :=
      congrArg (Option.map _) read
    have unlisted : Setting.last? Setting.renderTargets? (before.filterMap Setting.ofComment?) = none ↔
        ¬ ∃ c ∈ before, c.key = .renderTargets ∧ c.IsAccepted := Setting.last?_renderTargets?_eq_none_iff
    rw [ofComments_concat made, ofComments_eq before]
    constructor
    · intro named
      have isSome : (Draft.ofLast (before.filterMap Setting.ofComment?)).listed?.isSome = true :=
        Option.isSome_iff_ne_none.2 fun none => unlisted.1 none named
      exact Draft.finish_put_drawBuffers_of_listed _ isSome targets
    · intro none
      exact Draft.finish_put_drawBuffers _ (unlisted.2 none) targets
  case format_iff => exact format.trans Setting.exists_format?_iff
  case format =>
    intro accepted
    obtain ⟨⟨target, name⟩, read⟩ := format.1 accepted
    obtain ⟨front, back, split, first, named, rfl, _⟩ := Setting.format?_eq_some_iff.1 read
    have made : Setting.ofComment? ⟨.format, value⟩ = some (.format target back.trim) :=
      congrArg (Option.map _) read
    refine ⟨front, back, target, split, first, named, fun before => ?_⟩
    refine ⟨Setting.putFormat target back.trim (ofComments before).formats, ?_, fun other => ?_⟩
    · rw [ofComments_concat made, Draft.finish_put_format, ← ofComments_eq]
    · exact Setting.lookup_putFormat target other back.trim _
  case refused =>
    intro key refused before behind
    have none : Setting.ofComment? ⟨key, value⟩ = none :=
      Option.eq_none_iff_forall_ne_some.2 fun s made => refused ⟨s, made⟩
    rw [ofComments, ofComments, List.filterMap_append, List.filterMap_append, List.filterMap_cons_none none]

/-- A sign and leading zeros do not matter, an empty piece and a number of 33 bits do. -/
example : ofSources ["/*RENDERTARGETS: +007 ,4294967295*//*RENDERTARGETS:1,*//*DRAWBUFFERS:12*/".toList,
      "/*RENDERTARGETS:1,4294967296*//*FORMAT: 2 : a:b *//*FORMAT:3:*/".toList] =
    { targets := [7, 4294967295], namesTargets := true, formats := [(2, "a:b".toList)] } := by
  decide +kernel

end RenderState

end ShaderBundle
