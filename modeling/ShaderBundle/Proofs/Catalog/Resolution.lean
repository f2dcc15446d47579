import ShaderBundle.Catalog.Basic
import Mathlib.Data.List.Basic
/-!
# Where a program is resolved to

A program that a catalog lacks is looked for along the chain of its substitutes, twice and by two rules: what
the bundle provides counts from the program itself on, what is built in counts behind the program only, and
not for every program. The first of the two comes first, so a bundle's own program is taken before a built-in
one wherever it stands in the chain. A catalog that holds more resolves as much, and never further along the
chain.
-/

namespace ShaderBundle

namespace Program

/-- A program is the first of a row for which something holds. -/
def IsFirst (holds : Program → Prop) (row : List Program) (p : Program) : Prop :=
  ∃ before behind, row = before ++ p :: behind ∧ holds p ∧ ∀ q ∈ before, ¬ holds q

variable {holds : Program → Prop} {row : List Program} {p q : Program}

/-- The first of a row for which something holds is in the row. -/
theorem IsFirst.mem (first : IsFirst holds row p) : p ∈ row := by
  obtain ⟨before, behind, rfl, _⟩ := first
  exact List.mem_append_right before List.mem_cons_self

/-- It holds for the first of a row for which it holds. -/
theorem IsFirst.held (first : IsFirst holds row p) : holds p := by
  obtain ⟨_, _, _, held, _⟩ := first
  exact held

/-- A search along a row stops at the first for which it finds something. -/
theorem findSome?_eq_some_iff_isFirst {α : Type} {find? : Program → Option α} {found : α} :
    row.findSome? find? = some found ↔
      ∃ p, IsFirst (fun q => (find? q).isSome = true) row p ∧ find? p = some found := by
  rw [List.findSome?_eq_some_iff]
  constructor
  · rintro ⟨before, p, behind, split, here, passed⟩
    have found : (find? p).isSome = true := Option.isSome_of_eq_some here
    refine ⟨p, ⟨before, behind, split, found, fun q listed => ?_⟩, here⟩
    exact Option.not_isSome_iff_eq_none.2 (passed q listed)
  · rintro ⟨p, ⟨before, behind, split, _, passed⟩, here⟩
    refine ⟨before, p, behind, split, here, fun q listed => ?_⟩
    exact Option.not_isSome_iff_eq_none.1 (passed q listed)

/-- If something holds for one of a row, there is a first for which it holds, which does not come later. -/
theorem exists_isFirst (holds : Program → Prop) (listed : p ∈ row) (held : holds p) :
    ∃ q, IsFirst holds row q ∧ row.idxOf q ≤ row.idxOf p := by
  induction row with
  | nil => exact absurd listed List.not_mem_nil
  | cons first rest ih =>
    by_cases here : holds first
    · refine ⟨first, ⟨[], rest, rfl, here, by simp⟩, ?_⟩
      rw [List.idxOf_cons_self]
      exact Nat.zero_le _
    · have other : p ≠ first := by
        rintro rfl
        exact here held
      obtain ⟨q, ⟨before, behind, split, found, passed⟩, order⟩ :=
        ih ((List.mem_cons.1 listed).resolve_left other)
      have other' : q ≠ first := by
        rintro rfl
        exact here found
      refine ⟨q, ⟨first :: before, behind, by rw [split, List.cons_append], found, ?_⟩, ?_⟩
      · exact List.forall_mem_cons.2 ⟨here, passed⟩
      · rw [List.idxOf_cons_ne _ (Ne.symm other'), List.idxOf_cons_ne _ (Ne.symm other)]
        exact Nat.succ_le_succ order

/-- The chain goes from a program to its substitute, and on along the chain of that one. -/
theorem chain_eq (p : Program) : p.chain = p :: (p.substitute?.map chain).getD [] := by
  cases p <;> rfl

/-- Two programs have a built-in form. -/
theorem isSome_builtin?_iff : p.builtin?.isSome = true ↔ p = .basic ∨ p = .textured := by
  cases p <;> simp [builtin?]

/-- Which programs may be replaced by a built-in one. -/
theorem mayBeReplaced_eq_true_iff :
    p.mayBeReplaced = true ↔ p ≠ .basic ∧ p ≠ .final ∧ p.family ≠ .shadow := by
  cases p <;> decide

/-- The built-in program that stands in for another: that of the first behind it in its chain that has a
built-in form. -/
def IsStandIn (p : Program) (b : Builtin) : Prop :=
  ∃ q, IsFirst (fun q => q = .basic ∨ q = .textured) p.chain.tail q ∧ q.builtin? = some b

/-- A program is replaced by what stands in for it, if it may be replaced. -/
theorem replacement?_eq_ok_some_iff {b : Builtin} :
    p.replacement? = .ok (some b) ↔ p.mayBeReplaced = true ∧ p.IsStandIn b := by
  have walk : p.chain.tail.findSome? builtin? = some b ↔ p.IsStandIn b := by
    rw [findSome?_eq_some_iff_isFirst, IsStandIn]
    simp only [isSome_builtin?_iff]
  rw [← walk, replacement?]
  cases p.mayBeReplaced with
  | false => simp
  | true => cases p.chain.tail.findSome? builtin? <;> simp

end Program

namespace Catalog

open Program (IsFirst)

variable {c other : Catalog} {p : Program}

/-- A catalog provides, for a program, the first along its chain that it holds. -/
theorem withSubstitute?_eq_some_iff {own : Program} {shader : Shader} :
    c.withSubstitute? p = some (own, shader) ↔
      IsFirst (fun q => c.contains q = true) p.chain own ∧ c.get? own = some shader := by
  rw [withSubstitute?, Program.findSome?_eq_some_iff_isFirst]
  simp only [Option.isSome_map, contains]
  constructor
  · rintro ⟨q, first, here⟩
    obtain ⟨held, got, same⟩ := Option.map_eq_some_iff.1 here
    cases same
    exact ⟨first, got⟩
  · rintro ⟨first, got⟩
    exact ⟨own, first, by rw [got, Option.map_some]⟩

/-- A catalog provides nothing for a program exactly if it holds none of its chain. -/
theorem withSubstitute?_eq_none_iff :
    c.withSubstitute? p = none ↔ ∀ q ∈ p.chain, ¬ c.contains q = true := by
  rw [withSubstitute?, List.findSome?_eq_none_iff]
  simp only [Option.map_eq_none_iff, contains, Option.not_isSome_iff_eq_none]

/-- The bundle's own program comes before a built-in one. -/
theorem value_resolve (c : Catalog) (p : Program) :
    (c.resolve p).value = ((c.withSubstitute? p).map fun found => .provided found.1 found.2).or
      (p.replacement?.toOption.join.map .builtin) := by
  rw [resolve]
  cases c.withSubstitute? p with
  | some found => rfl
  | none => rw [Journaled.value_bind, Journaled.value_pure, Program.value_standIn?, Option.map_none, Option.none_or]

/-- A program is resolved to one of the bundle exactly if the catalog provides that one. -/
theorem resolve_eq_provided_iff {own : Program} {shader : Shader} :
    (c.resolve p).value = some (.provided own shader) ↔ c.withSubstitute? p = some (own, shader) := by
  rw [value_resolve, Option.or_eq_some_iff]
  simp

/-- A program is resolved to a built-in one exactly if the catalog provides none and that one replaces it. -/
theorem resolve_eq_builtin_iff {b : Builtin} :
    (c.resolve p).value = some (.builtin b) ↔
      c.withSubstitute? p = none ∧ p.replacement? = .ok (some b) := by
  rw [value_resolve, Option.or_eq_some_iff]
  cases p.replacement? <;> simp [Except.toOption]

/-- A program is resolved to nothing exactly if the catalog provides none and nothing replaces it. -/
theorem resolve_eq_none_iff :
    (c.resolve p).value = none ↔ c.withSubstitute? p = none ∧ ¬ ∃ b, p.replacement? = .ok (some b) := by
  rw [value_resolve, Option.or_eq_none_iff]
  cases p.replacement? with
  | error cause => simp [Except.toOption]
  | ok builtin? => cases builtin? <;> simp [Except.toOption]

/-- What a program is resolved to, by what the catalog holds. -/
structure Resolves (c : Catalog) (p : Program) : Prop where
  /-- The chain is the program, followed by the chain of its substitute. -/
  chain_eq : p.chain = p :: (p.substitute?.map Program.chain).getD []
  /-- A program of the bundle is the answer exactly if it is the first along the chain that the catalog
  holds. -/
  provided_iff : ∀ own shader, (c.resolve p).value = some (.provided own shader) ↔
    IsFirst (fun q => c.contains q = true) p.chain own ∧ c.get? own = some shader
  /-- A built-in program is the answer exactly if the catalog holds none of the chain, the program may be
  replaced, and that built-in one stands in for it. -/
  builtin_iff : ∀ b, (c.resolve p).value = some (.builtin b) ↔
    (∀ q ∈ p.chain, ¬ c.contains q = true) ∧ (p ≠ .basic ∧ p ≠ .final ∧ p.family ≠ .shadow) ∧ p.IsStandIn b
  /-- There is no answer exactly if the catalog holds none of the chain, and the program may not be replaced or
  none behind it has a built-in form. -/
  none_iff : (c.resolve p).value = none ↔ (∀ q ∈ p.chain, ¬ c.contains q = true) ∧
    ¬ ((p ≠ .basic ∧ p ≠ .final ∧ p.family ≠ .shadow) ∧ ∃ q ∈ p.chain.tail, q = .basic ∨ q = .textured)
  /-- The chains of distant terrain end without a built-in form. -/
  distant : p.family = .distantHorizons → p.chain.getLast? = some .dhTerrain ∧
    ((∀ q ∈ p.chain, ¬ c.contains q = true) → (c.resolve p).value = none)

/-- Something stands in for a program if a program behind it has a built-in form. -/
theorem exists_isStandIn_iff : (∃ b, p.IsStandIn b) ↔ ∃ q ∈ p.chain.tail, q = .basic ∨ q = .textured := by
  constructor
  · rintro ⟨b, q, ⟨before, behind, split, either, _⟩, _⟩
    exact ⟨q, by rw [split]; simp, either⟩
  · rintro ⟨q, listed, either⟩
    obtain ⟨first, isFirst, _⟩ :=
      Program.exists_isFirst (fun q => q = .basic ∨ q = .textured) listed either
    obtain ⟨b, built⟩ := Option.isSome_iff_exists.1 (Program.isSome_builtin?_iff.2 isFirst.held)
    exact ⟨b, first, isFirst, built⟩

/-- Every program is resolved so, whatever the catalog holds. -/
theorem resolves (c : Catalog) (p : Program) : c.Resolves p := by
  have none_iff : (c.resolve p).value = none ↔ (∀ q ∈ p.chain, ¬ c.contains q = true) ∧
      ¬ ((p ≠ .basic ∧ p ≠ .final ∧ p.family ≠ .shadow) ∧ ∃ q ∈ p.chain.tail, q = .basic ∨ q = .textured) := by
    rw [resolve_eq_none_iff, withSubstitute?_eq_none_iff]
    simp only [Program.replacement?_eq_ok_some_iff, exists_and_left, exists_isStandIn_iff,
      Program.mayBeReplaced_eq_true_iff]
  constructor
  case chain_eq => exact p.chain_eq
  case provided_iff =>
    intro own shader
    rw [resolve_eq_provided_iff, withSubstitute?_eq_some_iff]
  case builtin_iff =>
    intro b
    rw [resolve_eq_builtin_iff, withSubstitute?_eq_none_iff, Program.replacement?_eq_ok_some_iff,
      Program.mayBeReplaced_eq_true_iff]
  case none_iff => exact none_iff
  case distant =>
    intro distant
    have ends : p.chain.getLast? = some .dhTerrain ∧ ¬ ∃ q ∈ p.chain.tail, q = .basic ∨ q = .textured := by
      revert distant
      cases p <;> decide
    exact ⟨ends.1, fun lacks => none_iff.2 ⟨lacks, fun replaced => ends.2 replaced.2⟩⟩

/-- A catalog that holds more provides a program if the other does, and one that comes no later in the chain. -/
theorem exists_withSubstitute? (more : ∀ q, c.contains q = true → other.contains q = true) {own : Program}
    {shader : Shader} (provided : c.withSubstitute? p = some (own, shader)) :
    ∃ nearer shader', other.withSubstitute? p = some (nearer, shader') ∧
      p.chain.idxOf nearer ≤ p.chain.idxOf own := by
  obtain ⟨first, _⟩ := withSubstitute?_eq_some_iff.1 provided
  have held : other.contains own = true := more own first.held
  obtain ⟨nearer, first', order⟩ :=
    Program.exists_isFirst (fun q => other.contains q = true) first.mem held
  obtain ⟨shader', got⟩ := Option.isSome_iff_exists.1 first'.held
  exact ⟨nearer, shader', withSubstitute?_eq_some_iff.2 ⟨first', got⟩, order⟩

/-- Every program is resolved by what the catalog holds of its chain, and by the built-in programs behind it
where that is nothing. A catalog that holds more resolves whatever the other resolves, and what the other
provides itself it provides as well, from no later in the chain. -/
theorem resolve_resolves_mono (c : Catalog) (p : Program) :
    c.Resolves p ∧ ∀ other : Catalog, (∀ q, c.contains q = true → other.contains q = true) →
      ((c.resolve p).value ≠ none → (other.resolve p).value ≠ none) ∧
      ∀ own shader, (c.resolve p).value = some (.provided own shader) →
        ∃ nearer shader', (other.resolve p).value = some (.provided nearer shader') ∧
          p.chain.idxOf nearer ≤ p.chain.idxOf own := by
  refine ⟨resolves c p, fun other more => ?_⟩
  have provides (own : Program) (shader : Shader)
      (provided : (c.resolve p).value = some (.provided own shader)) :
      ∃ nearer shader', (other.resolve p).value = some (.provided nearer shader') ∧
        p.chain.idxOf nearer ≤ p.chain.idxOf own := by
    obtain ⟨nearer, shader', provided', order⟩ :=
      exists_withSubstitute? more (resolve_eq_provided_iff.1 provided)
    exact ⟨nearer, shader', resolve_eq_provided_iff.2 provided', order⟩
  refine ⟨fun answered => ?_, provides⟩
  obtain ⟨resolution, answer⟩ := Option.ne_none_iff_exists'.1 answered
  cases resolution with
  | provided own shader =>
    obtain ⟨nearer, shader', answer', _⟩ := provides own shader answer
    rw [answer']
    exact Option.some_ne_none _
  | builtin b =>
    -- what is built in does not depend on the catalog; the larger one may provide something before that
    have replaced := (resolve_eq_builtin_iff.1 answer).2
    intro unanswered
    exact (resolve_eq_none_iff.1 unanswered).2 ⟨b, replaced⟩

/-- The catalog with one program alone, and the one with another program besides. -/
theorem resolve_resolves_mono_terrain :
    let shader : Shader := { name := [], vertex := ['v'], pixel := ['p'] }
    let c : Catalog := ⟨[], [(.textured, shader)], []⟩
    let other : Catalog := ⟨[], [(.textured, shader), (.terrain, shader)], []⟩
    (∀ q, c.contains q = true → other.contains q = true) ∧
      (c.resolve .terrainCutout).value = some (.provided .textured shader) ∧
      ∃ nearer shader', (other.resolve .terrainCutout).value = some (.provided nearer shader') ∧
        Program.terrainCutout.chain.idxOf nearer ≤ Program.terrainCutout.chain.idxOf .textured := by
  intro shader c other
  have more : ∀ q, c.contains q = true → other.contains q = true := by
    intro q
    cases q <;> decide
  have answer : (c.resolve .terrainCutout).value = some (.provided .textured shader) := rfl
  exact ⟨more, answer, ((resolve_resolves_mono c .terrainCutout).2 other more).2 .textured shader answer⟩

end Catalog

end ShaderBundle
