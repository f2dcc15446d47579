import ShaderBundle.Library.Basic
import Mathlib
/-!
# Loops

A loop goes round from one state to the next until a round comes to a result. It ends if there is a plan for
it: for each state a bound on the rounds that are left, which every round lowers, and the result that the
loop is on the way to, which no round changes.

What bounds the loops of this library is the weight of the files that they have not seen: a file is seen once,
and its lines weigh no less than the rounds that it takes to go through them.
-/

namespace ShaderBundle

/-- What a round of a loop comes to. -/
inductive Round (σ α : Type) where
  /-- The loop goes on from another state. -/
  | again (state : σ)
  /-- The loop ends. -/
  | done (result : α)

variable {σ α : Type} {round : σ → Round σ α}

/-- From a state, a loop ends with a result after so many rounds. -/
inductive EndsAfter (round : σ → Round σ α) : Nat → σ → α → Prop where
  /-- The loop ends here. -/
  | done {state : σ} {result : α} (ends : round state = .done result) : EndsAfter round 0 state result
  /-- The loop goes round, and ends from the next state. -/
  | again {n : Nat} {state next : σ} {result : α} (goes : round state = .again next)
      (rest : EndsAfter round n next result) : EndsAfter round (n + 1) state result

/-- What is said of a loop in advance. -/
structure Plan (σ α : Type) where
  /-- What holds of the states that the loop comes to. -/
  sound : σ → Prop
  /-- A bound on the rounds that are left. -/
  cost : σ → Nat
  /-- The result that the loop is on the way to. -/
  outcome : σ → α

namespace Plan

/-- A round goes by the plan. -/
def Allows (plan : Plan σ α) (state : σ) : Round σ α → Prop
  | .again next =>
    plan.sound next ∧ plan.cost next < plan.cost state ∧ plan.outcome next = plan.outcome state
  | .done result => result = plan.outcome state

/-- A loop of which every round goes by the plan ends as planned. -/
theorem exists_endsAfter (plan : Plan σ α)
    (allowed : ∀ state, plan.sound state → plan.Allows state (round state)) {state : σ}
    (sound : plan.sound state) :
    ∃ n ≤ plan.cost state, EndsAfter round n state (plan.outcome state) := by
  induction bound : plan.cost state using Nat.strong_induction_on generalizing state with
  | h cost ih =>
    have step := allowed state sound
    cases goes : round state with
    | done result =>
      rw [goes] at step
      have planned : result = plan.outcome state := step
      exact ⟨0, Nat.zero_le _, planned ▸ .done goes⟩
    | again next =>
      rw [goes] at step
      obtain ⟨sound', lower, same⟩ := step
      obtain ⟨n, few, rest⟩ := ih (plan.cost next) (bound ▸ lower) sound' rfl
      rw [same] at rest
      refine ⟨n + 1, ?_, .again goes rest⟩
      omega

end Plan

/-- The weight of the files that have not been seen. -/
def weightUnseen (weight : SourceFile → Nat) (files : List SourceFile) (seen : List Path) : Nat :=
  ((files.filter fun file => file.path ∉ seen).map weight).sum

variable {weight : SourceFile → Nat} {files : List SourceFile} {seen more : List Path}

/-- Seeing further files leaves no more weight. -/
theorem weightUnseen_le_of_subset (kept : seen ⊆ more) :
    weightUnseen weight files more ≤ weightUnseen weight files seen := by
  have fewer : (files.filter fun file => file.path ∉ more).Sublist
      (files.filter fun file => file.path ∉ seen) := by
    apply List.monotone_filter_right
    intro file fresh
    rw [decide_eq_true_eq] at fresh ⊢
    exact fun listed => fresh (kept listed)
  exact (fewer.map weight).sum_le_sum fun _ _ => Nat.zero_le _

/-- All files together weigh no less than those that have not been seen. -/
theorem weightUnseen_le (weight : SourceFile → Nat) (files : List SourceFile) (seen : List Path) :
    weightUnseen weight files seen ≤ (files.map weight).sum :=
  (List.filter_sublist.map weight).sum_le_sum fun _ _ => Nat.zero_le _

/-- Seeing a file for the first time takes its weight away. -/
theorem weightUnseen_cons_add_le (weight : SourceFile → Nat) {lib : Library} {path : Path}
    {file : SourceFile} (found : lib.find? path = some file) (fresh : path ∉ seen) :
    weightUnseen weight lib.files (path :: seen) + weight file ≤ weightUnseen weight lib.files seen := by
  obtain ⟨listed, lies⟩ := Library.mem_of_find?_eq_some found
  obtain ⟨before, behind, split⟩ := List.append_of_mem listed
  have left : weightUnseen weight before (path :: seen) ≤ weightUnseen weight before seen :=
    weightUnseen_le_of_subset (List.subset_cons_self path seen)
  have right : weightUnseen weight behind (path :: seen) ≤ weightUnseen weight behind seen :=
    weightUnseen_le_of_subset (List.subset_cons_self path seen)
  have now : decide (file.path ∉ path :: seen) = false := by simp [lies]
  have then' : decide (file.path ∉ seen) = true := by simp [lies, fresh]
  rw [split]
  simp only [weightUnseen, List.filter_append, List.filter_cons, now, then', List.map_append, List.map_cons,
    List.sum_append, List.sum_cons, if_true, Bool.false_eq_true, if_false] at left right ⊢
  omega

end ShaderBundle
