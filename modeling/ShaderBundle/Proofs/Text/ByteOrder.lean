import ShaderBundle.Text.Order
import Mathlib.Data.List.Lex
import Mathlib.Data.Char
/-!
# Byte order and code points

Texts are compared character by character. This is the order of their UTF-8 bytes: of two characters, the
smaller one has the smaller bytes, and neither has bytes that the other's begin with. Sorting by a key
that tells the elements apart keeps each of them once, in the strict order of the keys.
-/

namespace ShaderBundle

namespace Text

/-- The bytes of a text in UTF-8. -/
def utf8 (t : Text) : List UInt8 := t.flatMap String.utf8EncodeChar

/-- A number below 256 is the value of its byte. -/
theorem toNat_ofNat_byte {n : Nat} (small : n < 256) : (UInt8.ofNat n).toNat = n :=
  UInt8.toNat_ofNat_of_lt' small

/-- The bytes of the smaller of two characters are the smaller ones, whatever follows. -/
theorem utf8EncodeChar_append_lt {c d : Char} (less : c < d) (s t : List UInt8) :
    String.utf8EncodeChar c ++ s < String.utf8EncodeChar d ++ t := by
  have values : c.val.toNat < d.val.toNat := UInt32.lt_iff_toNat_lt.1 less
  have bound : d.val.toNat < 1114112 := by
    rcases d.valid with low | ⟨_, high⟩
    · exact Nat.lt_trans low (by decide)
    · exact high
  have twice (v : Nat) : v / 4096 = v / 64 / 64 := by omega
  have thrice (v : Nat) : v / 262144 = v / 64 / 64 / 64 := by omega
  unfold String.utf8EncodeChar
  generalize c.val.toNat = m at values
  generalize d.val.toNat = n at values bound
  dsimp only
  split_ifs <;>
    simp (disch := omega) only [List.cons_append, List.nil_append, List.cons_lt_cons_iff,
      UInt8.lt_iff_toNat_lt, ← UInt8.toNat_inj, toNat_ofNat_byte, twice, thrice] <;>
    omega

/-- A text that begins another, or is smaller at the first difference, has smaller bytes. -/
theorem utf8_lt_of_lt {s t : Text} (less : s < t) : s.utf8 < t.utf8 := by
  induction s generalizing t with
  | nil =>
    cases t with
    | nil => exact absurd less (List.lt_irrefl [])
    | cons d t =>
      rw [utf8, utf8, List.flatMap_nil, List.flatMap_cons]
      obtain ⟨byte, bytes, encoded⟩ := List.exists_cons_of_ne_nil (@String.utf8EncodeChar_ne_nil d)
      rw [encoded]
      exact List.nil_lt_cons byte _
  | cons c s ih =>
    cases t with
    | nil => exact absurd less (List.not_lt_nil _)
    | cons d t =>
      rw [utf8, utf8, List.flatMap_cons, List.flatMap_cons]
      rcases List.cons_lt_cons_iff.1 less with smaller | ⟨rfl, behind⟩
      · exact utf8EncodeChar_append_lt smaller _ _
      · exact List.append_left_lt (ih behind)

/-- The order of texts is the order of their bytes. -/
theorem utf8_lt_iff {s t : Text} : s.utf8 < t.utf8 ↔ s < t := by
  constructor
  · intro less
    rcases lt_trichotomy s t with smaller | rfl | greater
    · exact smaller
    · exact absurd less (List.lt_irrefl _)
    · exact absurd less (List.lt_asymm (utf8_lt_of_lt greater))
  · exact utf8_lt_of_lt

/-- The same for the order with equality. -/
theorem utf8_le_iff {s t : Text} : s.utf8 ≤ t.utf8 ↔ ¬ t < s := by
  rw [← List.not_lt, utf8_lt_iff]

end Text

section Sorting

variable {α : Type} {key : α → Text}

/-- Inserting an element adds it and nothing else. -/
theorem mem_insertByKey (telling : Function.Injective key) {x y : α} {l : List α} :
    y ∈ insertByKey key x l ↔ y = x ∨ y ∈ l := by
  induction l with
  | nil => simp [insertByKey]
  | cons z rest ih =>
    rw [insertByKey]
    split_ifs with less same
    · rw [List.mem_cons]
    · rw [telling same]
      simp
    · rw [List.mem_cons, ih, List.mem_cons]
      exact or_left_comm

/-- Inserting an element makes a list longer by one at most. -/
theorem length_insertByKey_le (key : α → Text) (x : α) (l : List α) :
    (insertByKey key x l).length ≤ l.length + 1 := by
  induction l with
  | nil => exact Nat.le_refl 1
  | cons y rest ih =>
    rw [insertByKey]
    split_ifs with less same
    · exact Nat.le_refl _
    · exact Nat.le_succ _
    · exact Nat.succ_le_succ ih

/-- Inserting an element keeps the order strict. -/
theorem pairwise_insertByKey (telling : Function.Injective key) {x : α} {l : List α}
    (ordered : l.Pairwise fun a b => key a < key b) :
    (insertByKey key x l).Pairwise fun a b => key a < key b := by
  induction l with
  | nil => exact List.pairwise_singleton _ x
  | cons z rest ih =>
    obtain ⟨first, behind⟩ := List.pairwise_cons.1 ordered
    rw [insertByKey]
    split_ifs with less same
    · refine List.pairwise_cons.2 ⟨?_, ordered⟩
      exact List.forall_mem_cons.2 ⟨less, fun y listed => lt_trans less (first y listed)⟩
    · exact ordered
    · refine List.pairwise_cons.2 ⟨fun y listed => ?_, ih behind⟩
      rcases (mem_insertByKey telling).1 listed with rfl | listed
      · exact lt_of_le_of_ne (not_lt.1 less) (Ne.symm same)
      · exact first y listed

/-- Sorting keeps each element. -/
theorem mem_sortByKey (telling : Function.Injective key) {y : α} {l : List α} :
    y ∈ sortByKey key l ↔ y ∈ l := by
  induction l with
  | nil => simp [sortByKey]
  | cons x rest ih =>
    rw [List.mem_cons, ← ih]
    exact mem_insertByKey telling

/-- Sorting makes a list no longer. -/
theorem length_sortByKey_le (key : α → Text) (l : List α) :
    (sortByKey key l).length ≤ l.length := by
  induction l with
  | nil => exact Nat.le_refl 0
  | cons x rest ih =>
    have inserted := length_insertByKey_le key x (sortByKey key rest)
    show (insertByKey key x (sortByKey key rest)).length ≤ rest.length + 1
    omega

/-- Sorting puts the elements in the strict order of their keys. -/
theorem pairwise_sortByKey (telling : Function.Injective key) (l : List α) :
    (sortByKey key l).Pairwise fun a b => key a < key b := by
  induction l with
  | nil => exact List.Pairwise.nil
  | cons x rest ih => exact pairwise_insertByKey telling ih

/-- Sorting depends on what is sorted, not on its order or on how often it comes. -/
theorem sortByKey_eq_of_mem_iff (telling : Function.Injective key) {l l' : List α}
    (same : ∀ y, y ∈ l ↔ y ∈ l') : sortByKey key l = sortByKey key l' := by
  have ordered := pairwise_sortByKey telling l
  have ordered' := pairwise_sortByKey telling l'
  have distinct {m : List α} (ordered : m.Pairwise fun a b => key a < key b) : m.Nodup := by
    refine ordered.imp fun {a b} less equal => ?_
    rw [equal] at less
    exact lt_irrefl _ less
  have permuted : (sortByKey key l).Perm (sortByKey key l') := by
    rw [List.perm_ext_iff_of_nodup (distinct ordered) (distinct ordered')]
    intro y
    rw [mem_sortByKey telling, mem_sortByKey telling]
    exact same y
  refine permuted.eq_of_pairwise (fun a b _ _ less greater => ?_) ordered ordered'
  exact absurd greater (lt_asymm less)

end Sorting

end ShaderBundle
