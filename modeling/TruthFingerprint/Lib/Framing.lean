import Mathlib
import TruthFingerprint.Lib.Sha256

/-!
# Framing

A list is written as the concatenation of its frames. When no frame continues another, the
concatenation determines the list (`Framing.flatMap_injective`). A body after its length in a fixed
number of bytes is such a frame (`Framing.prefixFree_sized`).
-/

namespace Framing

variable {α β : Type*} {f : α → List β} {good : α → Prop} {l l' : List α}

/-- A frame at the beginning of a list is the only one there. -/
def PrefixFree (good : α → Prop) (f : α → List β) : Prop :=
  ∀ a b s t, good a → good b → f a ++ s = f b ++ t → a = b

theorem PrefixFree.flatMap_injective (h : PrefixFree good f) (hf : ∀ a, good a → f a ≠ [])
    (hl : ∀ a ∈ l, good a) (hl' : ∀ a ∈ l', good a) (heq : l.flatMap f = l'.flatMap f) :
    l = l' := by
  induction l generalizing l' with
  | nil =>
    cases l' with
    | nil => rfl
    | cons b l' =>
      rw [List.flatMap_nil, List.flatMap_cons] at heq
      exact absurd (List.append_eq_nil_iff.mp heq.symm).1 (hf b (hl' b List.mem_cons_self))
  | cons a l ih =>
    obtain ⟨ha, hl⟩ := List.forall_mem_cons.mp hl
    cases l' with
    | nil =>
      rw [List.flatMap_nil, List.flatMap_cons] at heq
      exact absurd (List.append_eq_nil_iff.mp heq).1 (hf a ha)
    | cons b l' =>
      obtain ⟨hb, hrest⟩ := List.forall_mem_cons.mp hl'
      rw [List.flatMap_cons, List.flatMap_cons] at heq
      obtain rfl := h a b _ _ ha hb heq
      exact congrArg (List.cons a) (ih hl hrest (List.append_cancel_left heq))

/-- A head of a fixed length that determines the length of the body -/
theorem prefixFree_sized {head : ℕ → List β} {body : α → List β} {width : ℕ} {bound : ℕ}
    (hwidth : ∀ n, (head n).length = width)
    (hhead : ∀ m n, m < bound → n < bound → head m = head n → m = n)
    (hbody : Function.Injective body) :
    PrefixFree (fun a => (body a).length < bound) fun a => head (body a).length ++ body a := by
  intro a b s t ha hb heq
  rw [List.append_assoc, List.append_assoc] at heq
  have hsize : (body a).length = (body b).length :=
    hhead _ _ ha hb (List.append_inj_left heq ((hwidth _).trans (hwidth _).symm))
  have hrest := List.append_inj_right heq ((hwidth _).trans (hwidth _).symm)
  exact hbody (List.append_inj_left hrest hsize)

/-! ## Big-endian lengths -/

open Sha256 (bigEndian)

theorem length_bigEndian (k n : ℕ) : (bigEndian k n).length = k := by
  induction k with
  | zero => rfl
  | succ k ih => rw [bigEndian, List.length_cons, ih]

/-- The bytes of a number are those of its last digits. -/
theorem bigEndian_mod (k n : ℕ) : bigEndian k (n % 2 ^ (8 * k)) = bigEndian k n := by
  suffices h : ∀ j, k ≤ j → bigEndian k (n % 2 ^ (8 * j)) = bigEndian k n from h k le_rfl
  induction k with
  | zero => exact fun _ _ => rfl
  | succ k ih =>
    intro j hj
    have hdigit : n % 2 ^ (8 * j) / 2 ^ (8 * k) % 2 ^ 8 = n / 2 ^ (8 * k) % 2 ^ 8 := by
      have hpow : 2 ^ (8 * j) = 2 ^ (8 * k) * (2 ^ 8 * 2 ^ (8 * (j - k - 1))) := by
        rw [← pow_add, ← pow_add]
        congr 1
        omega
      rw [hpow, Nat.mod_mul_right_div_self, Nat.mod_mul_right_mod]
    rw [bigEndian, bigEndian, hdigit, ih j (by omega)]

theorem bigEndian_injective {k m n : ℕ} (hm : m < 2 ^ (8 * k)) (hn : n < 2 ^ (8 * k))
    (h : bigEndian k m = bigEndian k n) : m = n := by
  induction k generalizing m n with
  | zero =>
    rw [Nat.lt_one_iff.mp hm, Nat.lt_one_iff.mp hn]
  | succ k ih =>
    rw [bigEndian, bigEndian, List.cons.injEq] at h
    obtain ⟨hfirst, hrest⟩ := h
    have hsmall {x : ℕ} (hx : x < 2 ^ (8 * (k + 1))) : x / 2 ^ (8 * k) < 2 ^ 8 := by
      refine Nat.div_lt_of_lt_mul ?_
      rwa [← pow_add]
    rw [Nat.mod_eq_of_lt (hsmall hm), Nat.mod_eq_of_lt (hsmall hn)] at hfirst
    have hmod : m % 2 ^ (8 * k) = n % 2 ^ (8 * k) :=
      ih (Nat.mod_lt _ (by positivity)) (Nat.mod_lt _ (by positivity))
        (by rw [bigEndian_mod, bigEndian_mod, hrest])
    rw [← Nat.div_add_mod m (2 ^ (8 * k)), ← Nat.div_add_mod n (2 ^ (8 * k)), hfirst, hmod]

theorem lt_of_mem_bigEndian {k n b : ℕ} (h : b ∈ bigEndian k n) : b < 2 ^ 8 := by
  induction k with
  | zero => exact absurd h List.not_mem_nil
  | succ k ih =>
    rcases List.mem_cons.mp h with rfl | h
    · exact Nat.mod_lt _ (by positivity)
    · exact ih h

/-- The bytes of a number are read back. -/
theorem map_toNat_bigEndian (k n : ℕ) :
    ((bigEndian k n).map UInt8.ofNat).map UInt8.toNat = bigEndian k n := by
  rw [List.map_map]
  refine (List.map_congr_left fun b hb => ?_).trans (List.map_id _)
  exact UInt8.toNat_ofNat_of_lt (lt_of_mem_bigEndian hb)

end Framing
