import Mathlib
import TruthFingerprint.Lib.Unicode

/-!
# Reading UTF-8

`scan` reads bytes as code points, byte by byte where they are not an encoding. Which code points
are allowed is a parameter: Go refuses surrogates, Python can let them pass. What `utf8` writes is
read back (`scan_utf8`).
-/

namespace Utf8

/-- What the first byte says: the number that it starts, how many bytes follow it, and the least
number that needs as many. -/
def lead (b : UInt8) : Option (Nat × Nat × Nat) :=
  let n := b.toNat
  if n < 0x80 then some (n, 0, 0)
  else if n < 0xc0 then none
  else if n < 0xe0 then some (n - 0xc0, 1, 0x80)
  else if n < 0xf0 then some (n - 0xe0, 2, 0x800)
  else if n < 0xf8 then some (n - 0xf0, 3, 0x10000)
  else none

def isTail (b : UInt8) : Bool := 0x80 ≤ b.toNat && b.toNat < 0xc0

/-- The number with six more bits of each byte. -/
def pack (n : Nat) (tails : Bytes) : Nat := tails.foldl (fun n b => n * 0x40 + (b.toNat - 0x80)) n

/-- The code point that a byte starts, and how many of the bytes after it belong to it. -/
def first (b : UInt8) (t : Bytes) : Option (CodePoint × Nat) :=
  match lead b with
  | none => none
  | some (n, size, least) =>
    if h : (t.take size).length = size ∧ (t.take size).all isTail ∧ least ≤ pack n (t.take size) ∧
        pack n (t.take size) < 0x110000 then some (⟨_, h.2.2.2⟩, size)
    else none

/-- The code points of bytes, none for a byte that starts no code point that is allowed. The number
counts the bytes that belong to the last code point. -/
def scan (allowed : CodePoint → Bool) : Nat → Bytes → List (Option CodePoint)
  | _, [] => []
  | skip + 1, _ :: t => scan allowed skip t
  | 0, b :: t =>
    match first b t with
    | none => none :: scan allowed 0 t
    | some (c, size) =>
      if allowed c then some c :: scan allowed size t else none :: scan allowed 0 t

theorem first_eq {b : UInt8} {tails t : Bytes} {c : CodePoint}
    (hlead : lead b = some (n, tails.length, least)) (htails : ∀ b ∈ tails, isTail b)
    (hpack : pack n tails = c.val) (hleast : least ≤ c.val) :
    first b (tails ++ t) = some (c, tails.length) := by
  have hc := c.isLt
  simp only [first, hlead, List.take_left', hpack]
  rw [dif_pos ⟨trivial, List.all_eq_true.mpr htails, hleast, hc⟩]

theorem isTail_ofNat (n : Nat) : isTail (.ofNat (0x80 + n % 0x40)) := by
  simp only [isTail, UInt8.toNat_ofNat', Bool.and_eq_true, decide_eq_true_eq]
  omega

/-- An encoding, as the first byte and the others. -/
theorem first_utf8 (c : CodePoint) (t : Bytes) :
    ∃ b tails, c.utf8 = b :: tails ∧ first b (tails ++ t) = some (c, tails.length) := by
  have hc := c.isLt
  simp only [CodePoint.utf8]
  split_ifs with h1 h2 h3
  · refine ⟨_, _, rfl, first_eq ?_ nofun rfl (Nat.zero_le c)⟩
    rw [lead, UInt8.toNat_ofNat', Nat.mod_eq_of_lt (by omega)]
    exact if_pos h1
  · refine ⟨_, _, rfl, first_eq (n := c.val / 0x40) ?_ ?_ ?_ (show 0x80 ≤ c.val by omega)⟩
    · rw [lead, UInt8.toNat_ofNat', Nat.mod_eq_of_lt (by omega)]
      simp only [show ¬0xc0 + c.val / 0x40 < 0x80 by omega, show 0xc0 + c.val / 0x40 < 0xe0 by omega,
        show ¬0xc0 + c.val / 0x40 < 0xc0 by omega, if_true, if_false, Nat.add_sub_cancel_left,
        List.length_singleton]
    · simp only [List.forall_mem_cons, isTail_ofNat, List.not_mem_nil, false_imp_iff, implies_true,
        and_self]
    · simp only [pack, List.foldl_cons, List.foldl_nil, UInt8.toNat_ofNat']
      omega
  · refine ⟨_, _, rfl, first_eq (n := c.val / 0x1000) ?_ ?_ ?_ (show 0x800 ≤ c.val by omega)⟩
    · rw [lead, UInt8.toNat_ofNat', Nat.mod_eq_of_lt (by omega)]
      simp only [show ¬0xe0 + c.val / 0x1000 < 0x80 by omega,
        show ¬0xe0 + c.val / 0x1000 < 0xc0 by omega, show ¬0xe0 + c.val / 0x1000 < 0xe0 by omega,
        show 0xe0 + c.val / 0x1000 < 0xf0 by omega, if_true, if_false, Nat.add_sub_cancel_left,
        List.length_cons, List.length_nil]
    · simp only [List.forall_mem_cons, isTail_ofNat, List.not_mem_nil, false_imp_iff, implies_true,
        and_self]
    · simp only [pack, List.foldl_cons, List.foldl_nil, UInt8.toNat_ofNat']
      omega
  · refine ⟨_, _, rfl, first_eq (n := c.val / 0x40000) ?_ ?_ ?_ (show 0x10000 ≤ c.val by omega)⟩
    · rw [lead, UInt8.toNat_ofNat', Nat.mod_eq_of_lt (by omega)]
      simp only [show ¬0xf0 + c.val / 0x40000 < 0x80 by omega,
        show ¬0xf0 + c.val / 0x40000 < 0xc0 by omega, show ¬0xf0 + c.val / 0x40000 < 0xe0 by omega,
        show ¬0xf0 + c.val / 0x40000 < 0xf0 by omega, show 0xf0 + c.val / 0x40000 < 0xf8 by omega,
        if_true, if_false, Nat.add_sub_cancel_left, List.length_cons, List.length_nil]
    · simp only [List.forall_mem_cons, isTail_ofNat, List.not_mem_nil, false_imp_iff, implies_true,
        and_self]
    · simp only [pack, List.foldl_cons, List.foldl_nil, UInt8.toNat_ofNat']
      omega

theorem scan_skip (allowed : CodePoint → Bool) (tails t : Bytes) :
    scan allowed tails.length (tails ++ t) = scan allowed 0 t := by
  induction tails with
  | nil => rfl
  | cons b tails ih => exact ih

/-- What `utf8` writes is read back. -/
theorem scan_utf8 {allowed : CodePoint → Bool} {s : Text} (h : ∀ c ∈ s, allowed c) :
    scan allowed 0 s.utf8 = s.map some := by
  induction s with
  | nil => rfl
  | cons c s ih =>
    obtain ⟨hc, hs⟩ := List.forall_mem_cons.mp h
    obtain ⟨b, tails, hutf8, hfirst⟩ := first_utf8 c (Text.utf8 s)
    rw [Text.utf8_cons, hutf8, List.cons_append, scan, hfirst]
    simp only [hc, if_true]
    rw [scan_skip, ih hs, List.map_cons]

/-- The bytes of a text determine it. -/
theorem utf8_injective : Function.Injective Text.utf8 := by
  intro s t h
  have hread (s : Text) : scan (fun _ => true) 0 s.utf8 = s.map some := scan_utf8 fun _ _ => rfl
  have hsome : s.map some = t.map some := by rw [← hread, h, hread]
  exact (List.map_inj_right fun _ _ => Option.some.inj).mp hsome

end Utf8
