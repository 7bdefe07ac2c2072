import Mathlib
import TruthFingerprint.Lib.Unicode

/-!
# SHA-256

The digest of a list of bytes, with words as naturals below `2 ^ 32`, and its text in hexadecimal.
All that a format check needs to know is that the text has 64 digits (`length_hexDigest`,
`hexDigest_isHex`).
-/

namespace Sha256

def word (n : Nat) : Nat := n % 2 ^ 32

def rotr (n x : Nat) : Nat := x >>> n ||| word (x <<< (32 - n))

def bigSigma0 (x : Nat) : Nat := rotr 2 x ^^^ rotr 13 x ^^^ rotr 22 x

def bigSigma1 (x : Nat) : Nat := rotr 6 x ^^^ rotr 11 x ^^^ rotr 25 x

def smallSigma0 (x : Nat) : Nat := rotr 7 x ^^^ rotr 18 x ^^^ x >>> 3

def smallSigma1 (x : Nat) : Nat := rotr 17 x ^^^ rotr 19 x ^^^ x >>> 10

def ch (x y z : Nat) : Nat := (x &&& y) ^^^ ((x ^^^ (2 ^ 32 - 1)) &&& z)

def maj (x y z : Nat) : Nat := (x &&& y) ^^^ (x &&& z) ^^^ (y &&& z)

def roundConstants : List Nat :=
  [0x428a2f98, 0x71374491, 0xb5c0fbcf, 0xe9b5dba5, 0x3956c25b, 0x59f111f1, 0x923f82a4, 0xab1c5ed5,
    0xd807aa98, 0x12835b01, 0x243185be, 0x550c7dc3, 0x72be5d74, 0x80deb1fe, 0x9bdc06a7, 0xc19bf174,
    0xe49b69c1, 0xefbe4786, 0x0fc19dc6, 0x240ca1cc, 0x2de92c6f, 0x4a7484aa, 0x5cb0a9dc, 0x76f988da,
    0x983e5152, 0xa831c66d, 0xb00327c8, 0xbf597fc7, 0xc6e00bf3, 0xd5a79147, 0x06ca6351, 0x14292967,
    0x27b70a85, 0x2e1b2138, 0x4d2c6dfc, 0x53380d13, 0x650a7354, 0x766a0abb, 0x81c2c92e, 0x92722c85,
    0xa2bfe8a1, 0xa81a664b, 0xc24b8b70, 0xc76c51a3, 0xd192e819, 0xd6990624, 0xf40e3585, 0x106aa070,
    0x19a4c116, 0x1e376c08, 0x2748774c, 0x34b0bcb5, 0x391c0cb3, 0x4ed8aa4a, 0x5b9cca4f, 0x682e6ff3,
    0x748f82ee, 0x78a5636f, 0x84c87814, 0x8cc70208, 0x90befffa, 0xa4506ceb, 0xbef9a3f7, 0xc67178f2]

/-- The eight words of a hash value. -/
structure State where
  a : Nat
  b : Nat
  c : Nat
  d : Nat
  e : Nat
  f : Nat
  g : Nat
  h : Nat

/-- The next sixteen words of the message schedule. -/
structure Window where
  w0 : Nat
  w1 : Nat
  w2 : Nat
  w3 : Nat
  w4 : Nat
  w5 : Nat
  w6 : Nat
  w7 : Nat
  w8 : Nat
  w9 : Nat
  w10 : Nat
  w11 : Nat
  w12 : Nat
  w13 : Nat
  w14 : Nat
  w15 : Nat

def State.initial : State where
  a := 0x6a09e667
  b := 0xbb67ae85
  c := 0x3c6ef372
  d := 0xa54ff53a
  e := 0x510e527f
  f := 0x9b05688c
  g := 0x1f83d9ab
  h := 0x5be0cd19

def State.add (s t : State) : State where
  a := word (s.a + t.a)
  b := word (s.b + t.b)
  c := word (s.c + t.c)
  d := word (s.d + t.d)
  e := word (s.e + t.e)
  f := word (s.f + t.f)
  g := word (s.g + t.g)
  h := word (s.h + t.h)

/-- One round for each constant, with the first word of the window. -/
def rounds : List Nat → Window → State → State
  | [], _, s => s
  | k :: ks, ⟨w0, w1, w2, w3, w4, w5, w6, w7, w8, w9, w10, w11, w12, w13, w14, w15⟩,
      ⟨a, b, c, d, e, f, g, h⟩ =>
    let t1 := h + bigSigma1 e + ch e f g + k + w0
    let t2 := bigSigma0 a + maj a b c
    let next := word (smallSigma1 w14 + w9 + smallSigma0 w1 + w0)
    rounds ks ⟨w1, w2, w3, w4, w5, w6, w7, w8, w9, w10, w11, w12, w13, w14, w15, next⟩
      ⟨word (t1 + t2), a, b, c, word (d + t1), e, f, g⟩

/-- A block of sixteen words. -/
def compress (s : State) : List Nat → State
  | [w0, w1, w2, w3, w4, w5, w6, w7, w8, w9, w10, w11, w12, w13, w14, w15] =>
    s.add (rounds roundConstants
      ⟨w0, w1, w2, w3, w4, w5, w6, w7, w8, w9, w10, w11, w12, w13, w14, w15⟩ s)
  | _ => s

/-- Big-endian words of four bytes. -/
def words : List Nat → List Nat
  | a :: b :: c :: d :: bytes => (a * 2 ^ 24 + b * 2 ^ 16 + c * 2 ^ 8 + d) :: words bytes
  | _ => []

/-- The big-endian bytes of `n`. -/
def bigEndian : Nat → Nat → List Nat
  | 0, _ => []
  | k + 1, n => n / 2 ^ (8 * k) % 2 ^ 8 :: bigEndian k n

def pad (bytes : List Nat) : List Nat :=
  bytes ++ 0x80 :: List.replicate ((119 - bytes.length % 64) % 64) 0 ++ bigEndian 8 (8 * bytes.length)

/-- The hash value after the first `n` blocks of 16 words. -/
def hashBlocks : Nat → List Nat → State → State
  | 0, _, s => s
  | n + 1, ws, s => hashBlocks n (ws.drop 16) (compress s (ws.take 16))

def hash (bytes : List Nat) : State :=
  let ws := words (pad bytes)
  hashBlocks (ws.length / 16) ws .initial

def State.toWords (s : State) : List Nat := [s.a, s.b, s.c, s.d, s.e, s.f, s.g, s.h]

/-- The eight digits of a word. -/
def hexWord (w : Nat) : Text := (List.range 8).map fun i => hexDigit (w >>> (28 - 4 * i) % 16)

/-- The digest of some bytes in hexadecimal. -/
def hexDigest (bytes : Bytes) : Text :=
  (hash (bytes.map UInt8.toNat)).toWords.flatMap hexWord

@[simp] theorem length_hexDigest (bytes : Bytes) : (hexDigest bytes).length = 64 := by
  simp [hexDigest, State.toWords, hexWord]

theorem hexDigest_isHex (bytes : Bytes) : ∀ c ∈ hexDigest bytes, isHexDigit c := by
  intro c hc
  obtain ⟨w, -, hc⟩ := List.mem_flatMap.mp hc
  obtain ⟨i, -, rfl⟩ := List.mem_map.mp hc
  exact isHexDigit_hexDigit (Nat.mod_lt _ (by decide))

example : hexDigest [] =
    text "e3b0c44298fc1c149afbf4c8996fb92427ae41e4649b934ca495991b7852b855" := by decide +kernel

example : hexDigest (text "abc").utf8 =
    text "ba7816bf8f01cfea414140de5dae2223b00361a396177a9cb410ff61f20015ad" := by decide +kernel

end Sha256
