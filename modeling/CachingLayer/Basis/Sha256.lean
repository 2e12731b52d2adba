import Mathlib

/-!
# SHA-256

The hash of FIPS 180-4 on byte lists, words as naturals below `2^32`, and its
hexadecimal digest.  What other developments use of a digest without looking into
the compression function: it has 64 letters (`hexdigest_length`), all of them
among `0`–`9` and `a`–`f` (`hexdigest_hex`).
-/

namespace Sha256

abbrev Word := Nat

def add (a b : Word) : Word := (a + b) % 2 ^ 32

def rotr (n : Nat) (x : Word) : Word := (x >>> n) ||| ((x <<< (32 - n)) % 2 ^ 32)

def complement (x : Word) : Word := x ^^^ (2 ^ 32 - 1)

def ch (x y z : Word) : Word := (x &&& y) ^^^ (complement x &&& z)

def maj (x y z : Word) : Word := (x &&& y) ^^^ (x &&& z) ^^^ (y &&& z)

def bigSigma0 (x : Word) : Word := rotr 2 x ^^^ rotr 13 x ^^^ rotr 22 x

def bigSigma1 (x : Word) : Word := rotr 6 x ^^^ rotr 11 x ^^^ rotr 25 x

def smallSigma0 (x : Word) : Word := rotr 7 x ^^^ rotr 18 x ^^^ (x >>> 3)

def smallSigma1 (x : Word) : Word := rotr 17 x ^^^ rotr 19 x ^^^ (x >>> 10)

def roundConstants : List Word :=
  [0x428a2f98, 0x71374491, 0xb5c0fbcf, 0xe9b5dba5, 0x3956c25b, 0x59f111f1, 0x923f82a4, 0xab1c5ed5,
   0xd807aa98, 0x12835b01, 0x243185be, 0x550c7dc3, 0x72be5d74, 0x80deb1fe, 0x9bdc06a7, 0xc19bf174,
   0xe49b69c1, 0xefbe4786, 0x0fc19dc6, 0x240ca1cc, 0x2de92c6f, 0x4a7484aa, 0x5cb0a9dc, 0x76f988da,
   0x983e5152, 0xa831c66d, 0xb00327c8, 0xbf597fc7, 0xc6e00bf3, 0xd5a79147, 0x06ca6351, 0x14292967,
   0x27b70a85, 0x2e1b2138, 0x4d2c6dfc, 0x53380d13, 0x650a7354, 0x766a0abb, 0x81c2c92e, 0x92722c85,
   0xa2bfe8a1, 0xa81a664b, 0xc24b8b70, 0xc76c51a3, 0xd192e819, 0xd6990624, 0xf40e3585, 0x106aa070,
   0x19a4c116, 0x1e376c08, 0x2748774c, 0x34b0bcb5, 0x391c0cb3, 0x4ed8aa4a, 0x5b9cca4f, 0x682e6ff3,
   0x748f82ee, 0x78a5636f, 0x84c87814, 0x8cc70208, 0x90befffa, 0xa4506ceb, 0xbef9a3f7, 0xc67178f2]

/-- The eight working words. -/
structure HashState where
  a : Word
  b : Word
  c : Word
  d : Word
  e : Word
  f : Word
  g : Word
  h : Word

def initial : HashState :=
  ⟨0x6a09e667, 0xbb67ae85, 0x3c6ef372, 0xa54ff53a, 0x510e527f, 0x9b05688c, 0x1f83d9ab, 0x5be0cd19⟩

def round (s : HashState) (kw : Word × Word) : HashState :=
  let t1 := add (add (add (add s.h (bigSigma1 s.e)) (ch s.e s.f s.g)) kw.1) kw.2
  let t2 := add (bigSigma0 s.a) (maj s.a s.b s.c)
  ⟨add t1 t2, s.a, s.b, s.c, add s.d t1, s.e, s.f, s.g⟩

/-- The next `n` words of the message schedule, from the last sixteen. -/
def schedule : Nat → List Word → List Word
  | 0, _ => []
  | n + 1, ws =>
    let w := add (add (add (ws.getD 0 0) (smallSigma0 (ws.getD 1 0))) (ws.getD 9 0))
      (smallSigma1 (ws.getD 14 0))
    ws.headD 0 :: schedule n (ws.tail ++ [w])

def compress (s : HashState) (block : List Word) : HashState :=
  let t := (roundConstants.zip (schedule 64 block)).foldl round s
  ⟨add s.a t.a, add s.b t.b, add s.c t.c, add s.d t.d, add s.e t.e, add s.f t.f, add s.g t.g,
    add s.h t.h⟩

/-- Message, a one bit, zeros up to 56 bytes mod 64, the bit length in eight bytes. -/
def pad (msg : List UInt8) : List UInt8 :=
  msg ++ [0x80] ++ List.replicate ((119 - msg.length % 64) % 64) 0 ++
    (List.range 8).map fun i => UInt8.ofNat (msg.length * 8 / 256 ^ (7 - i))

/-- Big-endian words of a byte list. -/
def words : List UInt8 → List Word
  | a :: b :: c :: d :: rest =>
    (a.toNat * 2 ^ 24 + b.toNat * 2 ^ 16 + c.toNat * 2 ^ 8 + d.toNat) :: words rest
  | _ => []

def blocks : Nat → List Word → List (List Word)
  | 0, _ => []
  | n + 1, ws => ws.take 16 :: blocks n (ws.drop 16)

def digest (msg : List UInt8) : HashState :=
  let ws := words (pad msg)
  (blocks (ws.length / 16) ws).foldl compress initial

/-! ## Hexadecimal -/

def hexDigits : List Char :=
  ['0', '1', '2', '3', '4', '5', '6', '7', '8', '9', 'a', 'b', 'c', 'd', 'e', 'f']

def hexDigit (n : Nat) : Char := hexDigits.getD (n % 16) '0'

def hexWord (w : Word) : List Char := (List.range 8).map fun i => hexDigit (w / 16 ^ (7 - i))

def hexdigest (msg : List UInt8) : List Char :=
  let s := digest msg
  [s.a, s.b, s.c, s.d, s.e, s.f, s.g, s.h].flatMap hexWord

theorem hexDigit_mem (n : Nat) : hexDigit n ∈ hexDigits := by
  have hn : n % 16 < hexDigits.length := Nat.mod_lt n (by decide)
  unfold hexDigit
  rw [List.getD_eq_getElem _ _ hn]
  exact List.getElem_mem hn

theorem hexWord_length (w : Word) : (hexWord w).length = 8 := by simp [hexWord]

theorem hexdigest_length (msg : List UInt8) : (hexdigest msg).length = 64 := by
  simp [hexdigest, hexWord_length]

theorem hexdigest_hex (msg : List UInt8) : ∀ c ∈ hexdigest msg, c ∈ hexDigits := by
  intro c hc
  unfold hexdigest at hc
  obtain ⟨w, -, hw⟩ := List.mem_flatMap.mp hc
  obtain ⟨i, -, rfl⟩ := List.mem_map.mp hw
  exact hexDigit_mem _

-- the FIPS 180-4 test vector for "abc"
set_option maxRecDepth 10000 in
example : hexdigest [97, 98, 99] =
    "ba7816bf8f01cfea414140de5dae2223b00361a396177a9cb410ff61f20015ad".toList := by
  decide +kernel

end Sha256
