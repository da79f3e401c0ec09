/-!
The SHA-2 hash functions, and hashes of a message under a key. The 32-bit and the 64-bit family
share one compression: a state of eight words is mixed with the words of a block, round by round,
while a window of sixteen words slides along the block's schedule. A key is hashed in before the
message and again around it.
-/
namespace SignedSession.Digest

/-- The operations on words that compression needs. -/
class Word (W : Type) extends Add W, XorOp W, AndOp W, Complement W where
  octets : Nat
  ofOctets : List UInt8 → W
  toOctets : W → List UInt8
  rotateRight : W → Nat → W
  shiftRight : W → Nat → W

def natOfOctets (os : List UInt8) : Nat := os.foldl (fun n o => 256 * n + o.toNat) 0

/-- The last `count` octets of a number, most significant first. -/
def octetsOfNat : (count : Nat) → Nat → List UInt8
  | 0, _ => []
  | count + 1, n => octetsOfNat count (n / 256) ++ [UInt8.ofNat n]

instance : Word UInt32 where
  octets := 4
  ofOctets os := UInt32.ofNat (natOfOctets os)
  toOctets w := octetsOfNat 4 w.toNat
  rotateRight w n := w >>> UInt32.ofNat n ||| w <<< UInt32.ofNat (32 - n)
  shiftRight w n := w >>> UInt32.ofNat n

instance : Word UInt64 where
  octets := 8
  ofOctets os := UInt64.ofNat (natOfOctets os)
  toOctets w := octetsOfNat 8 w.toNat
  rotateRight w n := w >>> UInt64.ofNat n ||| w <<< UInt64.ofNat (64 - n)
  shiftRight w n := w >>> UInt64.ofNat n

/-- Eight words. -/
structure State (W : Type) where
  a : W
  b : W
  c : W
  d : W
  e : W
  f : W
  g : W
  h : W

/-- What tells the families apart: the amounts of their rotations and the words of their rounds.
A schedule's mixing shifts where a round's mixing rotates a third time. -/
structure Family (W : Type) where
  roundA : Nat × Nat × Nat
  roundE : Nat × Nat × Nat
  early : Nat × Nat × Nat
  late : Nat × Nat × Nat
  constants : List W

variable {W : Type} [Word W]

def mixRound (r : Nat × Nat × Nat) (w : W) : W :=
  Word.rotateRight w r.1 ^^^ Word.rotateRight w r.2.1 ^^^ Word.rotateRight w r.2.2

def mixSchedule (r : Nat × Nat × Nat) (w : W) : W :=
  Word.rotateRight w r.1 ^^^ Word.rotateRight w r.2.1 ^^^ Word.shiftRight w r.2.2

def State.add (s t : State W) : State W :=
  ⟨s.a + t.a, s.b + t.b, s.c + t.c, s.d + t.d, s.e + t.e, s.f + t.f, s.g + t.g, s.h + t.h⟩

/-- One round with its constant and its word of the schedule. -/
def Family.round (fam : Family W) (s : State W) (k w : W) : State W :=
  let choice := (s.e &&& s.f) ^^^ (~~~s.e &&& s.g)
  let majority := (s.a &&& s.b) ^^^ (s.a &&& s.c) ^^^ (s.b &&& s.c)
  let t := s.h + mixRound fam.roundE s.e + choice + k + w
  ⟨t + (mixRound fam.roundA s.a + majority), s.a, s.b, s.c, s.d + t, s.e, s.f, s.g⟩

/-- The word that follows a window of sixteen. -/
def Family.nextWord (fam : Family W) : List W → List W
  | w :: ws => match ws[0]?, ws[8]?, ws[13]? with
    | some x, some y, some z => ws ++ [mixSchedule fam.late z + y + mixSchedule fam.early x + w]
    | _, _, _ => ws
  | [] => []

/-- The rounds of the constants that are left. -/
def Family.rounds (fam : Family W) : List W → List W → State W → State W
  | k :: ks, w :: ws, s => fam.rounds ks (fam.nextWord (w :: ws)) (fam.round s k w)
  | _, _, s => s

/-- Takes `count` octets at a time, at least one; the last group may be shorter. -/
def groups (count : Nat) : List UInt8 → List (List UInt8)
  | [] => []
  | o :: os => (o :: os.take (count - 1)) :: groups count (os.drop (count - 1))
termination_by os => os.length
decreasing_by simp only [List.length_drop, List.length_cons]; omega

def Family.compress (fam : Family W) (s : State W) (block : List UInt8) : State W :=
  s.add (fam.rounds fam.constants ((groups (Word.octets W) block).map Word.ofOctets) s)

/-- A one bit, zeros, and the length in bits fill up the last block of sixteen words. -/
def padded (wordOctets : Nat) (os : List UInt8) : List UInt8 :=
  let block := 16 * wordOctets
  let zeros := (2 * block - 1 - 2 * wordOctets - os.length % block) % block
  os ++ 0x80 :: List.replicate zeros 0 ++ octetsOfNat (2 * wordOctets) (8 * os.length)

def Family.digest (fam : Family W) (initial : State W) (os : List UInt8) : List UInt8 :=
  let s := (groups (16 * Word.octets W) (padded (Word.octets W) os)).foldl fam.compress initial
  [s.a, s.b, s.c, s.d, s.e, s.f, s.g, s.h].flatMap Word.toOctets

/-- The family of words of 32 bits. -/
def narrow : Family UInt32 where
  roundA := (2, 13, 22)
  roundE := (6, 11, 25)
  early := (7, 18, 3)
  late := (17, 19, 10)
  constants :=
    [0x428a2f98, 0x71374491, 0xb5c0fbcf, 0xe9b5dba5, 0x3956c25b, 0x59f111f1, 0x923f82a4, 0xab1c5ed5,
     0xd807aa98, 0x12835b01, 0x243185be, 0x550c7dc3, 0x72be5d74, 0x80deb1fe, 0x9bdc06a7, 0xc19bf174,
     0xe49b69c1, 0xefbe4786, 0x0fc19dc6, 0x240ca1cc, 0x2de92c6f, 0x4a7484aa, 0x5cb0a9dc, 0x76f988da,
     0x983e5152, 0xa831c66d, 0xb00327c8, 0xbf597fc7, 0xc6e00bf3, 0xd5a79147, 0x06ca6351, 0x14292967,
     0x27b70a85, 0x2e1b2138, 0x4d2c6dfc, 0x53380d13, 0x650a7354, 0x766a0abb, 0x81c2c92e, 0x92722c85,
     0xa2bfe8a1, 0xa81a664b, 0xc24b8b70, 0xc76c51a3, 0xd192e819, 0xd6990624, 0xf40e3585, 0x106aa070,
     0x19a4c116, 0x1e376c08, 0x2748774c, 0x34b0bcb5, 0x391c0cb3, 0x4ed8aa4a, 0x5b9cca4f, 0x682e6ff3,
     0x748f82ee, 0x78a5636f, 0x84c87814, 0x8cc70208, 0x90befffa, 0xa4506ceb, 0xbef9a3f7, 0xc67178f2]

/-- The family of words of 64 bits. -/
def wide : Family UInt64 where
  roundA := (28, 34, 39)
  roundE := (14, 18, 41)
  early := (1, 8, 7)
  late := (19, 61, 6)
  constants :=
    [0x428a2f98d728ae22, 0x7137449123ef65cd, 0xb5c0fbcfec4d3b2f, 0xe9b5dba58189dbbc,
     0x3956c25bf348b538, 0x59f111f1b605d019, 0x923f82a4af194f9b, 0xab1c5ed5da6d8118,
     0xd807aa98a3030242, 0x12835b0145706fbe, 0x243185be4ee4b28c, 0x550c7dc3d5ffb4e2,
     0x72be5d74f27b896f, 0x80deb1fe3b1696b1, 0x9bdc06a725c71235, 0xc19bf174cf692694,
     0xe49b69c19ef14ad2, 0xefbe4786384f25e3, 0x0fc19dc68b8cd5b5, 0x240ca1cc77ac9c65,
     0x2de92c6f592b0275, 0x4a7484aa6ea6e483, 0x5cb0a9dcbd41fbd4, 0x76f988da831153b5,
     0x983e5152ee66dfab, 0xa831c66d2db43210, 0xb00327c898fb213f, 0xbf597fc7beef0ee4,
     0xc6e00bf33da88fc2, 0xd5a79147930aa725, 0x06ca6351e003826f, 0x142929670a0e6e70,
     0x27b70a8546d22ffc, 0x2e1b21385c26c926, 0x4d2c6dfc5ac42aed, 0x53380d139d95b3df,
     0x650a73548baf63de, 0x766a0abb3c77b2a8, 0x81c2c92e47edaee6, 0x92722c851482353b,
     0xa2bfe8a14cf10364, 0xa81a664bbc423001, 0xc24b8b70d0f89791, 0xc76c51a30654be30,
     0xd192e819d6ef5218, 0xd69906245565a910, 0xf40e35855771202a, 0x106aa07032bbd1b8,
     0x19a4c116b8d2d0c8, 0x1e376c085141ab53, 0x2748774cdf8eeb99, 0x34b0bcb5e19b48a8,
     0x391c0cb3c5c95a63, 0x4ed8aa4ae3418acb, 0x5b9cca4f7763e373, 0x682e6ff3d6b2b8a3,
     0x748f82ee5defb2fc, 0x78a5636f43172f60, 0x84c87814a1f0ab72, 0x8cc702081a6439ec,
     0x90befffa23631e28, 0xa4506cebde82bde9, 0xbef9a3f7b2c67915, 0xc67178f2e372532b,
     0xca273eceea26619c, 0xd186b8c721c0c207, 0xeada7dd6cde0eb1e, 0xf57d4f7fee6ed178,
     0x06f067aa72176fba, 0x0a637dc5a2c898a6, 0x113f9804bef90dae, 0x1b710b35131c471b,
     0x28db77f523047d84, 0x32caab7b40c72493, 0x3c9ebe0a15c9bebc, 0x431d67c49c100d4c,
     0x4cc5d4becb3e42b6, 0x597f299cfc657e2a, 0x5fcb6fab3ad6faec, 0x6c44198c4a475817]

def sha256 (os : List UInt8) : List UInt8 :=
  narrow.digest
    ⟨0x6a09e667, 0xbb67ae85, 0x3c6ef372, 0xa54ff53a,
     0x510e527f, 0x9b05688c, 0x1f83d9ab, 0x5be0cd19⟩ os

/-- Starts from another state than SHA-512 and keeps the first 48 octets. -/
def sha384 (os : List UInt8) : List UInt8 :=
  (wide.digest
    ⟨0xcbbb9d5dc1059ed8, 0x629a292a367cd507, 0x9159015a3070dd17, 0x152fecd8f70e5939,
     0x67332667ffc00b31, 0x8eb44a8768581511, 0xdb0c2e0d64f98fa7, 0x47b5481dbefa4fa4⟩ os).take 48

def sha512 (os : List UInt8) : List UInt8 :=
  wide.digest
    ⟨0x6a09e667f3bcc908, 0xbb67ae8584caa73b, 0x3c6ef372fe94f82b, 0xa54ff53a5f1d36f1,
     0x510e527fade682d1, 0x9b05688c2b3e6c1f, 0x1f83d9abfb41bd6b, 0x5be0cd19137e2179⟩ os

/-- A hash function with the number of octets that it takes at a time. -/
structure Hash where
  block : Nat
  digest : List UInt8 → List UInt8

namespace Hash

def sha256 : Hash := ⟨64, Digest.sha256⟩

def sha384 : Hash := ⟨128, Digest.sha384⟩

def sha512 : Hash := ⟨128, Digest.sha512⟩

/-- A key of one block: a longer one is hashed first, and zeros fill it up. -/
def blockKey (h : Hash) (key : List UInt8) : List UInt8 :=
  let k := if key.length > h.block then h.digest key else key
  k ++ List.replicate (h.block - k.length) 0

def hmac (h : Hash) (key message : List UInt8) : List UInt8 :=
  let k := h.blockKey key
  h.digest (k.map (· ^^^ 0x5c) ++ h.digest (k.map (· ^^^ 0x36) ++ message))

end Hash

end SignedSession.Digest
