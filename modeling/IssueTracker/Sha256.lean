import IssueTracker.Text.Hex

/-! SHA-256 of bytes, and its hexadecimal text. -/

namespace IssueTracker
namespace Sha256

def rotate (x : UInt32) (n : UInt32) : UInt32 :=
  (x >>> n) ||| (x <<< (32 - n))

/-- The first 32 bits of the fractions of the cube roots of the first 64 primes. -/
def roundConstants : List UInt32 :=
  [0x428a2f98, 0x71374491, 0xb5c0fbcf, 0xe9b5dba5, 0x3956c25b, 0x59f111f1, 0x923f82a4, 0xab1c5ed5,
    0xd807aa98, 0x12835b01, 0x243185be, 0x550c7dc3, 0x72be5d74, 0x80deb1fe, 0x9bdc06a7, 0xc19bf174,
    0xe49b69c1, 0xefbe4786, 0x0fc19dc6, 0x240ca1cc, 0x2de92c6f, 0x4a7484aa, 0x5cb0a9dc, 0x76f988da,
    0x983e5152, 0xa831c66d, 0xb00327c8, 0xbf597fc7, 0xc6e00bf3, 0xd5a79147, 0x06ca6351, 0x14292967,
    0x27b70a85, 0x2e1b2138, 0x4d2c6dfc, 0x53380d13, 0x650a7354, 0x766a0abb, 0x81c2c92e, 0x92722c85,
    0xa2bfe8a1, 0xa81a664b, 0xc24b8b70, 0xc76c51a3, 0xd192e819, 0xd6990624, 0xf40e3585, 0x106aa070,
    0x19a4c116, 0x1e376c08, 0x2748774c, 0x34b0bcb5, 0x391c0cb3, 0x4ed8aa4a, 0x5b9cca4f, 0x682e6ff3,
    0x748f82ee, 0x78a5636f, 0x84c87814, 0x8cc70208, 0x90befffa, 0xa4506ceb, 0xbef9a3f7, 0xc67178f2]

structure Digest where
  a : UInt32
  b : UInt32
  c : UInt32
  d : UInt32
  e : UInt32
  f : UInt32
  g : UInt32
  h : UInt32
  deriving DecidableEq

/-- The first 32 bits of the fractions of the square roots of the first 8 primes. -/
def initial : Digest :=
  ⟨0x6a09e667, 0xbb67ae85, 0x3c6ef372, 0xa54ff53a, 0x510e527f, 0x9b05688c, 0x1f83d9ab, 0x5be0cd19⟩

namespace Digest

def round (s : Digest) (k w : UInt32) : Digest :=
  let s1 := rotate s.e 6 ^^^ rotate s.e 11 ^^^ rotate s.e 25
  let ch := (s.e &&& s.f) ^^^ ((~~~ s.e) &&& s.g)
  let t1 := s.h + s1 + ch + k + w
  let s0 := rotate s.a 2 ^^^ rotate s.a 13 ^^^ rotate s.a 22
  let maj := (s.a &&& s.b) ^^^ (s.a &&& s.c) ^^^ (s.b &&& s.c)
  ⟨t1 + (s0 + maj), s.a, s.b, s.c, s.d + t1, s.e, s.f, s.g⟩

def add (s t : Digest) : Digest :=
  ⟨s.a + t.a, s.b + t.b, s.c + t.c, s.d + t.d, s.e + t.e, s.f + t.f, s.g + t.g, s.h + t.h⟩

def words (s : Digest) : List UInt32 :=
  [s.a, s.b, s.c, s.d, s.e, s.f, s.g, s.h]

end Digest

/-- The word after a list of words, which is last first. -/
def nextWord (ws : List UInt32) : UInt32 :=
  let w2 := ws.getD 1 0
  let w15 := ws.getD 14 0
  let s0 := rotate w15 7 ^^^ rotate w15 18 ^^^ (w15 >>> 3)
  let s1 := rotate w2 17 ^^^ rotate w2 19 ^^^ (w2 >>> 10)
  ws.getD 15 0 + s0 + ws.getD 6 0 + s1

def extend : Nat → List UInt32 → List UInt32
  | 0, ws => ws
  | n + 1, ws => extend n (nextWord ws :: ws)

/-- The 64 words of a block of 16. -/
def schedule (block : List UInt32) : List UInt32 :=
  (extend 48 block.reverse).reverse

def compress (s : Digest) (block : List UInt32) : Digest :=
  s.add ((roundConstants.zip (schedule block)).foldl (fun t p => t.round p.1 p.2) s)

/-- Four bytes at a time, the first one highest. -/
def wordsFrom : List UInt32 → List UInt8 → List UInt32
  | done, a :: b :: c :: d :: r =>
    wordsFrom (((a.toUInt32 <<< 24) ||| (b.toUInt32 <<< 16) ||| (c.toUInt32 <<< 8) ||| d.toUInt32)
      :: done) r
  | done, _ => done.reverse

/-- A one bit, zeros, and the length in bits as 64 bits, up to a whole block. -/
def padding (length : Nat) : List UInt8 :=
  0x80 :: (List.replicate ((119 - length % 64) % 64) (0 : UInt8)
    ++ (List.range 8).map fun i => ((length * 8) >>> (8 * (7 - i))).toUInt8)

/-- The digest after the next blocks, at most `n` of them. -/
def run : Nat → Digest → List UInt32 → Digest
  | 0, s, _ => s
  | n + 1, s, ws => if ws.isEmpty then s else run n (compress s (ws.take 16)) (ws.drop 16)

def digest (bytes : List UInt8) : Digest :=
  let ws := wordsFrom [] (bytes ++ padding bytes.length)
  run ws.length initial ws

def wordChars (w : UInt32) : List Char :=
  (List.range 8).map fun i => Hex.digit ((w.toNat >>> (4 * (7 - i))) % 16)

/-- The digest as 64 lower-case hexadecimal digits. -/
def hex (bytes : List UInt8) : String :=
  String.ofList ((digest bytes).words.flatMap wordChars)

end Sha256
end IssueTracker
