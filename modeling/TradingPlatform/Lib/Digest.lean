import Mathlib.Algebra.Group.Nat.Defs
import Mathlib.Data.List.Basic

/-!
# SHA-1, SHA-256 and the hashes of names

The two digests as the standard defines them, over bytes held as natural numbers below 256 and words held as natural
numbers below `2 ^ 32`. Every recursion is structural, so a digest of a short message is evaluated by the kernel.
-/

namespace TradingPlatform.Digest

/-- The size of a word: arithmetic of both digests is modulo `2 ^ 32`. -/
def wordSize : ℕ := 2 ^ 32

/-- A word rotated right by `n` places. -/
def rotr (x n : ℕ) : ℕ := (x >>> n) ||| ((x <<< (32 - n)) % wordSize)

/-- A word rotated left by `n` places. -/
def rotl (x n : ℕ) : ℕ := ((x <<< n) % wordSize) ||| (x >>> (32 - n))

/-- The bitwise complement of a word. -/
def compl (x : ℕ) : ℕ := wordSize - 1 - x

/-- The choice function of both digests: the bits of `y` where `x` is set, of `z` elsewhere. -/
def ch (x y z : ℕ) : ℕ := (x &&& y) ^^^ (compl x &&& z)

/-- The majority function of both digests. -/
def maj (x y z : ℕ) : ℕ := (x &&& y) ^^^ (x &&& z) ^^^ (y &&& z)

/-- Four bytes, most significant first, read as a word. -/
def bytesToWords : List ℕ → List ℕ
  | a :: b :: c :: d :: rest => (((a * 256 + b) * 256 + c) * 256 + d) :: bytesToWords rest
  | _ => []

/-- The padding of a message of `n` bytes: a set bit, zeros, and the length in bits as eight bytes. -/
def padding (n : ℕ) : List ℕ :=
  0x80 :: (List.replicate ((119 - n % 64) % 64) 0 ++ (List.range 8).reverse.map fun i => (8 * n) >>> (8 * i) % 256)

/-- The first `n` blocks of sixteen words. -/
def blocks : ℕ → List ℕ → List (List ℕ)
  | 0, _ => []
  | n + 1, ws => ws.take 16 :: blocks n (ws.drop 16)

/-- The padded message cut into blocks of sixteen words. -/
def messageBlocks (message : List ℕ) : List (List ℕ) :=
  let ws := bytesToWords (message ++ padding message.length)
  blocks (ws.length / 16) ws

/-- The bytes of a text in UTF-8. -/
def utf8 (s : String) : List ℕ := s.toUTF8.toList.map UInt8.toNat

/-- A digit of base sixteen, in lower case. -/
def hexDigit (n : ℕ) : Char := "0123456789abcdef".toList.getD n '0'

/-- A word as eight digits of base sixteen. -/
def hexWord (w : ℕ) : List Char := (List.range 8).reverse.map fun i => hexDigit (w >>> (4 * i) % 16)

/-! ## SHA-256 -/

namespace Sha256

/-- The eight working registers of SHA-256. -/
structure Registers where
  a : ℕ
  b : ℕ
  c : ℕ
  d : ℕ
  e : ℕ
  f : ℕ
  g : ℕ
  h : ℕ

/-- The registers before the first block. -/
def initial : Registers :=
  ⟨0x6a09e667, 0xbb67ae85, 0x3c6ef372, 0xa54ff53a, 0x510e527f, 0x9b05688c, 0x1f83d9ab, 0x5be0cd19⟩

/-- The constants of the sixty-four rounds. -/
def constants : List ℕ :=
  [0x428a2f98, 0x71374491, 0xb5c0fbcf, 0xe9b5dba5, 0x3956c25b, 0x59f111f1, 0x923f82a4, 0xab1c5ed5,
   0xd807aa98, 0x12835b01, 0x243185be, 0x550c7dc3, 0x72be5d74, 0x80deb1fe, 0x9bdc06a7, 0xc19bf174,
   0xe49b69c1, 0xefbe4786, 0x0fc19dc6, 0x240ca1cc, 0x2de92c6f, 0x4a7484aa, 0x5cb0a9dc, 0x76f988da,
   0x983e5152, 0xa831c66d, 0xb00327c8, 0xbf597fc7, 0xc6e00bf3, 0xd5a79147, 0x06ca6351, 0x14292967,
   0x27b70a85, 0x2e1b2138, 0x4d2c6dfc, 0x53380d13, 0x650a7354, 0x766a0abb, 0x81c2c92e, 0x92722c85,
   0xa2bfe8a1, 0xa81a664b, 0xc24b8b70, 0xc76c51a3, 0xd192e819, 0xd6990624, 0xf40e3585, 0x106aa070,
   0x19a4c116, 0x1e376c08, 0x2748774c, 0x34b0bcb5, 0x391c0cb3, 0x4ed8aa4a, 0x5b9cca4f, 0x682e6ff3,
   0x748f82ee, 0x78a5636f, 0x84c87814, 0x8cc70208, 0x90befffa, 0xa4506ceb, 0xbef9a3f7, 0xc67178f2]

/-- The message schedule extended by `n` words; the newest word comes first. -/
def schedule : ℕ → List ℕ → List ℕ
  | 0, w => w
  | n + 1, w =>
    let s0 := rotr (w.getD 14 0) 7 ^^^ rotr (w.getD 14 0) 18 ^^^ (w.getD 14 0 >>> 3)
    let s1 := rotr (w.getD 1 0) 17 ^^^ rotr (w.getD 1 0) 19 ^^^ (w.getD 1 0 >>> 10)
    schedule n ((s1 + w.getD 6 0 + s0 + w.getD 15 0) % wordSize :: w)

/-- One round, with its constant and its word of the schedule. -/
def round (r : Registers) (kw : ℕ × ℕ) : Registers :=
  let s1 := rotr r.e 6 ^^^ rotr r.e 11 ^^^ rotr r.e 25
  let s0 := rotr r.a 2 ^^^ rotr r.a 13 ^^^ rotr r.a 22
  let t1 := (r.h + s1 + ch r.e r.f r.g + kw.1 + kw.2) % wordSize
  let t2 := (s0 + maj r.a r.b r.c) % wordSize
  ⟨(t1 + t2) % wordSize, r.a, r.b, r.c, (r.d + t1) % wordSize, r.e, r.f, r.g⟩

/-- The registers after one block. -/
def compress (r : Registers) (block : List ℕ) : Registers :=
  let s := (constants.zip (schedule 48 block.reverse).reverse).foldl round r
  ⟨(r.a + s.a) % wordSize, (r.b + s.b) % wordSize, (r.c + s.c) % wordSize, (r.d + s.d) % wordSize,
    (r.e + s.e) % wordSize, (r.f + s.f) % wordSize, (r.g + s.g) % wordSize, (r.h + s.h) % wordSize⟩

/-- The eight words of the digest of a message. -/
def digest (message : List ℕ) : List ℕ :=
  let r := (messageBlocks message).foldl compress initial
  [r.a, r.b, r.c, r.d, r.e, r.f, r.g, r.h]

end Sha256

/-- The sixty-four digits of base sixteen of the SHA-256 digest of a text's UTF-8 bytes. -/
def sha256Digits (s : String) : List Char := (Sha256.digest (utf8 s)).flatMap hexWord

/-- `hexdigest`: the digits as a text. -/
def sha256Hex (s : String) : String := String.ofList (sha256Digits s)

/-! ## SHA-1 and the version 5 UUID -/

namespace Sha1

/-- The five working registers of SHA-1. -/
structure Registers where
  a : ℕ
  b : ℕ
  c : ℕ
  d : ℕ
  e : ℕ

/-- The registers before the first block. -/
def initial : Registers := ⟨0x67452301, 0xefcdab89, 0x98badcfe, 0x10325476, 0xc3d2e1f0⟩

/-- The message schedule extended by `n` words; the newest word comes first. -/
def schedule : ℕ → List ℕ → List ℕ
  | 0, w => w
  | n + 1, w => schedule n (rotl (w.getD 2 0 ^^^ w.getD 7 0 ^^^ w.getD 13 0 ^^^ w.getD 15 0) 1 :: w)

/-- One round, with its number and its word of the schedule. -/
def round (r : Registers) (iw : ℕ × ℕ) : Registers :=
  let fk : ℕ × ℕ :=
    if iw.1 < 20 then (ch r.b r.c r.d, 0x5a827999)
    else if iw.1 < 40 then (r.b ^^^ r.c ^^^ r.d, 0x6ed9eba1)
    else if iw.1 < 60 then (maj r.b r.c r.d, 0x8f1bbcdc)
    else (r.b ^^^ r.c ^^^ r.d, 0xca62c1d6)
  ⟨(rotl r.a 5 + fk.1 + r.e + fk.2 + iw.2) % wordSize, r.a, rotl r.b 30, r.c, r.d⟩

/-- The registers after one block. -/
def compress (r : Registers) (block : List ℕ) : Registers :=
  let s := ((List.range 80).zip (schedule 64 block.reverse).reverse).foldl round r
  ⟨(r.a + s.a) % wordSize, (r.b + s.b) % wordSize, (r.c + s.c) % wordSize, (r.d + s.d) % wordSize,
    (r.e + s.e) % wordSize⟩

/-- The five words of the digest of a message. -/
def digest (message : List ℕ) : List ℕ :=
  let r := (messageBlocks message).foldl compress initial
  [r.a, r.b, r.c, r.d, r.e]

end Sha1

/-- The namespace of URLs, as the sixteen bytes of its UUID. -/
def namespaceUrl : List ℕ :=
  [0x6b, 0xa7, 0xb8, 0x11, 0x9d, 0xad, 0x11, 0xd1, 0x80, 0xb4, 0x00, 0xc0, 0x4f, 0xd4, 0x30, 0xc8]

/-- The version 5 UUID of a name in a namespace: the first sixteen bytes of the SHA-1 digest, with the version and the
variant written over their places, in the usual grouping of digits. -/
def uuid5 (space : List ℕ) (name : String) : String :=
  let digits := (Sha1.digest (space ++ utf8 name)).flatMap hexWord
  let variant := hexDigit (8 + ("0123456789abcdef".toList.idxOf (digits.getD 16 '0')) % 4)
  String.ofList (digits.take 8 ++ '-' :: (digits.drop 8).take 4 ++ '-' :: '5' :: (digits.drop 13).take 3 ++
    '-' :: variant :: (digits.drop 17).take 3 ++ '-' :: (digits.drop 20).take 12)

example : sha256Hex "abc" = "ba7816bf8f01cfea414140de5dae2223b00361a396177a9cb410ff61f20015ad" := by decide +kernel

example : uuid5 namespaceUrl "python.org" = "7af94e2b-4dd9-50f0-9c9a-8a48519bdef0" := by decide +kernel

end TradingPlatform.Digest
