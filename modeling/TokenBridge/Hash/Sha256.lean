import TokenBridge.Bytes

/-!
# SHA-256 and keyed hashing

SHA-256 over 32-bit words, and the keyed hash built on it, from which signing draws its nonces.
-/

namespace TokenBridge.Sha256

/-- Eight words. -/
abbrev State := Vector UInt32 8

/-- The state before the first block. -/
def initial : State :=
  #v[0x6a09e667, 0xbb67ae85, 0x3c6ef372, 0xa54ff53a, 0x510e527f, 0x9b05688c, 0x1f83d9ab, 0x5be0cd19]

/-- The constants of the sixty-four rounds. -/
def roundConstants : List UInt32 :=
  [0x428a2f98, 0x71374491, 0xb5c0fbcf, 0xe9b5dba5, 0x3956c25b, 0x59f111f1, 0x923f82a4, 0xab1c5ed5,
    0xd807aa98, 0x12835b01, 0x243185be, 0x550c7dc3, 0x72be5d74, 0x80deb1fe, 0x9bdc06a7, 0xc19bf174,
    0xe49b69c1, 0xefbe4786, 0x0fc19dc6, 0x240ca1cc, 0x2de92c6f, 0x4a7484aa, 0x5cb0a9dc, 0x76f988da,
    0x983e5152, 0xa831c66d, 0xb00327c8, 0xbf597fc7, 0xc6e00bf3, 0xd5a79147, 0x06ca6351, 0x14292967,
    0x27b70a85, 0x2e1b2138, 0x4d2c6dfc, 0x53380d13, 0x650a7354, 0x766a0abb, 0x81c2c92e, 0x92722c85,
    0xa2bfe8a1, 0xa81a664b, 0xc24b8b70, 0xc76c51a3, 0xd192e819, 0xd6990624, 0xf40e3585, 0x106aa070,
    0x19a4c116, 0x1e376c08, 0x2748774c, 0x34b0bcb5, 0x391c0cb3, 0x4ed8aa4a, 0x5b9cca4f, 0x682e6ff3,
    0x748f82ee, 0x78a5636f, 0x84c87814, 0x8cc70208, 0x90befffa, 0xa4506ceb, 0xbef9a3f7, 0xc67178f2]

/-- A word turned right by some bits, fewer than all and more than none. -/
def rotate (word n : UInt32) : UInt32 := word >>> n ||| word <<< (32 - n)

/-- The word that four bytes write. -/
def wordOf (data : Bytes) : UInt32 := UInt32.ofNat (Bytes.readBigEndian data)

/-- The first words of a block, as many as asked for. -/
def wordsOf : Nat → Bytes → List UInt32
  | 0, _ => []
  | n + 1, data => wordOf (data.take 4) :: wordsOf n (data.drop 4)

/-- The word that follows sixteen others, of which the latest comes first. -/
def nextWord (recent : List UInt32) : UInt32 :=
  let w (i : Nat) : UInt32 := recent.getD (i - 1) 0
  let s0 := rotate (w 15) 7 ^^^ rotate (w 15) 18 ^^^ w 15 >>> 3
  let s1 := rotate (w 2) 17 ^^^ rotate (w 2) 19 ^^^ w 2 >>> 10
  w 16 + s0 + w 7 + s1

/-- So many more words put before the recent ones. -/
def extend : Nat → List UInt32 → List UInt32
  | 0, recent => recent
  | n + 1, recent => extend n (nextWord recent :: recent)

/-- The sixty-four words of a block. -/
def schedule (block : Bytes) : List UInt32 :=
  (extend 48 (wordsOf 16 block).reverse).reverse

/-- One round, with its constant and its word. -/
def round (s : State) (step : UInt32 × UInt32) : State :=
  let a := s.get 0
  let b := s.get 1
  let c := s.get 2
  let e := s.get 4
  let f := s.get 5
  let g := s.get 6
  let sum1 := rotate e 6 ^^^ rotate e 11 ^^^ rotate e 25
  let choice := (e &&& f) ^^^ (~~~e &&& g)
  let t1 := s.get 7 + sum1 + choice + step.1 + step.2
  let sum0 := rotate a 2 ^^^ rotate a 13 ^^^ rotate a 22
  let majority := (a &&& b) ^^^ (a &&& c) ^^^ (b &&& c)
  #v[t1 + sum0 + majority, a, b, c, s.get 3 + t1, e, f, g]

/-- The state after a block. -/
def compress (s : State) (block : Bytes) : State :=
  let t := (roundConstants.zip (schedule block)).foldl round s
  Vector.ofFn fun i => s.get i + t.get i

/-- The bytes after a message of the given length: a one bit, zeros, and the length in bits. -/
def padding (length : Nat) : Bytes :=
  0x80 :: (List.replicate ((119 - length % 64) % 64) 0 ++ Bytes.bigEndian 8 (8 * length))

/-- The state after some blocks. -/
def absorbBlocks : Nat → State → Bytes → State
  | 0, s, _ => s
  | n + 1, s, data => absorbBlocks n (compress s (data.take 64)) (data.drop 64)

/-- The digest of a message, thirty-two bytes. -/
def digest (message : Bytes) : Bytes :=
  let padded := message ++ padding message.length
  let s := absorbBlocks (padded.length / 64) initial padded
  s.toList.flatMap fun word => Bytes.bigEndian 4 word.toNat

/-! ## Keyed hashing -/

/-- A key as one block; a longer key is hashed first. -/
def keyBlock (key : Bytes) : Bytes :=
  let short := if 64 < key.length then digest key else key
  short ++ List.replicate (64 - short.length) 0

/-- The keyed hash of a message. -/
def keyed (key message : Bytes) : Bytes :=
  let block := keyBlock key
  digest (block.map (· ^^^ 0x5c) ++ digest (block.map (· ^^^ 0x36) ++ message))

end TokenBridge.Sha256
