import TokenBridge.Bytes

/-!
# Keccak-256

The sponge of rate 136 over twenty-five 64-bit lanes, with the padding that predates the SHA-3
standard: a one bit follows the message directly. Every step of the permutation builds the new state
lane by lane, so each can be read as its defining equation.
-/

namespace TokenBridge.Keccak

/-- Twenty-five lanes; the lane in column `x` of row `y` is at `x + 5 * y`. -/
abbrev State := Vector UInt64 25

/-- The lane in column `x` of row `y`, both modulo five. -/
def lane (state : State) (x y : Nat) : UInt64 :=
  state.get ⟨x % 5 + 5 * (y % 5), by omega⟩

/-- The state whose lane in column `x` of row `y` is `f x y`. -/
def build (f : Nat → Nat → UInt64) : State :=
  Vector.ofFn fun i => f (i.val % 5) (i.val / 5)

/-- A lane turned left by some bits. -/
def rotate (word : UInt64) (n : UInt64) : UInt64 :=
  if n = 0 then word else word <<< n ||| word >>> (64 - n)

/-- How far each lane is turned. -/
def offsets : State :=
  #v[0, 1, 62, 28, 27, 36, 44, 6, 55, 20, 3, 10, 43, 25, 39, 41, 45, 15, 21, 8, 18, 2, 61, 56, 14]

/-- The constants that tell the rounds apart. -/
def roundConstants : List UInt64 :=
  [0x0000000000000001, 0x0000000000008082, 0x800000000000808a, 0x8000000080008000,
    0x000000000000808b, 0x0000000080000001, 0x8000000080008081, 0x8000000000008009,
    0x000000000000008a, 0x0000000000000088, 0x0000000080008009, 0x000000008000000a,
    0x000000008000808b, 0x800000000000008b, 0x8000000000008089, 0x8000000000008003,
    0x8000000000008002, 0x8000000000000080, 0x000000000000800a, 0x800000008000000a,
    0x8000000080008081, 0x8000000000008080, 0x0000000080000001, 0x8000000080008008]

/-- The parities of the five columns. -/
def parities (a : State) : Vector UInt64 5 :=
  Vector.ofFn fun x =>
    lane a x 0 ^^^ lane a x 1 ^^^ lane a x 2 ^^^ lane a x 3 ^^^ lane a x 4

/-- Each lane is changed by the parities of the two neighbouring columns. -/
def theta (a : State) : State :=
  let c := parities a
  let parity (x : Nat) : UInt64 := c.get ⟨x % 5, by omega⟩
  let d : Vector UInt64 5 := Vector.ofFn fun x => parity (x + 4) ^^^ rotate (parity (x + 1)) 1
  build fun x y => lane a x y ^^^ d.get ⟨x % 5, by omega⟩

/-- Each lane is turned, and moved to another place. -/
def rhoPi (a : State) : State :=
  build fun x y => rotate (lane a (x + 3 * y) x) (lane offsets (x + 3 * y) x)

/-- Each lane is changed by the next two of its row. -/
def chi (a : State) : State :=
  build fun x y => lane a x y ^^^ (~~~lane a (x + 1) y &&& lane a (x + 2) y)

/-- The first lane is changed by the round's constant. -/
def iota (constant : UInt64) (a : State) : State :=
  a.set 0 (lane a 0 0 ^^^ constant)

/-- One round. -/
def round (a : State) (constant : UInt64) : State :=
  iota constant (chi (rhoPi (theta a)))

/-- The permutation. -/
def permute (a : State) : State :=
  roundConstants.foldl round a

/-- The number of bytes that are absorbed at a time. -/
def rate : Nat := 136

/-- The bytes after a message of the given length, which fill its last block. -/
def padding (length : Nat) : Bytes :=
  let missing := rate - length % rate
  if missing = 1 then [0x81] else 0x01 :: (List.replicate (missing - 2) 0 ++ [0x80])

/-- The lane that eight bytes write. -/
def laneOf (data : Bytes) : UInt64 := UInt64.ofNat (Bytes.readLittleEndian data)

/-- The first lanes of a block, as many as asked for. -/
def lanesOf : Nat → Bytes → List UInt64
  | 0, _ => []
  | n + 1, data => laneOf (data.take 8) :: lanesOf n (data.drop 8)

/-- The state after a block. -/
def absorb (a : State) (block : Bytes) : State :=
  let words := (lanesOf (rate / 8) block).toArray
  permute (Vector.ofFn fun i => a.get i ^^^ words.getD i.val 0)

/-- The state after some blocks. -/
def absorbBlocks : Nat → State → Bytes → State
  | 0, a, _ => a
  | n + 1, a, data => absorbBlocks n (absorb a (data.take rate)) (data.drop rate)

/-- The bytes of a lane. -/
def laneBytes (word : UInt64) : Bytes := Bytes.littleEndian 8 word.toNat

/-- The digest of a message, thirty-two bytes. -/
def digest (message : Bytes) : Bytes :=
  let padded := message ++ padding message.length
  let a := absorbBlocks (padded.length / rate) (Vector.replicate 25 0) padded
  laneBytes (lane a 0 0) ++ laneBytes (lane a 1 0) ++ laneBytes (lane a 2 0) ++
    laneBytes (lane a 3 0)

/-! ## Laws -/

@[simp] theorem length_digest (message : Bytes) : (digest message).length = 32 := by
  simp [digest, laneBytes]

end TokenBridge.Keccak
