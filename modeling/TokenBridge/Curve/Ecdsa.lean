import TokenBridge.Curve.Point
import TokenBridge.Hash.Sha256

/-!
# Recoverable signatures

Signatures on secp256k1 that carry the parity of their nonce's point, so that the public key can be
recovered from them. The nonce is drawn from the key and the digest by keyed hashing, and of the two
equivalent signatures the one with the smaller second part is taken.
-/

namespace TokenBridge.Curve

/-- A signature: the first coordinate of the nonce's point, the proof, and the parity of the point's
second coordinate. -/
structure Signature where
  r : Nat
  s : Nat
  parity : Nat
deriving DecidableEq, Repr

/-- The nonce of a digest under a key. -/
def nonce (digest key : Bytes) : Nat :=
  let v0 : Bytes := List.replicate 32 1
  let k0 : Bytes := List.replicate 32 0
  let k1 := Sha256.keyed k0 (v0 ++ 0 :: key ++ digest)
  let v1 := Sha256.keyed k1 v0
  let k2 := Sha256.keyed k1 (v1 ++ 1 :: key ++ digest)
  let v2 := Sha256.keyed k2 v1
  Bytes.readBigEndian (Sha256.keyed k2 v2)

/-- The public key of a private key, which counts modulo the order of the curve. -/
def publicKey (key : Bytes) : Point :=
  generator.multiple (Bytes.readBigEndian key)

/-- The signature of a digest under a key. -/
def sign (digest key : Bytes) : Signature :=
  let k := nonce digest key
  let (r, y) := (generator.multiple k).coordinates
  let z := Bytes.readBigEndian digest
  let s := inverse order k * (z + r * Bytes.readBigEndian key) % order
  if 2 * s < order then ⟨r, s, y % 2⟩ else ⟨r, order - s, 1 - y % 2⟩

/-- The public key under which a signature of a number is valid; none when the first part is no
coordinate of a point. -/
def recover (z : Nat) (signature : Signature) : Option Point :=
  (lift? signature.r signature.parity).map fun nonceKey =>
    let fromMessage := Jacobian.multiple ((order - z % order) % order) (.ofPoint generator)
    let fromNonce := Jacobian.multiple signature.s (.ofPoint nonceKey)
    let inv := inverse order signature.r
    (Jacobian.multiple inv (Jacobian.add fromMessage fromNonce)).toPoint

/-! ## Laws -/

theorem recover_mod (z : Nat) (signature : Signature) :
    recover (z % order) signature = recover z signature := by
  simp only [recover, Nat.mod_mod]

theorem recover_eq_none (z : Nat) (signature : Signature)
    (h : lift? signature.r signature.parity = none) : recover z signature = none := by
  simp only [recover, h, Option.map_none]

end TokenBridge.Curve
