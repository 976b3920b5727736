import TokenBridge.Attestation.Frame

/-!
# Bodies of attestations

The body of an attestation begins with a header of fifty-one bytes that says when and where the
message was emitted; the rest is the message's payload.
-/

namespace TokenBridge.Attestation

open Value (uintBytes)

/-- The header of a body and its payload. -/
structure Body where
  timestamp : Int
  nonce : Int
  emitterChain : Int
  emitterAddress : Bytes
  sequence : Int
  consistencyLevel : Int
  payload : Bytes
deriving DecidableEq, Repr

namespace Body

/-- The body that bytes write. -/
def parse (data : Bytes) : Except Fault Body :=
  if data.length < bodyHeaderLength then .error (.bodyTruncated data.length)
  else
    let number (start width : Nat) : Int := Bytes.readBigEndian ((data.drop start).take width)
    .ok {
      timestamp := number 0 4
      nonce := number 4 4
      emitterChain := number 8 2
      emitterAddress := (data.drop 10).take 32
      sequence := number 42 8
      consistencyLevel := number 50 1
      payload := data.drop bodyHeaderLength }

/-- The bytes of a body. The address is judged first; then the first bad number, in the order of the
wire, decides. -/
def serialize (x : Body) : Except Fault Bytes :=
  if x.emitterAddress.length ≠ 32 then .error .wrongAddressLength
  else liftField do
    let timestamp ← uintBytes 4 x.timestamp
    let nonce ← uintBytes 4 x.nonce
    let chain ← uintBytes 2 x.emitterChain
    let sequence ← uintBytes 8 x.sequence
    let level ← uintBytes 1 x.consistencyLevel
    .ok (timestamp ++ nonce ++ chain ++ x.emitterAddress ++ sequence ++ level ++ x.payload)

end Body

end TokenBridge.Attestation
