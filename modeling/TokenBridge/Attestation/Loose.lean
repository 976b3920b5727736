import TokenBridge.Attestation.Body

/-!
# Attestations with fields of any kind

Signatures, attestations and bodies as callers hand them over, with fields that nobody has checked.
Each operation takes the fields in the order in which the operation on checked fields does, and
stops at the first that is of the wrong kind; on fields of the right kind the two agree.
-/

namespace TokenBridge.Attestation

/-- A signature with unchecked fields. -/
structure LooseSignature where
  guardianIndex : Value
  r : Value
  s : Value
  recoveryId : Value

/-- An attestation with unchecked fields, and with values of any kind for its signatures. -/
structure LooseAttestation where
  version : Value
  guardianSet : Value
  signatures : List Value
  body : Value

/-- A body with unchecked fields. -/
structure LooseBody where
  timestamp : Value
  nonce : Value
  emitterChain : Value
  emitterAddress : Value
  sequence : Value
  consistencyLevel : Value
  payload : Value

namespace LooseSignature

/-- The signature that a value must be. -/
def ofValue : Value → Except Fault LooseSignature
  | .signature guardianIndex r s recoveryId => .ok { guardianIndex, r, s, recoveryId }
  | _ => .error .partsMissing

/-- A signature as a value. -/
def toValue (x : LooseSignature) : Value := .signature x.guardianIndex x.r x.s x.recoveryId

end LooseSignature

/-- The attestation that a value must be. -/
def LooseAttestation.ofValue : Value → Except Fault LooseAttestation
  | .attestation version guardianSet signatures body =>
    .ok { version, guardianSet, signatures, body }
  | _ => .error .partsMissing

/-- An attestation as a value. -/
def LooseAttestation.toValue (x : LooseAttestation) : Value :=
  .attestation x.version x.guardianSet x.signatures x.body

/-- A signature whose fields are known, as one with unchecked fields. -/
def GuardianSignature.loosen (x : GuardianSignature) : LooseSignature :=
  ⟨.int x.guardianIndex, .bytes x.r, .bytes x.s, .int x.recoveryId⟩

/-- An attestation whose fields are known, as one with unchecked fields. -/
def loosen (x : Attestation) : LooseAttestation :=
  ⟨.int x.version, .int x.guardianSet, x.signatures.map (·.loosen.toValue), .bytes x.body⟩

/-- A body whose fields are known, as one with unchecked fields. -/
def Body.loosen (x : Body) : LooseBody :=
  ⟨.int x.timestamp, .int x.nonce, .int x.emitterChain, .bytes x.emitterAddress, .int x.sequence,
    .int x.consistencyLevel, .bytes x.payload⟩

/-- The length of a value that must have one. -/
def requireLength (v : Value) : Except Fault Nat :=
  match v.length? with
  | some n => .ok n
  | none => .error (.field .wrongKind)

namespace LooseSignature

/-- The bytes of a signature. -/
def toBytes (x : LooseSignature) : Except Value.ByteFault Bytes := do
  let index ← x.guardianIndex.toUintBytes 1
  let r ← x.r.toByteString
  let s ← x.s.toByteString
  let recovery ← x.recoveryId.toUintBytes 1
  .ok (index ++ r ++ s ++ recovery)

/-- The bytes of a value that must be a signature. -/
def bytesOf (v : Value) : Except Fault Bytes := do
  let x ← ofValue v
  liftField x.toBytes

/-- Whether both parts of a signature are of thirty-two bytes. -/
def hasPartLengths (x : LooseSignature) : Except Fault Bool := do
  let r ← requireLength x.r
  if r ≠ 32 then .ok false
  else do
    let s ← requireLength x.s
    .ok (s == 32)

end LooseSignature

/-- Whether the parts of all signatures are of thirty-two bytes; the first that are not decide. -/
def havePartLengths : List Value → Except Fault Bool
  | [] => .ok true
  | v :: rest => do
    let x ← LooseSignature.ofValue v
    if ← x.hasPartLengths then havePartLengths rest else .ok false

/-- The bytes of an attestation. -/
def LooseAttestation.serialize (x : LooseAttestation) : Except Fault Bytes :=
  if x.signatures.isEmpty then .error .unsigned
  else if 255 < x.signatures.length then .error (.tooManySignatures x.signatures.length)
  else do
    if !(← havePartLengths x.signatures) then .error .wrongPartLength
    else do
      let version ← liftField (x.version.toUintBytes 1)
      let guardianSet ← liftField (x.guardianSet.toUintBytes 4)
      let count ← liftField (Value.uintBytes 1 x.signatures.length)
      let signatures ← x.signatures.mapM LooseSignature.bytesOf
      let body ← liftField x.body.toByteString
      .ok (version ++ guardianSet ++ count ++ signatures.flatten ++ body)

namespace LooseBody

/-- A body with the arguments that may be left out given by name. -/
def ofArguments (chain address sequence payload : Value) (named : List (String × Value)) :
    Except Fault LooseBody :=
  if named.any fun entry => !(["timestamp", "nonce", "consistency_level"].contains entry.1) then
    .error .unknownArgument
  else
    let argument (name : String) (default : Int) : Value := (named.lookup name).getD (.int default)
    .ok {
      timestamp := argument "timestamp" 0
      nonce := argument "nonce" 0
      emitterChain := chain
      emitterAddress := address
      sequence
      consistencyLevel := argument "consistency_level" 1
      payload }

/-- The bytes of a body. -/
def serialize (x : LooseBody) : Except Fault Bytes := do
  let length ← requireLength x.emitterAddress
  if length ≠ 32 then .error .wrongAddressLength
  else liftField do
    let timestamp ← x.timestamp.toUintBytes 4
    let nonce ← x.nonce.toUintBytes 4
    let chain ← x.emitterChain.toUintBytes 2
    let address ← x.emitterAddress.toByteString
    let sequence ← x.sequence.toUintBytes 8
    let level ← x.consistencyLevel.toUintBytes 1
    let payload ← x.payload.toByteString
    .ok (timestamp ++ nonce ++ chain ++ address ++ sequence ++ level ++ payload)

end LooseBody

/-! ## Agreement on checked fields -/

private theorem toUintBytes_int (width : Nat) (n : Int) :
    (Value.int n).toUintBytes width = Value.uintBytes width n := rfl

private theorem toByteString_bytes (data : Bytes) :
    (Value.bytes data).toByteString = .ok data := rfl

private theorem requireLength_bytes (data : Bytes) :
    requireLength (.bytes data) = .ok data.length := rfl

theorem GuardianSignature.toBytes_loosen (x : GuardianSignature) :
    x.loosen.toBytes = x.toBytes := by
  simp only [LooseSignature.toBytes, GuardianSignature.loosen, toUintBytes_int,
    toByteString_bytes, GuardianSignature.toBytes, bind, Except.bind]

theorem Body.serialize_loosen (x : Body) : x.loosen.serialize = x.serialize := by
  simp only [LooseBody.serialize, Body.loosen, requireLength_bytes, toUintBytes_int,
    toByteString_bytes, Body.serialize, bind, Except.bind]

@[simp] theorem LooseSignature.ofValue_toValue (x : LooseSignature) :
    ofValue x.toValue = .ok x := rfl

theorem LooseSignature.bytesOf_loosen (x : GuardianSignature) :
    bytesOf x.loosen.toValue = liftField x.toBytes := by
  rw [← GuardianSignature.toBytes_loosen]
  rfl

theorem havePartLengths_loosen (xs : List GuardianSignature) :
    havePartLengths (xs.map (·.loosen.toValue))
      = .ok !(xs.any fun sig => sig.r.length != 32 || sig.s.length != 32) := by
  induction xs with
  | nil => rfl
  | cons x rest ih =>
    have here : x.loosen.hasPartLengths = .ok (x.r.length == 32 && x.s.length == 32) := by
      simp only [LooseSignature.hasPartLengths, GuardianSignature.loosen, requireLength_bytes,
        bind, Except.bind]
      by_cases h : x.r.length = 32 <;> simp [h]
    simp only [List.map_cons, havePartLengths, LooseSignature.ofValue_toValue, here, ih, bind,
      Except.bind, List.any_cons]
    by_cases hr : x.r.length = 32 <;> by_cases hs : x.s.length = 32 <;> simp [hr, hs]

theorem liftField_mapM (f : GuardianSignature → Except Value.ByteFault Bytes)
    (xs : List GuardianSignature) :
    xs.mapM (fun x => liftField (f x)) = liftField (xs.mapM f) := by
  induction xs with
  | nil => rfl
  | cons x rest ih =>
    simp only [List.mapM_cons, ih, bind, Except.bind, pure, Except.pure]
    cases f x with
    | error fault => rfl
    | ok data =>
      cases rest.mapM f with
      | error fault => rfl
      | ok others => rfl

theorem liftField_bind {α β : Type} (r : Except Value.ByteFault α)
    (next : α → Except Value.ByteFault β) :
    liftField (r.bind next) = (liftField r).bind fun a => liftField (next a) := by
  cases r <;> rfl

theorem liftField_ok {α : Type} (a : α) : liftField (.ok a) = .ok a := rfl

private theorem ok_bind {α β : Type} (a : α) (next : α → Except Fault β) :
    (Except.ok a).bind next = next a := rfl

theorem serialize_loosen (x : Attestation) : x.loosen.serialize = x.serialize := by
  have parts : x.signatures.mapM (fun sig => LooseSignature.bytesOf sig.loosen.toValue)
      = liftField (x.signatures.mapM GuardianSignature.toBytes) := by
    simp only [LooseSignature.bytesOf_loosen, liftField_mapM]
  simp only [LooseAttestation.serialize, loosen, List.isEmpty_map, List.length_map,
    havePartLengths_loosen, serialize, toUintBytes_int, toByteString_bytes, List.mapM_map,
    Function.comp_def, parts, bind, liftField_bind, liftField_ok, ok_bind, Bool.not_not]

end TokenBridge.Attestation
