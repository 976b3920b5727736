import TokenBridge.Attestation.Address
import TokenBridge.Attestation.Digest
import TokenBridge.Attestation.Loose
import TokenBridge.Curve.Ecdsa
import TokenBridge.Text.Lowercase
import TokenBridge.Value.Equality

/-!
# Recovery of signers

Who made a signature, found from the signature and the digest alone. Every scheme of digests is
tried side by side, so that a caller can tell which one a signer used. A signature that is no good
is a result like any other. Faults are a field of the wrong kind, and a recovery id that stands for
nothing and has too many digits for a result that says so.
-/

namespace TokenBridge.Attestation

/-- Why a signature has no signer. -/
inductive RecoveryFault where
  /-- A recovery id other than 0, 1, 27 and 28, as it is shown. -/
  | invalidRecoveryId (shown : String)
  /-- An `r` or `s` that is not of thirty-two bytes. -/
  | wrongPartLength
  /-- An `r` or `s` that is zero or not below the order of the curve. -/
  | partOutOfRange
  /-- An `r` that is no coordinate of a point of the curve. -/
  | noPoint (r : Nat)
  /-- A public key that is the point at infinity. -/
  | pointAtInfinity
deriving DecidableEq, Repr

/-- The wording of a failed recovery. -/
def RecoveryFault.message : RecoveryFault → String
  | .invalidRecoveryId shown => "invalid recovery id " ++ shown
  | .wrongPartLength => "r and s must be 32 bytes each"
  | .partOutOfRange => "signature r or s out of range"
  | .noPoint r => s!"sig is invalid, {r} cannot be the x coord for point on curve"
  | .pointAtInfinity => "recovered point at infinity"

/-- What came of a signature under one digest. -/
inductive Recovery where
  /-- The address of the signer. -/
  | signer (address : String)
  /-- No signer. -/
  | failed (fault : RecoveryFault)
deriving DecidableEq, Repr

/-- The parity that a recovery id stands for; ids from 27 on are counted from there. -/
def parityOf? (recoveryId : Int) : Option Nat :=
  match if 27 ≤ recoveryId then recoveryId - 27 else recoveryId with
  | 0 => some 0
  | 1 => some 1
  | _ => none

/-- The signer that a public key belongs to. -/
def Recovery.ofPoint : Curve.Point → Recovery
  | .infinity => .failed .pointAtInfinity
  | .affine x y => .signer (Address.ofCoordinates x y)

/-- The signer of a digest under a parity. The digest is taken as a big-endian number whatever its
length. -/
def recoverUnder (digest : Bytes) (signature : GuardianSignature) (parity : Nat) : Recovery :=
  if signature.r.length ≠ 32 ∨ signature.s.length ≠ 32 then .failed .wrongPartLength
  else
    let r := Bytes.readBigEndian signature.r
    let s := Bytes.readBigEndian signature.s
    if ¬(0 < r ∧ r < Curve.order ∧ 0 < s ∧ s < Curve.order) then .failed .partOutOfRange
    else
      match Curve.recover (Bytes.readBigEndian digest) ⟨r, s, parity⟩ with
      | none => .failed (.noPoint r)
      | some key => .ofPoint key

/-- The signer of a digest. -/
def recoverAddress (digest : Bytes) (signature : GuardianSignature) : Except Fault Recovery :=
  match parityOf? signature.recoveryId with
  | some parity => .ok (recoverUnder digest signature parity)
  | none => do
    let shown ← liftDigits (Number.decimal signature.recoveryId)
    .ok (.failed (.invalidRecoveryId shown))

/-! ## Signatures with unchecked fields -/

/-- The number of an item of a digest: an integer is itself, and a single character or byte is its
own number. -/
def itemNumber (v : Value) : Except Fault Int :=
  match v.int?, v, v.byteString? with
  | some n, _, _ => .ok n
  | none, .text s, _ =>
    match s.toList with
    | [c] => .ok c.toNat
    | _ => .error (.field .wrongKind)
  | none, _, some [byte] => .ok byte.toNat
  | none, _, _ => .error (.field .wrongKind)

/-- The number of items one after another, each of which counts 256 times the next. -/
def itemsNumber (items : List Value) : Except Fault Int := do
  let numbers ← items.mapM itemNumber
  .ok (numbers.foldl (fun total n => total * 256 + n) 0)

/-- The number of a digest, which may be anything with items; the items of a text are its
characters, and those of a map are its keys. -/
def digestNumber (v : Value) : Except Fault Int :=
  match v, v.byteString?, v.items? with
  | .text s, _, _ => itemsNumber (s.toList.map fun c => .text (String.singleton c))
  | .map entries, _, _ | .view entries, _, _ =>
    itemsNumber (entries.map fun entry => .text entry.1)
  | _, some data, _ => .ok (Bytes.readBigEndian data)
  | _, none, some items => itemsNumber items
  | _, none, none => .error (.field .wrongKind)

/-- The signer of a number under a signature whose parts are in range. The digest is looked at only
if the first part is a coordinate of a point. -/
def recoverPoint (digest : Value) (r s parity : Nat) : Except Fault Recovery :=
  if (Curve.lift? r parity).isNone then .ok (.failed (.noPoint r))
  else do
    let z ← digestNumber digest
    match Curve.recover (z % Curve.order).toNat ⟨r, s, parity⟩ with
    | none => .ok (.failed (.noPoint r))
    | some key => .ok (.ofPoint key)

/-- The signer of a digest. A recovery id may be any number, but a point is recovered under an
integer only. -/
def LooseSignature.recover (digest : Value) (x : LooseSignature) : Except Fault Recovery :=
  match x.recoveryId.quantity?, x.recoveryId.equalInt?.bind parityOf? with
  | none, _ => .error (.field .wrongKind)
  | some _, none => do
    let shown ← liftDigits x.recoveryId.printed
    .ok (.failed (.invalidRecoveryId shown))
  | some _, some parity => do
    if !(← x.hasPartLengths) then .ok (.failed .wrongPartLength)
    else do
      let r := Bytes.readBigEndian (← liftField x.r.toByteString)
      let s := Bytes.readBigEndian (← liftField x.s.toByteString)
      if ¬(0 < r ∧ r < Curve.order ∧ 0 < s ∧ s < Curve.order) then .ok (.failed .partOutOfRange)
      else if x.recoveryId.int?.isNone then .error (.field .wrongKind)
      else recoverPoint digest r s parity

/-! ### Agreement on checked fields -/

theorem recoverPoint_bytes (digest : Bytes) (r s parity : Nat) :
    recoverPoint (.bytes digest) r s parity
      = .ok (match Curve.recover (Bytes.readBigEndian digest) ⟨r, s, parity⟩ with
        | none => .failed (.noPoint r)
        | some key => .ofPoint key) := by
  have same : ((Bytes.readBigEndian digest : Int) % Curve.order).toNat
      = Bytes.readBigEndian digest % Curve.order := by
    rw [← Int.natCast_emod, Int.toNat_natCast]
  have number : digestNumber (.bytes digest) = .ok (Bytes.readBigEndian digest : Int) := rfl
  unfold recoverPoint
  cases h : Curve.lift? r parity with
  | none => simp [Curve.recover_eq_none _ ⟨r, s, parity⟩ h]
  | some key =>
    simp only [Option.isNone_some, Bool.false_eq_true, if_false, number, bind, Except.bind, same,
      Curve.recover_mod]
    cases Curve.recover (Bytes.readBigEndian digest) ⟨r, s, parity⟩ <;> rfl

theorem LooseSignature.recover_loosen (digest : Bytes) (x : GuardianSignature) :
    x.loosen.recover (.bytes digest) = recoverAddress digest x := by
  have lengths : x.loosen.hasPartLengths = .ok (x.r.length == 32 && x.s.length == 32) := by
    simp only [LooseSignature.hasPartLengths, GuardianSignature.loosen, requireLength,
      Value.length?, Value.byteString?, Option.map_some, Option.some_or, bind, Except.bind]
    by_cases h : x.r.length = 32 <;> simp [h]
  have id : x.loosen.recoveryId = .int x.recoveryId := rfl
  have r : x.loosen.r.toByteString = .ok x.r := rfl
  have s : x.loosen.s.toByteString = .ok x.s := rfl
  simp only [LooseSignature.recover, recoverAddress, lengths, id, r, s, Value.quantity?,
    Value.equalInt?, Value.int?, Value.strictInt?, Option.map_some, Option.bind_some, liftField,
    bind, Except.bind, Option.isNone_some, Bool.false_eq_true, if_false, recoverPoint_bytes]
  generalize parityOf? x.recoveryId = found
  cases found with
  | none => rw [Value.printed_int]
  | some parity =>
    unfold recoverUnder
    generalize Curve.order = order
    by_cases hr : x.r.length = 32 <;> by_cases hs : x.s.length = 32 <;> simp only [hr, hs] <;>
      simp [apply_ite (Except.ok (ε := Fault))]

/-! ## Reports -/

/-- What came of a signature under every scheme. -/
structure RecoveryReport where
  signature : LooseSignature
  digests : List (DigestScheme × Bytes)
  results : List (DigestScheme × Recovery)

/-- The digests of a body, one for each scheme. -/
def digestsOf (body : Bytes) : List (DigestScheme × Bytes) :=
  DigestScheme.all.map fun scheme => (scheme, scheme.digest body)

/-- A result for each of the digests, as long as there is one. -/
def recoverEach (recover : Bytes → Except Fault Recovery) (digests : List (DigestScheme × Bytes)) :
    Except Fault (List (DigestScheme × Recovery)) :=
  digests.mapM fun (scheme, digest) => do
    let result ← recover digest
    .ok (scheme, result)

/-- What comes of a signature of a body under every scheme. -/
def recoverSigner (signature : GuardianSignature) (body : Bytes) :
    Except Fault RecoveryReport := do
  let results ← recoverEach (recoverAddress · signature) (digestsOf body)
  .ok { signature := signature.loosen, digests := digestsOf body, results }

/-- What comes of a signature of a body of any kind under every scheme. The body is digested before
the signature is looked at. -/
def recoverSignerOf (signature body : Value) : Except Fault RecoveryReport := do
  let data ← liftField body.toByteString
  let signature ← LooseSignature.ofValue signature
  let results ← recoverEach (fun digest => signature.recover (.bytes digest)) (digestsOf data)
  .ok { signature, digests := digestsOf data, results }

/-- What comes of every signature of an attestation. -/
def recoverAll (x : Attestation) : Except Fault (List RecoveryReport) :=
  x.signatures.mapM fun signature => recoverSigner signature x.body

namespace RecoveryReport

/-- The schemes under which an account signed, by its address in any letter case. -/
def matchingSchemes (report : RecoveryReport) (address : String) : List DigestScheme :=
  let wanted := Text.lowercase address
  report.results.filterMap fun (scheme, result) =>
    match result with
    | .signer found => if Text.lowercase found = wanted then some scheme else none
    | .failed _ => none

/-- The schemes under which the account with an address of any kind signed. Bytes can be put into
lower case as well, but are the address of nobody. -/
def matchingSchemesOf (report : RecoveryReport) (address : Value) :
    Except Fault (List DigestScheme) :=
  match address, address.byteString? with
  | .text s, _ => .ok (report.matchingSchemes s)
  | _, some _ => .ok []
  | _, none => .error .partsMissing

/-- The reports on the failed recoveries. A report that cannot be written is left out. -/
def log (report : RecoveryReport) : List LogRecord :=
  report.results.filterMap fun (scheme, result) =>
    match result, report.signature.guardianIndex.printed with
    | .failed fault, .ok guardian =>
      some ⟨"vaa.recovery", .debug,
        "Guardian " ++ guardian ++ s!": {scheme.name} recovery failed: " ++ fault.message⟩
    | _, _ => none

/-- The text of a result. -/
def resultText : Recovery → String
  | .signer address => address
  | .failed fault => s!"(recover failed: {fault.message})"

/-- A part of a signature in hexadecimal: bytes digit by digit, or a double. -/
def partText (part : Value) : Except Fault Value :=
  match part, part.byteString? with
  | _, some data => .ok (.text ("0x" ++ Bytes.hex data))
  | .float x, none => .ok (.text ("0x" ++ x.hexText))
  | _, none => .error .partsMissing

/-- The summary of a report. -/
def summary (report : RecoveryReport) : Except Fault Value := do
  let r ← partText report.signature.r
  let s ← partText report.signature.s
  .ok <| .map
    [("sig", .map
        [("guardianIndex", report.signature.guardianIndex), ("r", r), ("s", s),
          ("v", report.signature.recoveryId)]),
      ("digests", .map (report.digests.map fun (scheme, digest) =>
        (scheme.name, .text ("0x" ++ Bytes.hex digest)))),
      ("recovered", .map (report.results.map fun (scheme, result) =>
        (scheme.name, .text (resultText result))))]

end RecoveryReport

/-! ## Signing -/

/-- The address of a private key's account, which for the key zero is that of the coordinates
zero. -/
def addressOfKey (key : Bytes) : String :=
  let (x, y) := (Curve.publicKey key).coordinates
  Address.ofCoordinates x y

/-- The signature of a digest by a guardian. -/
def signDigest (digest key : Bytes) (guardianIndex : Int) : Except Fault GuardianSignature :=
  if digest.length ≠ 32 then .error (.wrongDigestLength digest.length)
  else if key.length ≠ 32 then .error (.wrongKeyLength key.length)
  else
    let signature := Curve.sign digest key
    .ok {
      guardianIndex
      r := Bytes.bigEndian 32 signature.r
      s := Bytes.bigEndian 32 signature.s
      recoveryId := signature.parity }

/-- The signature of a digest of any kind by a guardian. -/
def signDigestOf (digest key guardianIndex : Value) : Except Fault LooseSignature := do
  let digestLength ← requireLength digest
  if digestLength ≠ 32 then .error (.wrongDigestLength digestLength)
  else do
    let keyLength ← requireLength key
    if keyLength ≠ 32 then .error (.wrongKeyLength keyLength)
    else do
      let digest ← liftField digest.toByteString
      let key ← liftField key.toByteString
      let signature ← signDigest digest key 0
      .ok { signature.loosen with guardianIndex }

end TokenBridge.Attestation
