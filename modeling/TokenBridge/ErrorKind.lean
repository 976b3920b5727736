/-!
# Kinds of errors

Every error of the library is a cause with its own data; its kind says which family it belongs to.
The first five families are the library's own and are what a caller is meant to handle. The others
arise when an argument has the wrong form: they are errors of the caller.
-/

namespace TokenBridge

/-- The family of an error. -/
inductive ErrorKind where
  /-- Settings that cannot be used. -/
  | configuration
  /-- Bytes or a value that a schema does not admit. -/
  | schemaViolation
  /-- A number that does not fit the width it is written at. -/
  | valueOutOfRange
  /-- An attestation that is cut short or carries no signatures. -/
  | malformedAttestation
  /-- A relay network that has no status to report. -/
  | statusUnavailable
  /-- An argument of the right kind with a value that has no meaning. -/
  | invalidValue
  /-- An integer that a fixed number of bytes cannot hold. -/
  | overflow
  /-- A value of the wrong kind. -/
  | wrongKind
  /-- A value that lacks the member which is asked of it. -/
  | missingMember
  /-- Bytes that are not the text they should be. -/
  | undecodableText
  /-- A key that is not in a table. -/
  | missingKey
  /-- A web address that a client cannot use. -/
  | invalidAddress
  /-- A result that there is no memory for. -/
  | outOfMemory
  /-- A value nested more deeply than a reader follows. -/
  | tooDeep
deriving DecidableEq, Repr

end TokenBridge
