import TokenBridge.Value

/-!
# Values as keys

Which values a table can be asked for. A value that its owner may change is no key, nor is one that
contains such a value.
-/

namespace TokenBridge.Value

mutual

/-- Whether a table can be asked for a value. -/
def isKey : Value → Bool
  | .buffer _ | .list _ | .map _ | .view _ => false
  | .tuple items => areKeys items
  | .variant _ value => isKey value
  | .trimmed amount decimals => isKey amount && isKey decimals
  | .signature guardianIndex r s recoveryId =>
    isKey guardianIndex && isKey r && isKey s && isKey recoveryId
  | .attestation version guardianSet signatures body =>
    isKey version && isKey guardianSet && areKeys signatures && isKey body
  | .statusRecord status failed message url explorer =>
    isKey status && isKey failed && isKey message && isKey url && isKey explorer
  | .relayError message status url explorer =>
    isKey message && isKey status && isKey url && isKey explorer
  | _ => true

/-- Whether a table can be asked for each of some values. -/
def areKeys : List Value → Bool
  | [] => true
  | v :: rest => isKey v && areKeys rest

end

end TokenBridge.Value
