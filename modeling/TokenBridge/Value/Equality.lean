import TokenBridge.Number.Quantity
import TokenBridge.Value

/-!
# Equal values

When two values are the same. Numbers are compared as numbers, whatever sort they are of, and byte
strings by their bytes; a list is never the same as a tuple; maps are the same when they have the
same entries, in any order and whoever may change them. All other values must be of one kind and agree in every part.
-/

namespace TokenBridge.Value

/-- The number that a value is, where a truth value counts as zero or one. -/
def quantity? : Value → Option Quantity
  | .float x => some (.double x)
  | v => v.int?.map .whole

/-- Two values without parts are the same. -/
def equalLeaf (v w : Value) : Bool :=
  match v.quantity?, w.quantity?, v.byteString?, w.byteString? with
  | some a, some b, _, _ => a.equal b
  | none, none, some a, some b => a == b
  | _, _, _, _ =>
    match v, w with
    | .null, .null => true
    | .text s, .text t => s == t
    | _, _ => false

mutual

/-- Two values are the same. -/
def equal : Value → Value → Bool
  | .list items, w => match w with
    | .list others => equalItems items others
    | _ => false
  | .tuple items, w => match w with
    | .tuple others => equalItems items others
    | _ => false
  | .map entries, w => match w with
    | .map others | .view others =>
      entries.length == others.length && haveEqualEntries entries others
    | _ => false
  | .view entries, w => match w with
    | .map others | .view others =>
      entries.length == others.length && haveEqualEntries entries others
    | _ => false
  | .variant name value, w => match w with
    | .variant name' value' => name == name' && equal value value'
    | _ => false
  | .trimmed amount decimals, w => match w with
    | .trimmed amount' decimals' => equal amount amount' && equal decimals decimals'
    | _ => false
  | .signature guardianIndex r s recoveryId, w => match w with
    | .signature guardianIndex' r' s' recoveryId' =>
      equal guardianIndex guardianIndex' && equal r r' && equal s s' && equal recoveryId recoveryId'
    | _ => false
  | .attestation version guardianSet signatures body, w => match w with
    | .attestation version' guardianSet' signatures' body' =>
      equal version version' && equal guardianSet guardianSet' &&
        equalItems signatures signatures' && equal body body'
    | _ => false
  | .statusRecord status failed message url explorer, w => match w with
    | .statusRecord status' failed' message' url' explorer' =>
      equal status status' && equal failed failed' && equal message message' && equal url url' &&
        equal explorer explorer'
    | _ => false
  | .relayError message status url explorer, w => match w with
    | .relayError message' status' url' explorer' =>
      equal message message' && equal status status' && equal url url' && equal explorer explorer'
    | _ => false
  | v, w => equalLeaf v w

/-- Two sequences are as long as each other, and the same at every place. -/
def equalItems : List Value → List Value → Bool
  | [], others => others.isEmpty
  | v :: rest, others => match others with
    | [] => false
    | w :: more => equal v w && equalItems rest more

/-- Every entry of the first map is one of the second. -/
def haveEqualEntries : List (String × Value) → List (String × Value) → Bool
  | [], _ => true
  | (key, v) :: rest, others => match others.lookup key with
    | some w => equal v w && haveEqualEntries rest others
    | none => false

end

/-! ## Laws -/

@[simp] theorem equal_int (m n : Int) : equal (.int m) (.int n) = decide (m = n) := by
  simp [equal, equalLeaf, quantity?, int?, strictInt?]

@[simp] theorem equal_text (s t : String) : equal (.text s) (.text t) = (s == t) := by
  simp [equal, equalLeaf, quantity?, int?, strictInt?, byteString?]

end TokenBridge.Value
