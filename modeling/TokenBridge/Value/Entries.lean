import TokenBridge.Value

/-!
# Entries of maps

Maps as lists of entries in the order in which their keys were first put: putting an entry, putting
one at a path of keys, and laying one map over another, where a map over a map merges and anything
else replaces. A view is anything else here, although it is looked into as a map is.
-/

namespace TokenBridge.Value

/-- The entries of a map. -/
abbrev Entries := List (String × Value)

/-- The entries with a key put to a value, in its old place if it has one. -/
def put (entries : Entries) (key : String) (v : Value) : Entries :=
  match entries with
  | [] => [(key, v)]
  | (k, old) :: rest => if k = key then (k, v) :: rest else (k, old) :: put rest key v

/-- The entries of a value that is a map, and none of any other. -/
def entriesOf : Value → Entries
  | .map entries => entries
  | _ => []

/-- The entries with the value at a path of keys put; what stands in the way becomes a map. -/
def putAt (entries : Entries) : List String → Value → Entries
  | [], _ => entries
  | [key], v => put entries key v
  | key :: path, v =>
    put entries key (.map (putAt (((entries.lookup key).map entriesOf).getD []) path v))

/-- The value at a path of keys. -/
def at? (v : Value) : List String → Option Value
  | [] => some v
  | key :: path =>
    match v with
    | .map entries => (entries.lookup key).bind (at? · path)
    | _ => none

/-- The value at a path of keys that may lead through views too. -/
def find? (v : Value) : List String → Option Value
  | [] => some v
  | key :: path => v.entries?.bind fun entries => (entries.lookup key).bind (find? · path)

mutual

/-- A value laid over what was there. -/
def overlay (old : Option Value) : Value → Value
  | .map entries =>
    match old with
    | some (.map base) => .map (merge base entries)
    | _ => .map entries
  | v => v

/-- Entries laid over others, one by one. -/
def merge (base : Entries) : Entries → Entries
  | [] => base
  | (key, v) :: rest => merge (put base key (overlay (base.lookup key) v)) rest

end

/-! ## Laws -/

@[simp] theorem lookup_put_self (entries : Entries) (key : String) (v : Value) :
    (put entries key v).lookup key = some v := by
  induction entries with
  | nil => simp [put]
  | cons entry rest ih =>
    obtain ⟨k, old⟩ := entry
    by_cases h : k = key
    · simp [put, h]
    · have : (key == k) = false := by simp [Ne.symm h]
      simp [put, h, List.lookup_cons, this, ih]

theorem lookup_put_of_ne {entries : Entries} {key other : String} {v : Value} (h : other ≠ key) :
    (put entries key v).lookup other = entries.lookup other := by
  induction entries with
  | nil => simp [put, h]
  | cons entry rest ih =>
    obtain ⟨k, old⟩ := entry
    by_cases hk : k = key
    · have : (other == k) = false := by simp [hk, h]
      simp [put, hk, List.lookup_cons]
      simp [hk ▸ this]
    · simp [put, hk, List.lookup_cons, ih]

end TokenBridge.Value
