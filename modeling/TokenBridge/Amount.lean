import TokenBridge.Value.Arithmetic
import TokenBridge.Value.Display

/-!
# Trimmed amounts

Token amounts as they are carried between chains: with at most eight decimals, so that they fit
sixty-four bits everywhere. Trimming drops the dust below that precision; untrimming scales to the
precision of the receiving token.
-/

namespace TokenBridge

/-- An amount with its number of decimals. -/
structure TrimmedAmount where
  amount : Int
  decimals : Int
deriving DecidableEq, Repr

namespace Amount

/-- The greatest number of decimals that is carried. -/
def maxDecimals : Int := 8

/-- The greatest amount that is carried. -/
def maxAmount : Int := 2 ^ 64 - 1

/-- Why an amount cannot be carried. -/
inductive Fault where
  /-- A number of decimals that one byte cannot hold. -/
  | decimalsOutOfRange
  /-- An amount that sixty-four bits cannot hold. -/
  | amountOutOfRange
  /-- An amount that is too large once it is trimmed, as it is shown, if it can be. -/
  | trimmedTooLarge (shown : Except Number.DigitFault String)
  /-- A value that is no number where one belongs. -/
  | notANumber
  /-- Values that cannot be scaled. -/
  | arithmetic (fault : Value.ArithmeticFault)
  /-- A value that is no trimmed amount where one belongs. -/
  | notAnAmount

/-- The family of a fault. -/
def Fault.kind : Fault → ErrorKind
  | .decimalsOutOfRange | .amountOutOfRange => .valueOutOfRange
  | .trimmedTooLarge shown => Number.kindShowing shown .valueOutOfRange
  | .notANumber => .wrongKind
  | .arithmetic fault => fault.kind
  | .notAnAmount => .missingMember

/-- The wording of a fault. -/
def Fault.message : Fault → String
  | .decimalsOutOfRange => "decimals out of range"
  | .amountOutOfRange => "amount out of range"
  | .trimmedTooLarge shown =>
    Number.messageShowing shown fun text => "trimmed amount " ++ text ++ " exceeds u64"
  | .notANumber => "the value is no number"
  | .arithmetic fault => fault.message
  | .notAnAmount => "the value is no trimmed amount"

/-- An amount at another number of decimals, rounded down. -/
def scale (amount fromDecimals toDecimals : Int) : Int :=
  if fromDecimals = toDecimals then amount
  else if toDecimals < fromDecimals then amount / 10 ^ (fromDecimals - toDecimals).toNat
  else amount * 10 ^ (toDecimals - fromDecimals).toNat

/-- A trimmed amount at the decimals of a token. -/
def untrim (x : TrimmedAmount) (toDecimals : Int) : Int :=
  scale x.amount x.decimals toDecimals

/-- An amount of a token as it is carried to a chain whose token has `toDecimals`. -/
def trim (amount fromDecimals toDecimals : Int) : Except Fault TrimmedAmount :=
  let decimals := min maxDecimals (min fromDecimals toDecimals)
  let trimmed := scale amount fromDecimals decimals
  if maxAmount < trimmed then .error (.trimmedTooLarge (Number.decimal trimmed))
  else .ok ⟨trimmed, decimals⟩

/-- The number that holds the decimals in its low byte and the amount above it. -/
def pack (x : TrimmedAmount) : Except Fault Int :=
  if ¬(0 ≤ x.decimals ∧ x.decimals ≤ 255) then .error .decimalsOutOfRange
  else if ¬(0 ≤ x.amount ∧ x.amount ≤ maxAmount) then .error .amountOutOfRange
  else .ok (x.amount * 256 + x.decimals)

/-- The amount and the decimals that a packed number holds. -/
def unpack (packed : Int) : TrimmedAmount :=
  ⟨packed / 256, packed % 256⟩

/-! ## Values of any kind -/

/-- The integer of a value that must be one. -/
def requireNumber (v : Value) : Except Fault Int :=
  match v.int? with
  | some n => .ok n
  | none => .error .notANumber

/-- The number, integer or not, that a value must be. -/
def requireQuantity (v : Value) : Except Fault Quantity :=
  match v.quantity? with
  | some q => .ok q
  | none => .error .notANumber

/-- The parts of a value that must be a trimmed amount. -/
def requireParts : Value → Except Fault (Value × Value)
  | .trimmed amount decimals => .ok (amount, decimals)
  | _ => .error .notAnAmount

/-- The result of a computation with values. -/
def liftArithmetic : Except Value.ArithmeticFault Value → Except Fault Value
  | .ok v => .ok v
  | .error fault => .error (.arithmetic fault)

/-- Scaling of an amount of any kind. Between equal numbers of decimals nothing is asked of it; else
it is divided by a power of ten, or taken as many times. -/
def scaleOf (amount fromDecimals toDecimals : Value) : Except Fault Value :=
  if fromDecimals.equal toDecimals then .ok amount
  else do
    let f ← requireQuantity fromDecimals
    let t ← requireQuantity toDecimals
    liftArithmetic <|
      if t.less f then do amount.dividedBy (← Value.powerOfTen f t)
      else do amount.times (← Value.powerOfTen t f)

/-- The smaller of two numbers, the first of which wins a tie. -/
def smaller (a b : Value) : Except Fault Value := do
  let x ← requireQuantity a
  let y ← requireQuantity b
  .ok (if y.less x then b else a)

/-- Trimming of an amount of any kind; what is trimmed must be a number. -/
def trimOf (amount fromDecimals toDecimals : Value) : Except Fault Value := do
  let decimals ← smaller (← smaller (.int maxDecimals) fromDecimals) toDecimals
  let trimmed ← scaleOf amount fromDecimals decimals
  let size ← requireQuantity trimmed
  if (Quantity.whole maxAmount).less size then .error (.trimmedTooLarge trimmed.printed)
  else .ok (.trimmed trimmed decimals)

/-- Untrimming of a value that must be a trimmed amount. -/
def untrimOf (x toDecimals : Value) : Except Fault Value := do
  let (amount, decimals) ← requireParts x
  scaleOf amount decimals toDecimals

/-- Whether a value lies between zero and a bound; only a number can. -/
def isWithin? (bound : Nat) : Value → Option Bool
  | .float x => some (x.isWithin bound)
  | v => v.int?.map fun n : Int => decide (0 ≤ n ∧ n ≤ (bound : Int))

/-- Packing of a value that must be a trimmed amount of numbers; the decimals are judged before the
amount is looked at, and both before a number with a fraction is refused. -/
def packOf (x : Value) : Except Fault Int := do
  let (amount, decimals) ← requireParts x
  match isWithin? 255 decimals with
  | none => .error .notANumber
  | some false => .error .decimalsOutOfRange
  | some true =>
    match isWithin? maxAmount.toNat amount with
    | none => .error .notANumber
    | some false => .error .amountOutOfRange
    | some true => do
      let a ← requireNumber amount
      let d ← requireNumber decimals
      pack ⟨a, d⟩

/-- Unpacking of a value that must be a number. -/
def unpackOf (packed : Value) : Except Fault TrimmedAmount := do
  let n ← requireNumber packed
  .ok (unpack n)

/-! ## Agreement on integers -/

theorem scaleOf_int (amount fromDecimals toDecimals : Int) :
    scaleOf (.int amount) (.int fromDecimals) (.int toDecimals)
      = .ok (.int (scale amount fromDecimals toDecimals)) := by
  unfold scaleOf scale
  by_cases same : fromDecimals = toDecimals
  · simp [same]
  · by_cases down : toDecimals < fromDecimals
    · have ten : (0 : Int) ≤ 10 ^ (fromDecimals - toDecimals).toNat := Int.pow_nonneg (by decide)
      simp [same, down, requireQuantity, bind, Except.bind, liftArithmetic,
        Value.powerOfTen_whole (Int.le_of_lt down), Value.dividedBy_int amount ten]
    · simp [same, down, requireQuantity, bind, Except.bind, liftArithmetic,
        Value.powerOfTen_whole (Int.not_lt.1 down), Value.times_int]

end Amount

end TokenBridge
