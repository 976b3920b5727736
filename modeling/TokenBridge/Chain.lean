import TokenBridge.ErrorKind
import TokenBridge.Value.Display
import TokenBridge.Value.Key

/-!
# Chains

The chains that a transfer can name, and the numbers that messages write for them. The two columns
of the table have no repetitions, so each determines the other.
-/

namespace TokenBridge.Chain

/-- Every chain with its number. -/
def table : List (String × Nat) :=
  [("Solana", 1), ("Ethereum", 2), ("Terra", 3), ("Bsc", 4), ("Polygon", 5), ("Avalanche", 6),
    ("Oasis", 7), ("Algorand", 8), ("Aurora", 9), ("Fantom", 10), ("Karura", 11), ("Acala", 12),
    ("Klaytn", 13), ("Celo", 14), ("Near", 15), ("Moonbeam", 16), ("Neon", 17), ("Terra2", 18),
    ("Injective", 19), ("Osmosis", 20), ("Sui", 21), ("Aptos", 22), ("Arbitrum", 23),
    ("Optimism", 24), ("Gnosis", 25), ("Pythnet", 26), ("Xpla", 28), ("Btc", 29), ("Base", 30),
    ("Sei", 32), ("Rootstock", 33), ("Scroll", 34), ("Mantle", 35), ("Blast", 36), ("Xlayer", 37),
    ("Linea", 38), ("Berachain", 39), ("Seievm", 40), ("Unichain", 44), ("Worldchain", 45),
    ("Ink", 46), ("HyperEVM", 47), ("Monad", 48), ("Mezo", 50), ("Sonic", 52), ("Wormchain", 3104),
    ("Cosmoshub", 4000), ("Evmos", 4001), ("Kujira", 4002), ("Neutron", 4003), ("Celestia", 4004),
    ("Stargaze", 4005), ("Seda", 4006), ("Dymension", 4007), ("Provenance", 4008), ("Noble", 4009),
    ("Sepolia", 10002), ("ArbitrumSepolia", 10003), ("BaseSepolia", 10004),
    ("OptimismSepolia", 10005), ("Holesky", 10006), ("PolygonSepolia", 10007)]

/-- The number of a chain. -/
def id? (name : String) : Option Nat := table.lookup name

/-- The chain of a number. -/
def name? (id : Int) : Option String :=
  (table.find? fun entry => (entry.2 : Int) == id).map (·.1)

/-- Why a chain was not found. -/
inductive Fault where
  /-- The name is no chain's. -/
  | unknownName (name : Value)
  /-- The number is no chain's. -/
  | unknownId (id : Value)
  /-- The value is nothing a table can be asked for. -/
  | notAKey

/-- The family of a fault; to be unable to show the value is of the same family. -/
def Fault.kind : Fault → ErrorKind
  | .unknownName _ | .unknownId _ => .invalidValue
  | .notAKey => .wrongKind

/-- The wording of a fault. -/
def Fault.message : Fault → String
  | .unknownName name => Number.messageShowing name.shown ("Unknown chain name: " ++ ·)
  | .unknownId id => Number.messageShowing id.printed ("Unknown chain id: " ++ ·)
  | .notAKey => "the value is no key"

/-- The number of the chain that a value names. -/
def idOf (name : Value) : Except Fault Nat :=
  if !name.isKey then .error .notAKey
  else match name with
    | .text s => (id? s).elim (.error (.unknownName name)) .ok
    | _ => .error (.unknownName name)

/-- The chain of the number that a value is. -/
def nameOf (id : Value) : Except Fault String :=
  if !id.isKey then .error .notAKey
  else match id.equalInt? with
    | some n => (name? n).elim (.error (.unknownId id)) .ok
    | none => .error (.unknownId id)

/-- Whether a value names a chain. -/
def isName (name : Value) : Except Fault Bool :=
  if !name.isKey then .error .notAKey
  else match name with
    | .text s => .ok (id? s).isSome
    | _ => .ok false

/-! ## Laws -/

theorem table_names_nodup : (table.map (·.1)).Nodup := by decide

theorem table_ids_nodup : (table.map (·.2)).Nodup := by decide

end TokenBridge.Chain
