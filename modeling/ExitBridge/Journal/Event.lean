/-
  What a ledger tells the world.

  * `Event`: deposits, claims, new wrapped tokens, new global exit roots, and the emergency switch.
-/
import ExitBridge.ExitRoot.Basic
import ExitBridge.Leaf

namespace ExitBridge

/-- A deposit was appended to the exit tree, at index `depositCount`. -/
structure BridgeEvent where
  kind : LeafKind
  originNetwork : UInt32
  originAddress : Address
  destinationNetwork : UInt32
  destinationAddress : Address
  amount : Amount
  metadata : Bytes
  depositCount : UInt32
  deriving DecidableEq, Inhabited

/-- A deposit of another network was claimed. -/
structure ClaimEvent where
  globalIndex : Amount
  originNetwork : UInt32
  originAddress : Address
  destinationAddress : Address
  amount : Amount
  deriving DecidableEq, Inhabited

/-- The first claim of a foreign token created its wrapped token. -/
structure NewWrappedToken where
  originNetwork : UInt32
  originTokenAddress : Address
  wrappedTokenAddress : Address
  metadata : Bytes
  deriving DecidableEq, Inhabited

/-- A new global exit root was added to the L1 info tree. -/
structure L1InfoTreeUpdate where
  mainnetExitRoot : Digest
  rollupExitRoot : Digest
  globalExitRoot : Digest
  l1InfoIndex : UInt32
  l1InfoRoot : Digest
  timestamp : UInt64
  deriving DecidableEq, Inhabited

/-- Something a ledger did. -/
inductive Event where
  | bridge (e : BridgeEvent)
  | claim (e : ClaimEvent)
  | newWrappedToken (e : NewWrappedToken)
  | updateL1InfoTree (e : L1InfoTreeUpdate)
  | emergencyStateActivated
  | emergencyStateDeactivated
  deriving DecidableEq, Inhabited

namespace Event

/-- The name of an event's kind. -/
def name : Event → String
  | bridge _ => "BridgeEvent"
  | claim _ => "ClaimEvent"
  | newWrappedToken _ => "NewWrappedToken"
  | updateL1InfoTree _ => "UpdateL1InfoTree"
  | emergencyStateActivated => "EmergencyStateActivated"
  | emergencyStateDeactivated => "EmergencyStateDeactivated"

end Event

end ExitBridge
