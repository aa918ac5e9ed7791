/-
  The effects of deposits and claims on balances and contracts.

  A ledger decides what must happen; a host carries it out, all of a list of effects or none.

  * `Effect`: what may happen; `ExecutionError`: why a host refuses.
  * `ExecutionHost`: what a ledger needs of a host.
-/
import ExitBridge.Address
import ExitBridge.TokenMetadata

namespace ExitBridge

/-- A holder's leave for a spender to move an amount. -/
structure Permit where
  owner : Address
  spender : Address
  value : Amount
  deadline : UInt64
  signature : Bytes
  deriving DecidableEq, Inhabited

/-- One thing that must happen. -/
inductive Effect where
  /-- Native value attached to a deposit goes into escrow. -/
  | lockNative (sender : Address) (amount : Amount)
  /-- A local token goes from the depositor into escrow. -/
  | pullTokens (token sender : Address) (amount : Amount) (permit : Option Permit)
  | burnWrapped (token sender : Address) (amount : Amount)
  | releaseNative (receiver : Address) (amount : Amount)
  | releaseTokens (token receiver : Address) (amount : Amount)
  /-- A wrapped token comes into being at its address. -/
  | deployWrapped (token : Address) (metadata : Bytes)
  | mintWrapped (token receiver : Address) (amount : Amount)
  /-- The receiver's hook is called, and native value handed on. -/
  | deliverMessage (receiver originAddress : Address) (originNetwork : UInt32) (value : Amount)
      (payload : Bytes)
  deriving DecidableEq, Inhabited

/-- A message as the receiver's hook gets it. -/
structure MessageDelivery where
  receiver : Address
  originAddress : Address
  originNetwork : UInt32
  value : Amount
  payload : Bytes
  deriving DecidableEq, Inhabited

/-- What came of a list of effects: the amount that reached the escrow through `pullTokens`. -/
structure ExecutionReceipt where
  pulled : Amount
  deriving DecidableEq, Inhabited

/-- Why a host refuses a list of effects. -/
inductive ExecutionError where
  | insufficientBalance (token holder : Address) (available required : Amount)
  | unknownWrappedToken (token : Address)
  | alreadyDeployed (token : Address)
  | messageRejected (receiver : Address) (reason : String)
  | unavailable (reason : String)
  deriving DecidableEq, Inhabited

namespace ExecutionError

/-- The wording of an error. -/
def message : ExecutionError → String
  | insufficientBalance token holder available required =>
    s!"Insufficient balance of {token.checksummed} for {holder.checksummed}: " ++
      s!"have {available.toNat}, need {required.toNat}"
  | unknownWrappedToken token => s!"Unknown wrapped token {token.checksummed}"
  | alreadyDeployed token => s!"Wrapped token {token.checksummed} already deployed"
  | messageRejected receiver reason => s!"Message to {receiver.checksummed} rejected: {reason}"
  | unavailable reason => s!"Execution environment unavailable: {reason}"

/-- The name of an error's kind. -/
def name : ExecutionError → String
  | insufficientBalance .. => "InsufficientBalance"
  | unknownWrappedToken .. => "UnknownWrappedToken"
  | alreadyDeployed .. => "AlreadyDeployed"
  | messageRejected .. => "MessageRejected"
  | unavailable .. => "Unavailable"

end ExecutionError

/-- What a ledger needs of the place where value moves. -/
class ExecutionHost (σ : Type) where
  /-- Carries out every effect, in order, or none. -/
  apply : σ → List Effect → Except ExecutionError (ExecutionReceipt × σ)
  /-- Name, symbol and decimals of a token. -/
  tokenMetadata : σ → Address → TokenMetadata

end ExitBridge
