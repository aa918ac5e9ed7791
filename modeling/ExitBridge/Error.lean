/-
  Why a ledger operation fails.

  * `LedgerError`: the causes; `LedgerError.message` is the wording, `LedgerError.code` the stable
    name that responses and metrics use; `LedgerError.ofCode?` finds an error by it.
-/

namespace ExitBridge

/-- The causes for which a ledger refuses an operation. -/
inductive LedgerError where
  | merkleTreeFull
  | destinationNetworkInvalid (network ownNetwork : UInt32)
  | globalExitRootInvalid
  | invalidSmtProof
  | globalIndexInvalid
  | leafIndexOutOfRange (index depositCount : Nat)
  | proofHistoryUnavailable
  | alreadyClaimed
  | amountDoesNotMatchMsgValue
  | msgValueNotZero
  | notValidAmount
  | notValidOwner
  | notValidSpender
  | gasTokenNetworkMustBeZeroOnEther
  | nativeTokenIsEther
  | noValueInMessagesOnGasTokenNetworks
  | invalidConfig (reason : String)
  | messageFailed (reason : String)
  | transferFailed (reason : String)
  | onlyEmergencyState
  | onlyNotEmergencyState
  | onlyAggregatorAuthority
  | onlyReplica
  | wrappedTokenAlreadyRegistered (originNetwork : UInt32)
  deriving DecidableEq, Inhabited

namespace LedgerError

/-- The wording of an error. -/
def message : LedgerError → String
  | merkleTreeFull => "Merkle tree is full"
  | destinationNetworkInvalid network ownNetwork =>
    s!"Destination network {network} is invalid for network {ownNetwork}"
  | globalExitRootInvalid => "Global exit root is not known"
  | invalidSmtProof => "Invalid SMT proof"
  | globalIndexInvalid =>
    "Global index has bits set outside the mainnet flag, rollup index and leaf index"
  | leafIndexOutOfRange index depositCount =>
    s!"Leaf index {index} out of range for deposit count {depositCount}"
  | proofHistoryUnavailable => "Proof history is not retained by this tree"
  | alreadyClaimed => "Already claimed"
  | amountDoesNotMatchMsgValue => "Amount does not match the attached native value"
  | msgValueNotZero => "Attached native value must be zero"
  | notValidAmount => "Permit amount does not match the deposit amount"
  | notValidOwner => "Permit owner does not match the sender"
  | notValidSpender => "Permit spender is not the bridge"
  | gasTokenNetworkMustBeZeroOnEther =>
    "Gas token network must be zero when the gas token is ether"
  | nativeTokenIsEther => "Native token is ether"
  | noValueInMessagesOnGasTokenNetworks =>
    "Messages cannot carry native value on gas token networks"
  | invalidConfig reason => s!"Invalid configuration: {reason}"
  | messageFailed reason => s!"Message failed: {reason}"
  | transferFailed reason => s!"Transfer failed: {reason}"
  | onlyEmergencyState => "Only allowed in emergency state"
  | onlyNotEmergencyState => "Not allowed in emergency state"
  | onlyAggregatorAuthority => "Only the aggregator authority can do this"
  | onlyReplica => "Only a replica can do this"
  | wrappedTokenAlreadyRegistered originNetwork =>
    s!"Wrapped token already registered for origin network {originNetwork}"

/-- The stable name of an error. -/
def code : LedgerError → String
  | merkleTreeFull => "MerkleTreeFull"
  | destinationNetworkInvalid .. => "DestinationNetworkInvalid"
  | globalExitRootInvalid => "GlobalExitRootInvalid"
  | invalidSmtProof => "InvalidSmtProof"
  | globalIndexInvalid => "GlobalIndexInvalid"
  | leafIndexOutOfRange .. => "LeafIndexOutOfRange"
  | proofHistoryUnavailable => "ProofHistoryUnavailable"
  | alreadyClaimed => "AlreadyClaimed"
  | amountDoesNotMatchMsgValue => "AmountDoesNotMatchMsgValue"
  | msgValueNotZero => "MsgValueNotZero"
  | notValidAmount => "NotValidAmount"
  | notValidOwner => "NotValidOwner"
  | notValidSpender => "NotValidSpender"
  | gasTokenNetworkMustBeZeroOnEther => "GasTokenNetworkMustBeZeroOnEther"
  | nativeTokenIsEther => "NativeTokenIsEther"
  | noValueInMessagesOnGasTokenNetworks => "NoValueInMessagesOnGasTokenNetworks"
  | invalidConfig .. => "InvalidConfig"
  | messageFailed .. => "MessageFailed"
  | transferFailed .. => "TransferFailed"
  | onlyEmergencyState => "OnlyEmergencyState"
  | onlyNotEmergencyState => "OnlyNotEmergencyState"
  | onlyAggregatorAuthority => "OnlyAggregatorAuthority"
  | onlyReplica => "OnlyReplica"
  | wrappedTokenAlreadyRegistered .. => "WrappedTokenAlreadyRegistered"

/-- The errors that say nothing more than what went wrong. -/
def plain : List LedgerError :=
  [.merkleTreeFull, .globalExitRootInvalid, .invalidSmtProof, .globalIndexInvalid,
    .proofHistoryUnavailable, .alreadyClaimed, .amountDoesNotMatchMsgValue, .msgValueNotZero,
    .notValidAmount, .notValidOwner, .notValidSpender, .gasTokenNetworkMustBeZeroOnEther,
    .nativeTokenIsEther, .noValueInMessagesOnGasTokenNetworks, .onlyEmergencyState,
    .onlyNotEmergencyState, .onlyAggregatorAuthority, .onlyReplica]

/-- The plain error with a name. -/
def ofCode? (code : String) : Option LedgerError := plain.find? (·.code == code)

end LedgerError

end ExitBridge
