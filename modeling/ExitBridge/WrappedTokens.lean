/-
  The local tokens that stand for tokens of other networks.

  A foreign token is wrapped at most once. The address of its wrapped token is derived from the
  deploying bridge, a salt that names the token's origin, and the init code (a template followed by
  the packed metadata), so it can be told before the token is deployed.

  * `Derivation`: how addresses are derived; `Derivation.create2` hashes an 85-byte preimage.
  * `TokenOrigin.salt`: the hash of the 24 bytes of network and token.
  * `WrappedTokens`: the two-way table of origins and wrapped tokens.
-/
import ExitBridge.Address
import ExitBridge.Error
import ExitBridge.NodeHasher
import ExitBridge.TokenMetadata
import Std.Data.HashMap

namespace ExitBridge

/-! ## Origins and addresses -/

/-- Where a token natively lives. -/
structure TokenOrigin where
  network : UInt32
  token : Address
  deriving DecidableEq, Inhabited

namespace TokenOrigin

/-- The packed bytes of an origin. -/
def preimage (o : TokenOrigin) : Bytes :=
  bigEndian 4 o.network.toNat ++ o.token.toList

/-- The digest that names an origin. -/
def salt (H : NodeHasher) (o : TokenOrigin) : Digest :=
  H.hash o.preimage

@[simp] theorem length_preimage (o : TokenOrigin) : o.preimage.length = 24 := by
  simp [preimage]

end TokenOrigin

/-- A rule for the address of a contract: deployer, salt, init code. -/
abbrev Derivation := Address → Digest → Bytes → Address

namespace Derivation

/-- The packed bytes that decide an address. -/
def create2Preimage (deployer : Address) (salt initCodeHash : Digest) : Bytes :=
  0xff :: (deployer.toList ++ salt.toList ++ initCodeHash.toList)

/-- The last twenty bytes of the hash of mark, deployer, salt and init code hash. -/
def create2 (H : NodeHasher) : Derivation := fun deployer salt initCode =>
  (H.hash (create2Preimage deployer salt (H.hash initCode))).lastTwenty

/-- The first twenty bytes of the salt. -/
def ofSalt : Derivation := fun _ salt _ => salt.firstTwenty

/-- One address for all. -/
def constant (a : Address) : Derivation := fun _ _ _ => a

@[simp] theorem length_create2Preimage (deployer : Address) (salt initCodeHash : Digest) :
    (create2Preimage deployer salt initCodeHash).length = 85 := by
  simp [create2Preimage]

end Derivation

/-! ## The table -/

/-- What decides the addresses of a bridge's wrapped tokens. -/
structure WrappingRule where
  deployer : Address
  template : Bytes
  derivation : Derivation

namespace WrappingRule

/-- The init code of a wrapped token. -/
def initCode (r : WrappingRule) (metadata : Bytes) : Bytes :=
  r.template ++ metadata

/-- The address of the token with a salt and metadata. -/
def addressWithSalt (r : WrappingRule) (salt : Digest) (metadata : Bytes) : Address :=
  r.derivation r.deployer salt (r.initCode metadata)

/-- The address that the wrapped token of an origin has. -/
def address (H : NodeHasher) (r : WrappingRule) (origin : TokenOrigin) (metadata : Bytes) :
    Address :=
  r.addressWithSalt (origin.salt H) metadata

end WrappingRule

/-- The wrapped tokens of a bridge, both ways. -/
structure WrappedTokens where
  bySalt : Std.HashMap Digest Address
  byAddress : Std.HashMap Address TokenOrigin
  deriving Inhabited

namespace WrappedTokens

/-- No token is wrapped. -/
def empty : WrappedTokens := ⟨∅, ∅⟩

/-- The wrapped token of an origin. -/
def resolve? (H : NodeHasher) (w : WrappedTokens) (origin : TokenOrigin) : Option Address :=
  w.bySalt[origin.salt H]?

/-- The origin of a wrapped token. -/
def origin? (w : WrappedTokens) (wrapped : Address) : Option TokenOrigin :=
  w.byAddress[wrapped]?

/-- The number of wrapped tokens. -/
def size (w : WrappedTokens) : Nat := w.byAddress.size

/-- The table in a line of text. -/
def describe (w : WrappedTokens) (r : WrappingRule) : String :=
  s!"WrappedAssetRegistry \x7b deployer: {r.deployer.lower}, template_len: {r.template.length}, " ++
    s!"wrapped_tokens: {w.size} \x7d"

/-- Registers a wrapped token; neither its origin nor its address may be registered before. -/
def register (H : NodeHasher) (w : WrappedTokens) (origin : TokenOrigin) (wrapped : Address) :
    Except LedgerError WrappedTokens :=
  if w.bySalt.contains (origin.salt H) || w.byAddress.contains wrapped then
    .error (.wrappedTokenAlreadyRegistered origin.network)
  else
    .ok ⟨w.bySalt.insert (origin.salt H) wrapped, w.byAddress.insert wrapped origin⟩

end WrappedTokens

end ExitBridge
