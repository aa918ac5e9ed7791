/-
  How a node answers requests.

  Path and query are read first, then the body, and then the token is checked; only a request that
  passes all of that is carried out.

  * `Node.handle`: the response to a request, and the node after it.
-/
import ExitBridge.Node.Admission
import ExitBridge.Node.Basic
import ExitBridge.Node.Route

namespace ExitBridge

/-! ## Responses -/

namespace Response

/-- A value as JSON. -/
def ofValue {α : Type} [Wire α] (a : α) : Response := ⟨.ok, .json (Wire.write a)⟩

/-- An error as JSON. -/
def ofError (e : ApiError) : Response :=
  ⟨e.status, .json (Wire.write (⟨e.message, e.code⟩ : ErrorResponse))⟩

/-- A value or an error. -/
def ofResult {α : Type} [Wire α] : Except ApiError α → Response
  | .ok a => ofValue a
  | .error e => ofError e

/-- The answer to what path and query ask for, if they can be read. -/
def ofQuestion (answer : Option Response) : Response := answer.getD (.refusal .badRequest)

end Response

namespace Segment

/-- The fixed word that a segment says. -/
def word? {n : Nat} (s : Segment) : Option (FixedBytes n) := do
  Wire.read? (.string (← s.text?))

/-- The index or network that a segment says. -/
def index? (s : Segment) : Option UInt32 := (s.integer? (2 ^ 32)).map UInt32.ofNat

end Segment

namespace Node

open Response

/-! ## Reading -/

/-- The path of a leaf. -/
def answerProof (n : Node) (index : Segment) (query : Query) : Response :=
  ofQuestion do
    let index ← index.index?
    let depositCount ← query.integer? "deposit_count" (2 ^ 64)
    return ofResult ((n.proofResponse index depositCount).mapError .ledger)

/-- Whether a leaf has been claimed. -/
def answerClaimed (n : Node) (network index : Segment) : Response :=
  ofQuestion do
    let network ← network.index?
    let index ← index.index?
    return ofValue (⟨network, index, n.ledger.isClaimed n.deployment index network⟩ :
      ClaimedResponse)

/-- The wrapped token of an origin. -/
def answerWrapped (n : Node) (network token : Segment) : Response :=
  ofQuestion do
    let network ← network.index?
    let token : Address ← token.word?
    return ofValue (⟨network, token, n.ledger.wrappedOf? n.deployment ⟨network, token⟩⟩ :
      WrappedResponse)

/-- The origin of a wrapped token. -/
def answerTokenInfo (n : Node) (token : Segment) : Response :=
  ofQuestion do
    let token : Address ← token.word?
    return match n.ledger.wrapped.origin? token with
      | some origin => ofValue origin
      | none => ofError (.notFound s!"{Address.checksummed token} is not a wrapped token")

/-- What is known about a global exit root. -/
def answerGlobalExitRoot (n : Node) (hash : Segment) : Response :=
  ofQuestion do
    let root : Digest ← hash.word?
    return ofValue (⟨root, n.ledger.roots.isKnown root, n.ledger.roots.timestamp? root⟩ :
      GlobalExitRootResponse)

/-- A page of the journal. -/
def answerEvents (n : Node) (query : Query) : Response :=
  ofQuestion do
    let start ← query.integer? "from" (2 ^ 64)
    let limit ← query.integer? "limit" (2 ^ 64)
    return ofResult (n.eventsPage ⟨start.getD 0, limit⟩)

/-- The balance of a holder. -/
def answerBalance (n : Node) (token holder : Segment) : Response :=
  ofQuestion do
    let token : Address ← token.word?
    let holder : Address ← holder.word?
    return ofValue (⟨token, holder, n.bridge.host.balance token holder⟩ : BalanceResponse)

/-! ## Changing -/

/-- An operation of the ledger as a response. -/
def respond {α : Type} [Wire α] : Except LedgerError α × Node → Response × Node
  | (result, n) => (ofResult (result.mapError .ledger), n)

/-- Carries out what a body asks for. -/
def withBody {α : Type} [Wire α] [Streamed α] (n : Node) (r : Request)
    (act : α → Response × Node) : Response × Node :=
  match readBody α r with
  | .ok body => act body
  | .error refusal => (refusal, n)

/-- Carries something out for the holder of the admin token. -/
def withToken (n : Node) (r : Request) (act : Node → Response × Node) : Response × Node :=
  match authorize n.settings.adminToken r.authorization with
  | .ok () => act n
  | .error e => (ofError e, n)

/-- Honours a claim. -/
def answerClaim (n : Node) (kind : LeafKind) (request : ClaimRequest) : Response × Node :=
  match request.toClaim with
  | .ok c => respond (n.claim kind c)
  | .error e => (ofError (.ledger e), n)

/-- Publishes the exit root. -/
def answerUpdate (n : Node) (now : UInt64) : Response × Node :=
  match n.updateGlobalExitRoot now true with
  | (.ok root, n) =>
    (ofValue (⟨root, n.ledger.lastUpdatedCount⟩ : GlobalExitRootUpdateResponse), n)
  | (.error e, n) => (ofError (.ledger e), n)

/-- Stops or resumes deposits and claims. -/
def answerEmergency (n : Node) (active : Bool) : Response × Node :=
  match n.setEmergencyState active with
  | (.ok (), n) => (ofValue (⟨active⟩ : EmergencyResponse), n)
  | (.error e, n) => (ofError (.ledger e), n)

/-- Creates an amount. -/
def answerMint (n : Node) (request : MintRequest) : Response × Node :=
  if request.amount = 0 then (ofError (.badRequest "amount must be positive"), n)
  else
    let book := n.bridge.host.mint request.token request.holder request.amount
    (ofValue (⟨request.token, request.holder, book.balance request.token request.holder⟩ :
        BalanceResponse),
      { n with bridge := { n.bridge with host := book } })

/-! ## Routes -/

/-- The response of a route. -/
def answer (n : Node) (now : UInt64) (r : Request) (query : Query) : Route → Response × Node
  | .health => (ofValue n.healthResponse, n)
  | .liveness => (⟨.ok, .text "OK"⟩, n)
  | .readiness =>
    (if n.isReady then ⟨.ok, .text "OK"⟩ else ⟨.serviceUnavailable, .text "NOT_READY"⟩, n)
  | .metrics =>
    let n := n.refreshGauges
    (⟨.ok, .text n.metrics.text⟩, n)
  | .root => (ofValue n.rootResponse, n)
  | .depositCount =>
    (ofValue (⟨n.ledger.tree.count, n.ledger.lastUpdatedCount⟩ : DepositCountResponse), n)
  | .proof index => (n.answerProof index query, n)
  | .claimed network index => (n.answerClaimed network index, n)
  | .wrapped network token => (n.answerWrapped network token, n)
  | .tokenInfo token => (n.answerTokenInfo token, n)
  | .globalExitRoot hash => (n.answerGlobalExitRoot hash, n)
  | .events => (n.answerEvents query, n)
  | .balance token holder => (n.answerBalance token holder, n)
  | .bridgeAsset =>
    n.withBody r fun (body : BridgeAssetRequest) =>
      n.withToken r fun n => respond (n.bridgeAsset now body.sender body.deposit)
  | .bridgeMessage =>
    n.withBody r fun (body : BridgeMessageRequest) =>
      n.withToken r fun n => respond (n.bridgeMessage now body.sender body.deposit)
  | .claimAsset => n.withBody r (n.answerClaim .asset)
  | .claimMessage => n.withBody r (n.answerClaim .message)
  | .updateGlobalExitRoot => n.withToken r (·.answerUpdate now)
  | .activateEmergency => n.withToken r (·.answerEmergency true)
  | .deactivateEmergency => n.withToken r (·.answerEmergency false)
  | .mint => n.withBody r n.answerMint

/-- The response to a request for a target. -/
def answerTarget (n : Node) (now : UInt64) (r : Request) (target : Target) : Response × Node :=
  match Route.ofPath? n.settings.enableDevFaucet target.path with
  | none => (.refusal .notFound, n)
  | some route =>
    if !route.accepts r.method then (.refusal .methodNotAllowed, n)
    else
      let (response, n) := n.answer now r target.query route
      (if r.method = .head then response.withoutBody else response, n)

/-- The response to a request, and the node after it. -/
def handle (n : Node) (now : UInt64) (r : Request) : Response × Node :=
  match if r.isSendable then Target.parse? r.target else none with
  | none => (.refusal .badRequest, n)
  | some target => n.answerTarget now r target

end Node

end ExitBridge
