/-
  The routes of a node.

  A path is matched segment by segment, and a segment that is not named in the route is its
  parameter. A path that ends in an empty segment matches nothing; in front of the last one a
  parameter may be empty.

  * `Route.ofPath?`: the route of a path.
  * `Route.acceptsPost`: routes that change something are posted to, all others are read.
-/
import ExitBridge.Http.Message
import ExitBridge.Http.Target

namespace ExitBridge

/-- What a path leads to. -/
inductive Route where
  | health
  | liveness
  | readiness
  | metrics
  | root
  | depositCount
  | proof (index : Segment)
  | claimed (network index : Segment)
  | wrapped (network token : Segment)
  | tokenInfo (token : Segment)
  | globalExitRoot (hash : Segment)
  | events
  | bridgeAsset
  | bridgeMessage
  | claimAsset
  | claimMessage
  | updateGlobalExitRoot
  | activateEmergency
  | deactivateEmergency
  | mint
  | balance (token holder : Segment)
  deriving DecidableEq, Inhabited

namespace Route

/-- The route of the segments of a path; the last two exist on nodes with a faucet. -/
def ofSegments? (faucet : Bool) : List Segment → Option Route
  | ["health"] => some health
  | ["healthz"] => some liveness
  | ["readyz"] => some readiness
  | ["metrics"] => some metrics
  | ["root"] => some root
  | ["deposit-count"] => some depositCount
  | ["proof", index] => some (proof index)
  | ["claimed", network, index] => some (claimed network index)
  | ["wrapped", network, token] => some (wrapped network token)
  | ["token-info", token] => some (tokenInfo token)
  | ["global-exit-root", "update"] => some updateGlobalExitRoot
  | ["global-exit-root", hash] => some (globalExitRoot hash)
  | ["events"] => some events
  | ["bridge", "asset"] => some bridgeAsset
  | ["bridge", "message"] => some bridgeMessage
  | ["claim", "asset"] => some claimAsset
  | ["claim", "message"] => some claimMessage
  | ["emergency", "activate"] => some activateEmergency
  | ["emergency", "deactivate"] => some deactivateEmergency
  | ["executor", "mint"] => if faucet then some mint else none
  | ["balance", token, holder] => if faucet then some (balance token holder) else none
  | _ => none

/-- The route of a path. -/
def ofPath? (faucet : Bool) (path : List Segment) : Option Route :=
  if path.getLast? = some "" then none else ofSegments? faucet path

/-- Is the route posted to? -/
def acceptsPost : Route → Bool
  | bridgeAsset => true
  | bridgeMessage => true
  | claimAsset => true
  | claimMessage => true
  | updateGlobalExitRoot => true
  | activateEmergency => true
  | deactivateEmergency => true
  | mint => true
  | _ => false

/-- May the route be used with a method? -/
def accepts (r : Route) : Method → Bool
  | .get => !r.acceptsPost
  | .head => !r.acceptsPost
  | .post => r.acceptsPost
  | .other _ => false

end Route

end ExitBridge
