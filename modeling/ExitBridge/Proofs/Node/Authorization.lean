/-
  What a node does for those without its admin token.

  The token is compared byte by byte, and a request brings it in one way only. Deposits, the
  publication of the exit root and the emergency state are for its holder; of the requests of anyone
  else, claims alone change the ledger, and the faucet the book.

  * `tokenMatches_iff`: two tokens match exactly if they are equal, of whatever lengths.
  * `Request.HoldsToken`; `authorize_of_not_holdsToken`: without it, a node refuses.
  * `Node.same_answer`: a route that is for the holder, or only reads, leaves the ledger as it is.
  * `unauthorized_requests_move_nothing`: over all nodes and requests.
-/
import ExitBridge.Proofs.Bytes
import ExitBridge.Proofs.Node.Follow

namespace ExitBridge

/-! ## Comparing tokens -/

theorem foldl_or_eq_zero {start : UInt8} {bs : Bytes} :
    bs.foldl (· ||| ·) start = 0 ↔ start = 0 ∧ ∀ b ∈ bs, b = 0 := by
  induction bs generalizing start with
  | nil => simp
  | cons b bs ih => rw [List.foldl_cons, ih, UInt8.or_eq_zero_iff, List.forall_mem_cons, and_assoc]

theorem zipWith_xor_eq_zero {a b : Bytes} (length : a.length = b.length) :
    (∀ x ∈ List.zipWith (· ^^^ ·) a b, x = 0) ↔ a = b := by
  induction a generalizing b with
  | nil => simp [List.eq_nil_of_length_eq_zero length.symm]
  | cons x a ih =>
    cases b with
    | nil => cases length
    | cons y b =>
      rw [List.zipWith_cons_cons, List.forall_mem_cons, UInt8.xor_eq_zero_iff,
        ih (Nat.succ.inj length), List.cons.injEq]

/-- **Tokens match** exactly if they are equal. -/
theorem tokenMatches_iff {provided expected : Bytes} :
    tokenMatches provided expected = true ↔ provided = expected := by
  rw [tokenMatches, Bool.and_eq_true, beq_iff_eq, beq_iff_eq, foldl_or_eq_zero]
  constructor
  · rintro ⟨length, -, same⟩
    exact (zipWith_xor_eq_zero length).1 same
  · rintro rfl
    exact ⟨rfl, rfl, (zipWith_xor_eq_zero rfl).2 rfl⟩

/-! ## Holding the token -/

/-- A request brings the admin token, if there is one. -/
def Request.HoldsToken (r : Request) (adminToken : Option String) : Prop :=
  ∃ token, adminToken = some token ∧ r.authorization = some ("Bearer " ++ token)

theorem eq_of_bearerToken? {value : String} {token : List Char}
    (h : bearerToken? value = some token) : value = "Bearer " ++ String.ofList token := by
  unfold bearerToken? at h
  simp only at h
  split at h
  · rename_i bears
    obtain ⟨rest, split⟩ := List.isPrefixOf_iff_prefix.1 (Bool.and_eq_true_iff.1 bears).2
    rw [← split, List.drop_left] at h
    obtain rfl := Option.some.inj h
    rw [← String.toList_inj, ← split, String.toList_append]
    exact congrArg _ String.toList_ofList.symm
  · cases h

/-- A node carries nothing out for those who do not hold its token. -/
theorem authorize_of_not_holdsToken {r : Request} {adminToken : Option String}
    (h : ¬ r.HoldsToken adminToken) :
    ∃ reason, authorize adminToken r.authorization = .error (.unauthorized reason) := by
  unfold authorize
  split
  · exact ⟨_, rfl⟩
  · rename_i expected
    split
    · exact ⟨_, rfl⟩
    · rename_i provided bears
      split
      · rename_i matched
        obtain ⟨value, given, bears⟩ := Option.bind_eq_some_iff.1 bears
        have same := eq_of_toUTF8_toList (tokenMatches_iff.1 matched)
        refine absurd ⟨expected, rfl, ?_⟩ h
        rw [given, eq_of_bearerToken? bears, same]
      · exact ⟨_, rfl⟩

/-! ## Routes -/

/-- Where the routes lead from that are open to all and change something. -/
theorem Route.segments_of_ofPath? {faucet : Bool} {path : List Segment} {route : Route}
    (h : Route.ofPath? faucet path = some route) :
    match route with
    | .claimAsset => path = ["claim", "asset"]
    | .claimMessage => path = ["claim", "message"]
    | .mint => path = ["executor", "mint"] ∧ faucet = true
    | _ => True := by
  rw [Route.ofPath?] at h
  split at h
  · cases h
  · rw [Route.ofSegments?.eq_def] at h
    split at h
    -- the last routes are there on a node with a faucet only
    all_goals try split at h
    all_goals cases h
    all_goals first | exact trivial | rfl | exact ⟨rfl, ‹faucet = true›⟩

/-- A request posts to a path. -/
structure Request.Posts (r : Request) (path : List Segment) : Prop where
  sendable : r.isSendable = true
  method : r.method = .post
  target : ∃ query, Target.parse? r.target = some ⟨path, query⟩

/-- A request asks, in good form, for what is for the holder of the token. -/
inductive Request.AsksHolder (r : Request) : Prop
  | bridgeAsset {body : BridgeAssetRequest} (posts : r.Posts ["bridge", "asset"])
      (read : readBody BridgeAssetRequest r = .ok body)
  | bridgeMessage {body : BridgeMessageRequest} (posts : r.Posts ["bridge", "message"])
      (read : readBody BridgeMessageRequest r = .ok body)
  | updateGlobalExitRoot (posts : r.Posts ["global-exit-root", "update"])
  | activateEmergency (posts : r.Posts ["emergency", "activate"])
  | deactivateEmergency (posts : r.Posts ["emergency", "deactivate"])

namespace Node

open Response

variable {n : Node} {r : Request} {now : UInt64}

/-- A request is refused before it is looked into, or it reaches a route that takes its method. -/
theorem exists_route_of_handle (n : Node) (now : UInt64) (r : Request) :
    (n.handle now r).2 = n ∨ ∃ target route, r.isSendable = true ∧
      Target.parse? r.target = some target ∧
      Route.ofPath? n.settings.enableDevFaucet target.path = some route ∧
      route.accepts r.method = true ∧
      (n.handle now r).2 = (n.answer now r target.query route).2 := by
  unfold handle
  split
  · exact .inl rfl
  · rename_i target parsed
    unfold answerTarget
    split
    · exact .inl rfl
    · rename_i route reached
      split
      · exact .inl rfl
      · rename_i accepted
        split at parsed
        · rename_i sendable
          exact .inr ⟨target, route, sendable, parsed, reached, by simpa using accepted, rfl⟩
        · cases parsed

theorem exists_handle_of_posts (now : UInt64) {path : List Segment} {route : Route}
    (posts : r.Posts path)
    (reached : Route.ofPath? n.settings.enableDevFaucet path = some route)
    (accepts : route.acceptsPost = true) :
    ∃ query, n.handle now r = n.answer now r query route := by
  obtain ⟨query, target⟩ := posts.target
  have accepted : route.accepts .post = true := accepts
  refine ⟨query, ?_⟩
  rw [handle, if_pos posts.sendable, target]
  simp [answerTarget, reached, posts.method, accepted]

/-! ## Without the token -/

theorem withToken_of_not_holdsToken (unauthorized : ¬ r.HoldsToken n.settings.adminToken)
    (act : Node → Response × Node) : ∃ reason,
    n.withToken r act = (ofError (.unauthorized reason), n) := by
  obtain ⟨reason, refused⟩ := authorize_of_not_holdsToken unauthorized
  exact ⟨reason, by rw [withToken, refused]⟩

/-- Without the token, only claims and the faucet change ledger or book. -/
theorem same_answer (unauthorized : ¬ r.HoldsToken n.settings.adminToken) (query : Query)
    {route : Route} (asset : route ≠ .claimAsset) (message : route ≠ .claimMessage)
    (mint : route ≠ .mint) : n.Same (n.answer now r query route).2 := by
  have refused (act : Node → Response × Node) : (n.withToken r act).2 = n := by
    obtain ⟨reason, refused⟩ := withToken_of_not_holdsToken unauthorized act
    rw [refused]
  have unread {α : Type} [Wire α] [Streamed α] (act : α → Node → Response × Node) :
      (n.withBody r fun body => n.withToken r (act body)).2 = n := by
    unfold withBody
    split
    · exact refused _
    · rfl
  cases route with
  | metrics => exact same_refreshGauges n
  | bridgeAsset => rw [answer, unread]; exact .refl n
  | bridgeMessage => rw [answer, unread]; exact .refl n
  | updateGlobalExitRoot => rw [answer, refused]; exact .refl n
  | activateEmergency => rw [answer, refused]; exact .refl n
  | deactivateEmergency => rw [answer, refused]; exact .refl n
  | claimAsset => exact absurd rfl asset
  | claimMessage => exact absurd rfl message
  | mint => exact absurd rfl mint
  | _ => exact .refl n

theorem handle_of_asksHolder (now : UInt64) (unauthorized : ¬ r.HoldsToken n.settings.adminToken)
    (asks : r.AsksHolder) : ∃ reason, n.handle now r = (ofError (.unauthorized reason), n) := by
  have refused (act : Node → Response × Node) := withToken_of_not_holdsToken unauthorized act
  have reaches {path : List Segment} {route : Route} (posts : r.Posts path)
      (reached : Route.ofPath? n.settings.enableDevFaucet path = some route)
      (accepts : route.acceptsPost = true) (answered : ∀ query, ∃ reason,
        n.answer now r query route = (ofError (.unauthorized reason), n)) :
      ∃ reason, n.handle now r = (ofError (.unauthorized reason), n) := by
    obtain ⟨query, handled⟩ := exists_handle_of_posts now posts reached accepts
    rw [handled]
    exact answered query
  cases asks with
  | bridgeAsset posts read =>
    refine reaches posts rfl rfl fun query => ?_
    rw [answer, withBody, read]
    exact refused _
  | bridgeMessage posts read =>
    refine reaches posts rfl rfl fun query => ?_
    rw [answer, withBody, read]
    exact refused _
  | updateGlobalExitRoot posts =>
    refine reaches posts rfl rfl fun query => ?_
    rw [answer]
    exact refused _
  | activateEmergency posts =>
    refine reaches posts rfl rfl fun query => ?_
    rw [answer]
    exact refused _
  | deactivateEmergency posts =>
    refine reaches posts rfl rfl fun query => ?_
    rw [answer]
    exact refused _

end Node

/-- **Requests without the admin token move nothing,** whatever the node and the request: ledger and
    book stay as they are unless a claim is posted, or the faucet of a node that has one is used; no
    request moves the cursor; and what is for the token's holder is answered with 401, with nothing
    changed. Tokens match exactly if they are equal. -/
theorem unauthorized_requests_move_nothing (n : Node) (now : UInt64) (r : Request)
    (unauthorized : ¬ r.HoldsToken n.settings.adminToken) :
    (¬ r.Posts ["claim", "asset"] → ¬ r.Posts ["claim", "message"] →
      ¬ (r.Posts ["executor", "mint"] ∧ n.settings.enableDevFaucet = true) →
      n.Same (n.handle now r).2) ∧
    (n.handle now r).2.syncCursor = n.syncCursor ∧
    (r.AsksHolder → (n.handle now r).2 = n ∧ (n.handle now r).1.status.code = 401 ∧
      ∃ message, (n.handle now r).1.body =
        .json (Wire.write (⟨message, "Unauthorized"⟩ : ErrorResponse))) ∧
    ∀ provided expected : Bytes, tokenMatches provided expected = true ↔ provided = expected := by
  refine ⟨?_, (n.acts_handle now r).syncCursor, ?_, fun _ _ => tokenMatches_iff⟩
  · intro asset message mint
    rcases n.exists_route_of_handle now r with same | ⟨target, route, sendable, parsed, reached,
      accepted, after⟩
    · rw [same]
      exact .refl n
    · have segments := Route.segments_of_ofPath? reached
      have posts {path : List Segment} (posted : route.acceptsPost = true)
          (split : target.path = path) : r.Posts path := by
        refine ⟨sendable, ?_, target.query, split ▸ parsed⟩
        cases method : r.method with
        | post => rfl
        | get | head | other => simp [Route.accepts, method, posted] at accepted
      rw [after]
      refine Node.same_answer unauthorized target.query ?_ ?_ ?_
      · rintro rfl
        exact asset (posts rfl segments)
      · rintro rfl
        exact message (posts rfl segments)
      · rintro rfl
        exact mint ⟨posts rfl segments.1, segments.2⟩
  · intro asks
    obtain ⟨reason, refused⟩ := Node.handle_of_asksHolder now unauthorized asks
    rw [refused]
    exact ⟨rfl, rfl, reason, rfl⟩

/-- A node whose token is another one refuses to stop deposits and claims. -/
theorem unauthorized_requests_move_nothing_mistyped : ∃ (s : Settings) (n : Node) (r : Request),
    Node.create .keccak s = .ok n ∧ n.settings.adminToken = some "secret" ∧
      r.authorization = some "Bearer Secret" ∧ r.Posts ["emergency", "activate"] ∧
      n.Same (n.handle 0 r).2 ∧ (n.handle 0 r).1.status.code = 401 := by
  let s : Settings :=
    { (default : Settings) with
      aggregatorAuthority := true
      bridgeAddress := ⟨List.replicate 20 0xb0, rfl⟩
      adminToken := some "secret" }
  obtain ⟨n, created⟩ := Node.exists_create .keccak (s := s)
    (LedgerConfig.validate_authority 0 (by decide)) rfl
  obtain ⟨-, settings, -⟩ := Node.deployed_of_create created
  let r : Request := ⟨.post, "/emergency/activate", some "Bearer Secret", false, ""⟩
  have parsed : Target.parse? r.target = some ⟨["emergency", "activate"], []⟩ := by decide
  have posts : r.Posts ["emergency", "activate"] := ⟨by decide, rfl, [], parsed⟩
  have elsewhere {path : List Segment} (other : ["emergency", "activate"] ≠ path) :
      ¬ r.Posts path := by
    rintro ⟨-, -, query, parsed'⟩
    cases parsed.symm.trans parsed'
    exact other rfl
  have unauthorized : ¬ r.HoldsToken n.settings.adminToken := by
    rintro ⟨token, configured, brings⟩
    rw [settings] at configured
    cases configured
    exact absurd brings (by decide)
  obtain ⟨same, -, refused, -⟩ := unauthorized_requests_move_nothing n 0 r unauthorized
  obtain ⟨-, code, -⟩ := refused (.activateEmergency posts)
  refine ⟨s, n, r, created, by rw [settings], rfl, posts, ?_, code⟩
  refine same (elsewhere (by decide)) (elsewhere (by decide)) ?_
  rintro ⟨mints, -⟩
  exact elsewhere (by decide) mints

end ExitBridge
