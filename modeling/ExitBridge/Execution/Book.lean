/-
  A book of balances that stands for a host chain.

  Effects are staged in an overlay of the entries that they touch, which reads through to the book;
  the overlay is written into the book when every effect has succeeded, and dropped otherwise.
  Credits stop at the largest amount, and the product in a transfer fee wraps.

  * `Book.stage`: one effect on an overlay.
  * `Book.apply`: a list of effects, all or none.
-/
import ExitBridge.Execution.Effect
import Std.Data.HashMap

namespace ExitBridge

/-- What happens when a message reaches an account: it may refuse with a reason. -/
abbrev MessageHook := MessageDelivery → Except String Unit

/-- Balances, tokens and message hooks; the native token has the zero address. -/
structure Book where
  /-- The account that holds what deposits have locked. -/
  escrow : Address
  /-- By token and holder. -/
  balances : Std.HashMap (Address × Address) Amount
  /-- The wrapped tokens that have been deployed. -/
  wrapped : Std.HashMap Address TokenMetadata
  tokens : Std.HashMap Address TokenMetadata
  /-- What a transfer of a token loses, in hundredths of a percent. -/
  feeBps : Std.HashMap Address Nat
  /-- The latest deliveries, oldest first. -/
  deliveries : List MessageDelivery
  hooks : Std.HashMap Address MessageHook
  deriving Inhabited

namespace Book

/-- The book without any balance. -/
def empty (escrow : Address) : Book := ⟨escrow, ∅, ∅, ∅, ∅, [], ∅⟩

/-- The metadata of a token that tells none. -/
def fallbackMetadata : TokenMetadata := ⟨"NO_NAME", "NO_SYMBOL", 18⟩

/-- How many deliveries are kept. -/
def maxDeliveries : Nat := 1024

/-- The highest transfer fee: all of the amount. -/
def maxFeeBps : Nat := 10000

/-! ## Reading -/

/-- The balance of a holder. -/
def balance (b : Book) (token holder : Address) : Amount := b.balances.getD (token, holder) 0

/-- Is this a deployed wrapped token? -/
def isDeployed (b : Book) (token : Address) : Bool := b.wrapped.contains token

/-- Name, symbol and decimals of a token. -/
def tokenMetadata (b : Book) (token : Address) : TokenMetadata :=
  (b.tokens[token]?.or b.wrapped[token]?).getD fallbackMetadata

/-- The book in a line of text. -/
def describe (b : Book) : String :=
  s!"InMemoryExecutor \x7b escrow: {b.escrow.lower}, .. \x7d"

/-! ## Setting up -/

/-- Gives an amount to a holder. -/
def mint (b : Book) (token holder : Address) (amount : Amount) : Book :=
  { b with
    balances := b.balances.insert (token, holder) ((b.balance token holder).saturatingAdd amount) }

/-- Tells the metadata of a token. -/
def registerToken (b : Book) (token : Address) (metadata : TokenMetadata) : Book :=
  { b with tokens := b.tokens.insert token metadata }

/-- Sets the transfer fee of a token. -/
def setTransferFee (b : Book) (token : Address) (bps : Nat) : Book :=
  { b with feeBps := b.feeBps.insert token (min bps maxFeeBps) }

/-- Sets the hook of an account. -/
def setHook (b : Book) (receiver : Address) (hook : MessageHook) : Book :=
  { b with hooks := b.hooks.insert receiver hook }

/-- Hands out the deliveries and forgets them. -/
def takeDeliveries (b : Book) : List MessageDelivery × Book :=
  (b.deliveries, { b with deliveries := [] })

/-! ## Staging -/

/-- The entries that a list of effects has touched. -/
structure Overlay where
  balances : Std.HashMap (Address × Address) Amount
  deployed : Std.HashMap Address TokenMetadata
  /-- New deliveries, oldest first. -/
  deliveries : List MessageDelivery
  pulled : Amount
  deriving Inhabited

namespace Overlay

/-- Nothing is touched. -/
def empty : Overlay := ⟨∅, ∅, [], 0⟩

/-- The balance of a holder, as staged or else as in the book. -/
def balance (o : Overlay) (b : Book) (token holder : Address) : Amount :=
  (o.balances[(token, holder)]?).getD (b.balance token holder)

/-- Adds to a balance. -/
def credit (o : Overlay) (b : Book) (token holder : Address) (amount : Amount) : Overlay :=
  { o with
    balances :=
      o.balances.insert (token, holder) ((o.balance b token holder).saturatingAdd amount) }

/-- Takes from a balance, if there is enough. -/
def debit (o : Overlay) (b : Book) (token holder : Address) (amount : Amount) :
    Except ExecutionError Overlay :=
  let available := o.balance b token holder
  if available < amount then .error (.insufficientBalance token holder available amount)
  else .ok { o with balances := o.balances.insert (token, holder) (available - amount) }

/-- Moves an amount between holders. -/
def transfer (o : Overlay) (b : Book) (token sender receiver : Address) (amount : Amount) :
    Except ExecutionError Overlay := do
  return (← o.debit b token sender amount).credit b token receiver amount

/-- Is this a wrapped token, staged or in the book? -/
def isWrapped (o : Overlay) (b : Book) (token : Address) : Bool :=
  o.deployed.contains token || b.wrapped.contains token

/-- Only wrapped tokens are minted and burned. -/
def requireWrapped (o : Overlay) (b : Book) (token : Address) : Except ExecutionError Unit :=
  if o.isWrapped b token then .ok () else .error (.unknownWrappedToken token)

end Overlay

/-- What a transfer of an amount loses; the product wraps. -/
def transferFee (b : Book) (token : Address) (amount : Amount) : Amount :=
  amount * BitVec.ofNat 256 (b.feeBps.getD token 0) / BitVec.ofNat 256 10000

/-- Calls the hook of the receiver, if there is one. -/
def callHook (b : Book) (d : MessageDelivery) : Except ExecutionError Unit :=
  match b.hooks[d.receiver]? with
  | none => .ok ()
  | some hook =>
    match hook d with
    | .ok () => .ok ()
    | .error reason => .error (.messageRejected d.receiver reason)

/-- One effect on an overlay. -/
def stage (b : Book) (o : Overlay) : Effect → Except ExecutionError Overlay
  | .lockNative sender amount => o.transfer b Address.zero sender b.escrow amount
  | .pullTokens token sender amount _ => do
    let o ← o.debit b token sender amount
    let received := amount - b.transferFee token amount
    let o := o.credit b token b.escrow received
    return { o with pulled := o.pulled + received }
  | .burnWrapped token sender amount => do
    o.requireWrapped b token
    o.debit b token sender amount
  | .releaseNative receiver amount => o.transfer b Address.zero b.escrow receiver amount
  | .releaseTokens token receiver amount => o.transfer b token b.escrow receiver amount
  | .deployWrapped token metadata =>
    if o.isWrapped b token then .error (.alreadyDeployed token)
    else
      let known := (TokenMetadata.decode? metadata).getD fallbackMetadata
      .ok { o with deployed := o.deployed.insert token known }
  | .mintWrapped token receiver amount => do
    o.requireWrapped b token
    return o.credit b token receiver amount
  | .deliverMessage receiver originAddress originNetwork value payload => do
    let o ← if value = 0 then pure o else o.transfer b Address.zero b.escrow receiver value
    let delivery : MessageDelivery := ⟨receiver, originAddress, originNetwork, value, payload⟩
    b.callHook delivery
    return { o with deliveries := o.deliveries ++ [delivery] }

/-- The newest of a list of deliveries. -/
def newest (deliveries : List MessageDelivery) : List MessageDelivery :=
  deliveries.drop (deliveries.length - maxDeliveries)

/-- Writes an overlay into the book. -/
def commit (b : Book) (o : Overlay) : Book :=
  { b with
    balances := b.balances.insertMany o.balances.toList
    wrapped := b.wrapped.insertMany o.deployed.toList
    deliveries := newest (b.deliveries ++ o.deliveries) }

/-- A list of effects, all or none. -/
def apply (b : Book) (effects : List Effect) : Except ExecutionError (ExecutionReceipt × Book) := do
  let o ← effects.foldlM b.stage .empty
  return (⟨o.pulled⟩, b.commit o)

instance : ExecutionHost Book where
  apply := apply
  tokenMetadata := tokenMetadata

end Book

end ExitBridge
