/-
  Hosts that a ledger can run over.

  * `Host.book`: a book of balances.
  * `Host.accepting`: carries out everything, for dry runs; it moves nothing and knows no token.
  * `Host.unavailable`: refuses everything, with a reason.
-/
import ExitBridge.Execution.Book

namespace ExitBridge

/-- A place where value moves. -/
inductive Host where
  | book (b : Book)
  | accepting
  | unavailable (reason : String)
  deriving Inhabited

namespace Host

/-- Carries out a list of effects. -/
def apply (h : Host) (effects : List Effect) : Except ExecutionError (ExecutionReceipt × Host) :=
  match h with
  | book b => (b.apply effects).map fun (receipt, b) => (receipt, book b)
  | accepting => .ok (⟨0⟩, accepting)
  | unavailable reason => .error (.unavailable reason)

/-- Name, symbol and decimals of a token. -/
def tokenMetadata : Host → Address → TokenMetadata
  | book b => b.tokenMetadata
  | _ => fun _ => ⟨"", "", 0⟩

instance : ExecutionHost Host where
  apply := apply
  tokenMetadata := tokenMetadata

end Host

end ExitBridge
