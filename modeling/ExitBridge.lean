import ExitBridge.Address
import ExitBridge.Bytes.BigEndian
import ExitBridge.Bytes.Fixed
import ExitBridge.Bytes.Hex
import ExitBridge.Config
import ExitBridge.Error
import ExitBridge.Execution.Book
import ExitBridge.Execution.Effect
import ExitBridge.Execution.Host
import ExitBridge.ExitRoot.Authority
import ExitBridge.ExitRoot.Basic
import ExitBridge.ExitRoot.Rollups
import ExitBridge.ExitRoot.Store
import ExitBridge.GlobalIndex
import ExitBridge.Http.Authority
import ExitBridge.Http.Message
import ExitBridge.Http.SocketAddress
import ExitBridge.Http.Target
import ExitBridge.Journal.Basic
import ExitBridge.Journal.Event
import ExitBridge.Json.Number
import ExitBridge.Json.Parser
import ExitBridge.Json.Printer
import ExitBridge.Json.Scanned
import ExitBridge.Json.Token
import ExitBridge.Json.Value
import ExitBridge.Keccak
import ExitBridge.Leaf
import ExitBridge.Ledger.Admin
import ExitBridge.Ledger.Basic
import ExitBridge.Ledger.Claim
import ExitBridge.Ledger.Deposit
import ExitBridge.Ledger.View
import ExitBridge.Merkle.ExitTree
import ExitBridge.Merkle.NodeHistory
import ExitBridge.Merkle.Path
import ExitBridge.Node.Admission
import ExitBridge.Node.ApiError
import ExitBridge.Node.Basic
import ExitBridge.Node.BlockClock
import ExitBridge.Node.Exposition
import ExitBridge.Node.Messages
import ExitBridge.Node.Metrics
import ExitBridge.Node.PeerSync
import ExitBridge.Node.Route
import ExitBridge.Node.Server
import ExitBridge.NodeHasher
import ExitBridge.ReplayGuard
import ExitBridge.Settings.Address
import ExitBridge.Settings.Basic
import ExitBridge.Settings.Environment
import ExitBridge.Settings.Peers
import ExitBridge.Text.Blank
import ExitBridge.Text.Described
import ExitBridge.Text.Integer
import ExitBridge.Text.Quoted
import ExitBridge.Text.Split
import ExitBridge.Text.Unprinted
import ExitBridge.TokenMetadata
import ExitBridge.Wire.Basic
import ExitBridge.Wire.Http
import ExitBridge.Wire.Ledger
import ExitBridge.Wire.Node
import ExitBridge.Wire.Settings
import ExitBridge.Wire.Stream
import ExitBridge.WrappedTokens
import ExitBridge.Main
import ExitBridge.Proofs.Merkle.Frontier
import ExitBridge.Proofs.Merkle.History
import ExitBridge.Proofs.Merkle.Path
import ExitBridge.Proofs.Merkle.Binding
import ExitBridge.Proofs.Merkle.Tree
import ExitBridge.Proofs.Merkle.Past
import ExitBridge.Proofs.ExitRoot.Rollups
import ExitBridge.Proofs.ExitRoot.Publish
import ExitBridge.Proofs.ExitRoot.Announce
import ExitBridge.Proofs.Leaf
import ExitBridge.Proofs.Ledger.Change
import ExitBridge.Proofs.Ledger.Call
import ExitBridge.Proofs.Ledger.Move
import ExitBridge.Proofs.Ledger.Journal
import ExitBridge.Proofs.Ledger.Session
import ExitBridge.Proofs.Ledger.Asset
import ExitBridge.Proofs.Execution.Book
import ExitBridge.Proofs.Execution.Traced
import ExitBridge.Proofs.Session.Deployed
import ExitBridge.Proofs.Session.Atomic
import ExitBridge.Proofs.Network.Run
import ExitBridge.Proofs.Network.Invariant
import ExitBridge.Proofs.Network.Completeness
import ExitBridge.Proofs.Network.Feed
import ExitBridge.Proofs.Network.Soundness
import ExitBridge.Proofs.GlobalIndex
import ExitBridge.Proofs.Network.Session
import ExitBridge.Proofs.Session.Claims
import ExitBridge.Proofs.Session.Registry
import ExitBridge.Proofs.Session.Deposits
import ExitBridge.Proofs.Session.Publications
import ExitBridge.Proofs.Session.Lessons
import ExitBridge.Proofs.Network.Delivery
import ExitBridge.Proofs.Execution.Balance
import ExitBridge.Proofs.Execution.Stage
import ExitBridge.Proofs.Execution.Direct
import ExitBridge.Proofs.Execution.TransferFee
import ExitBridge.Proofs.Execution.Supply
import ExitBridge.Proofs.Session.Payment
import ExitBridge.Proofs.Session.Escrow
import ExitBridge.Proofs.Session.Proven
import ExitBridge.Proofs.Session.Decision
import ExitBridge.Proofs.Session.Emergency
import ExitBridge.Proofs.Session.Wrapped
import ExitBridge.Proofs.Session.Returns
import ExitBridge.Proofs.Session.PulledAmount
import ExitBridge.Proofs.Node.Call
import ExitBridge.Proofs.Node.Follow
import ExitBridge.Proofs.Node.Authorization
import ExitBridge.Proofs.Node.Polling
import ExitBridge.Proofs.Wire.Restated
import ExitBridge.Proofs.Wire.Text
import ExitBridge.Proofs.Wire.Lossless
import ExitBridge.Proofs.Wire.Forms
import ExitBridge.Proofs.ExitRoot.RollupMap
import ExitBridge.Proofs.Session.ClaimedView
import ExitBridge.Proofs.Merkle.Restored
import ExitBridge.Proofs.TokenMetadata
import ExitBridge.Proofs.Node.ClaimRequest
import ExitBridge.Proofs.Journal.Reader
import ExitBridge.Proofs.Registrations
import ExitBridge.Proofs.Node.Settings
import ExitBridge.Proofs.Text.Parts
import ExitBridge.Proofs.Settings.Peers
import ExitBridge.Proofs.Settings.Redaction
import ExitBridge.Proofs.Ledger.Mirror
import ExitBridge.Proofs.Ledger.Told
import ExitBridge.Proofs.Node.History
import ExitBridge.Proofs.Node.Counters
import ExitBridge.Proofs.Node.Blocks
import ExitBridge.Proofs.Marks
import ExitBridge.Proofs.Preimages
