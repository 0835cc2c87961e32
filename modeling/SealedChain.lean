import SealedChain.Bytes.Hex
import SealedChain.Bytes.Keccak
import SealedChain.Binary64.Shortest
import SealedChain.Binary64.Scaled
import SealedChain.Json.Basic
import SealedChain.Json.Printer
import SealedChain.Json.Shape
import SealedChain.Json.Truth
import SealedChain.Text.Checksum
import SealedChain.Rpc.Reply
import SealedChain.Rpc.Method
import SealedChain.Block.Command
import SealedChain.Block.Tag
import SealedChain.Block.Record
import SealedChain.Block.History
import SealedChain.Chain.Basic
import SealedChain.Node.Http
import SealedChain.Client.Exchange
import SealedChain.Client.Query
import SealedChain.Client.Acknowledgment
import SealedChain.Client.Settlement
import SealedChain.Client.Transport.Http
import SealedChain.Client.Transport.Socket
import SealedChain.Session.Control
import SealedChain.Options.Arguments
import SealedChain.Url.Basic
import SealedChain.Main
import SealedChain.Proofs.Chain.BlockHash
import SealedChain.Proofs.Chain.Timing
import SealedChain.Proofs.Client.Correlation
import SealedChain.Proofs.Call.Transparency
import SealedChain.Proofs.Client.Loop
import SealedChain.Proofs.Client.Ending
import SealedChain.Proofs.Binary64.Rounding
import SealedChain.Proofs.Binary64.Shortest
import SealedChain.Proofs.Json.Numeral
import SealedChain.Proofs.Json.Passage
import SealedChain.Proofs.Rpc.Request
import SealedChain.Proofs.Call.Post
import SealedChain.Proofs.Chain.Commitment
import SealedChain.Proofs.Chain.Conservation
import SealedChain.Proofs.Chain.Visible
import SealedChain.Proofs.Engine.Deployment
import SealedChain.Proofs.Engine.Faithful
import SealedChain.Proofs.Engine.Terms
import SealedChain.Proofs.Engine.Sound
import SealedChain.Proofs.Engine.Settled
import SealedChain.Proofs.Engine.RoundTrip
import SealedChain.Proofs.Client.Table
import SealedChain.Proofs.Client.Desk
import SealedChain.Proofs.Client.Exact
import SealedChain.Proofs.Json.Range
import SealedChain.Proofs.Node.Reply
import SealedChain.Proofs.Chain.Stopping
import SealedChain.Proofs.Chain.Finality
import SealedChain.Proofs.Chain.Lookup
import SealedChain.Proofs.Chain.Refusal
import SealedChain.Proofs.Node.Effect
import SealedChain.Proofs.Rpc.Reading
import SealedChain.Proofs.Chain.Atomicity
import SealedChain.Proofs.Client.Adoption
import SealedChain.Proofs.Chain.Pushes
import SealedChain.Proofs.Node.HistoryCall
import SealedChain.Proofs.Call.Classification
import SealedChain.Proofs.Call.Polling
import SealedChain.Proofs.Call.Acknowledgment
import SealedChain.Proofs.Rpc.Reply
import SealedChain.Proofs.Node.Envelope
import SealedChain.Proofs.Json.Word
import SealedChain.Proofs.Block.Command
import SealedChain.Proofs.Block.Tag
import SealedChain.Proofs.Client.Stream
import SealedChain.Proofs.Client.Excerpt
