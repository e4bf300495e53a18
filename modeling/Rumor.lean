import Rumor.Address
import Rumor.Api.Client
import Rumor.Api.Connection
import Rumor.Api.Server
import Rumor.Bytes
import Rumor.Cache
import Rumor.Cli
import Rumor.Cli.Arguments
import Rumor.Cli.Host
import Rumor.Config
import Rumor.Config.Text
import Rumor.Digest
import Rumor.Digest.Sha256
import Rumor.Domain
import Rumor.Domain.Composition
import Rumor.Domain.Direction
import Rumor.Domain.Joining
import Rumor.Domain.Mapping
import Rumor.Domain.Punycode
import Rumor.Domain.Table
import Rumor.Engine
import Rumor.Error
import Rumor.Files
import Rumor.Frame
import Rumor.Inbound
import Rumor.Interest
import Rumor.Ip
import Rumor.Json.Printer
import Rumor.Json.Quoted
import Rumor.Json.Token
import Rumor.Json.Value
import Rumor.Live.Link
import Rumor.Live.Node
import Rumor.Mailboxes
import Rumor.Main
import Rumor.Message
import Rumor.Network
import Rumor.Node
import Rumor.Peers
import Rumor.Proofs.Api.Connection
import Rumor.Proofs.Api.Listening
import Rumor.Proofs.Api.NoteSize
import Rumor.Proofs.Api.Rejection
import Rumor.Proofs.Bytes
import Rumor.Proofs.Cache
import Rumor.Proofs.Calls
import Rumor.Proofs.Calls.Addressees
import Rumor.Proofs.Calls.AtMostOnce
import Rumor.Proofs.Calls.DegreeBound
import Rumor.Proofs.Config
import Rumor.Proofs.Digits
import Rumor.Proofs.Engine
import Rumor.Proofs.Engine.Acceptance
import Rumor.Proofs.Engine.Dropped
import Rumor.Proofs.Engine.Listing
import Rumor.Proofs.Engine.Membership
import Rumor.Proofs.Engine.SentSize
import Rumor.Proofs.Engine.Spreading
import Rumor.Proofs.Files
import Rumor.Proofs.Frame
import Rumor.Proofs.Frame.Grammar
import Rumor.Proofs.Frame.Stream
import Rumor.Proofs.Frame.Writing
import Rumor.Proofs.Hub
import Rumor.Proofs.Hub.Alone
import Rumor.Proofs.Hub.Announcing
import Rumor.Proofs.Hub.Conversation
import Rumor.Proofs.Hub.Delivery
import Rumor.Proofs.Hub.Entry
import Rumor.Proofs.Hub.Exchange
import Rumor.Proofs.Hub.Subscriptions
import Rumor.Proofs.Inbound
import Rumor.Proofs.Interest
import Rumor.Proofs.Interest.History
import Rumor.Proofs.Json
import Rumor.Proofs.Json.Members
import Rumor.Proofs.Json.Number
import Rumor.Proofs.Listed
import Rumor.Proofs.Mailboxes
import Rumor.Proofs.Mailboxes.Delivery
import Rumor.Proofs.Message
import Rumor.Proofs.Message.Addresses
import Rumor.Proofs.Overlay
import Rumor.Proofs.Overlay.Coverage
import Rumor.Proofs.Overlay.Extinction
import Rumor.Proofs.Overlay.Integrity
import Rumor.Proofs.Peers
import Rumor.Proofs.Peers.Batches
import Rumor.Proofs.Peers.Merging
import Rumor.Proofs.Peers.Representation
import Rumor.Proofs.Peers.Views
import Rumor.Proofs.Queue
import Rumor.Proofs.Record
import Rumor.Proofs.Record.Grammar
import Rumor.Proofs.Record.RoundTrip
import Rumor.Proofs.Record.Size
import Rumor.Proofs.Record.Spelling
import Rumor.Proofs.Record.Truncation
import Rumor.Proofs.Run
import Rumor.Proofs.Stamp
import Rumor.Proofs.Stamp.Binding
import Rumor.Proofs.Stamp.Search
import Rumor.Proofs.Stamp.Tampering
import Rumor.Proofs.Startup
import Rumor.Proofs.Utf8
import Rumor.Proofs.Utf8.Lossy
import Rumor.Proofs.Utf8.Strict
import Rumor.Proofs.Varint
import Rumor.Queue
import Rumor.Record
import Rumor.Registry.Client
import Rumor.Registry.Exchange
import Rumor.Registry.Url
import Rumor.Stamp
import Rumor.SystemFault
import Rumor.Text.Digits
import Rumor.Text.Line
import Rumor.Text.Utf8
import Rumor.WireError
