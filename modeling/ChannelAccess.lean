import ChannelAccess.Client.Basic
import ChannelAccess.Codec.Number
import ChannelAccess.Codec.Text
import ChannelAccess.Config.Environment
import ChannelAccess.Reactor.Dispatcher
import ChannelAccess.Reactor.Process
import ChannelAccess.Timer.Run
import ChannelAccess.Wire.SearchPacket
import ChannelAccess.Proofs.Framing.Stream
import ChannelAccess.Proofs.Framing.Layout
import ChannelAccess.Proofs.Framing.Agreement
import ChannelAccess.Proofs.Wire.Alignment
import ChannelAccess.Proofs.Wire.SearchGrammar
import ChannelAccess.Proofs.Circuit.Compaction
import ChannelAccess.Proofs.Circuit.Receiving
import ChannelAccess.Proofs.Circuit.Effects
import ChannelAccess.Proofs.Circuit.Reassembly
import ChannelAccess.Proofs.Heap.Contents
import ChannelAccess.Proofs.Search.Agreement
import ChannelAccess.Proofs.Search.Retries
import ChannelAccess.Proofs.Search.Stranding
import ChannelAccess.Proofs.Search.Datagrams
import ChannelAccess.Proofs.Heap.Order
import ChannelAccess.Proofs.Timer.Ideal
import ChannelAccess.Proofs.Timer.Refinement
import ChannelAccess.Proofs.Timer.System
import ChannelAccess.Proofs.Timer.Fate
import ChannelAccess.Proofs.Circuit.Sending
import ChannelAccess.Proofs.Stripe.Serial
import ChannelAccess.Proofs.Stripe.Pool
import ChannelAccess.Proofs.Monitor.Striped
import ChannelAccess.Proofs.Monitor.Bounded
import ChannelAccess.Proofs.Monitor.Latest
import ChannelAccess.Proofs.History
import ChannelAccess.Proofs.Search.Promises
import ChannelAccess.Proofs.Search.Replies
import ChannelAccess.Proofs.Circuit.Ownership
import ChannelAccess.Proofs.Circuit.Pausing
import ChannelAccess.Proofs.Circuit.Signalling
import ChannelAccess.Proofs.Reactor.Entries
import ChannelAccess.Proofs.Reactor.Leadership
import ChannelAccess.Proofs.Reactor.Watching
import ChannelAccess.Proofs.Reactor.Closing
import ChannelAccess.Proofs.Circuit.Registry
import ChannelAccess.Proofs.Circuit.Sharing
import ChannelAccess.Proofs.Circuit.Registration
import ChannelAccess.Proofs.Circuit.Settling
import ChannelAccess.Proofs.Circuit.Holders
import ChannelAccess.Proofs.Circuit.Undisturbed
import ChannelAccess.Proofs.Search.Backoff
import ChannelAccess.Proofs.Search.Anomaly
import ChannelAccess.Proofs.Search.Lengths
import ChannelAccess.Proofs.Client.Observing
import ChannelAccess.Proofs.Client.Deeds
import ChannelAccess.Proofs.Client.Shutdown
import ChannelAccess.Proofs.Beacon.Filtering
import ChannelAccess.Proofs.Beacon.Copies
import ChannelAccess.Proofs.Circuit.Releasing
import ChannelAccess.Proofs.Monitor.SelfWaiting
import ChannelAccess.Proofs.Circuit.Silence
import ChannelAccess.Proofs.Codec.Arrays
import ChannelAccess.Proofs.Codec.Texts
import ChannelAccess.Proofs.Response.ErrorReports
import ChannelAccess.Proofs.Response.Beacons
import ChannelAccess.Proofs.Config.EngineGrammar
import ChannelAccess.Proofs.Pool.Jobs
import ChannelAccess.Proofs.Address.List
