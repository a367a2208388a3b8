import BevyIroh.Client.Delivery
import BevyIroh.Client.Events
import BevyIroh.Client.Ids
import BevyIroh.Client.Transport
import BevyIroh.PeerClose
import BevyIroh.Server.CloseChannel
import BevyIroh.Server.Events
import BevyIroh.Server.OpenChannel
import BevyIroh.Shared.RecvChannels
import BevyIroh.Shared.Reliable.Malformed
import BevyIroh.Shared.Reliable.Mismatch
import BevyIroh.Shared.Reliable.OneShot
import BevyIroh.Shared.Reliable.Unambiguous
import BevyIroh.Shared.Tasks.Flush
import BevyIroh.Client.Reconnect
import BevyIroh.Server.Removal
import BevyIroh.Server.Statistics
import BevyIroh.Shared.Statistics
import BevyIroh.Shared.Buffers
import BevyIroh.Shared.Datagrams
import BevyIroh.Clearing
import BevyIroh.Server.Send
import BevyIroh.Configured
import BevyIroh.Shared.Reliable.Inverse
import BevyIroh.Shared.Tasks.Refusals
import BevyIroh.ClientIds
import BevyIroh.Messages
import BevyIroh.Shared.AtRest
import BevyIroh.Shared.Arriving
import BevyIroh.Server.Stopped
import BevyIroh.Client.Closed
import BevyIroh.Agreement
import BevyIroh.Server.Settling
