import Knust.Application.Acknowledging
import Knust.Application.Callbacks
import Knust.Application.Confidentiality
import Knust.Application.ConnectionPool
import Knust.Application.Delivery
import Knust.Application.Endurance
import Knust.Application.GroupReads
import Knust.Application.GroupValues
import Knust.Application.Reconnection
import Knust.Application.Retransmission
import Knust.Application.TypedGroupAddress
import Knust.Config.EtsExport
import Knust.Config.Xml
import Knust.Protocol.AddressText
import Knust.Protocol.Dpt.Agreement
import Knust.Protocol.Dpt.Float2Byte
import Knust.Protocol.Dpt.Refresh
import Knust.Protocol.Dpt.Reversal
import Knust.Protocol.GroupTransfer
import Knust.Protocol.MessageRoundTrip
import Knust.Security.Channel
import Knust.Security.MacInput
import Knust.Security.Nonces
import Knust.Transport.AddressClaims
import Knust.Transport.Confidentiality
import Knust.Transport.Confinement
import Knust.Transport.DescriptorAnswers
import Knust.Transport.Discovery
import Knust.Transport.Heartbeat
import Knust.Transport.QueueFifo
import Knust.Transport.QueueWakeups
import Knust.Transport.ReceiveLimiter
import Knust.Transport.SecureStream
import Knust.Transport.SessionRemoval
import Knust.Transport.StreamCleanup
