import Ism.AcceptedPacket
import Ism.Adapter
import Ism.AdapterAtomic
import Ism.AdapterTable
import Ism.AdapterTrace
import Ism.ApiUse
import Ism.Authority
import Ism.Bailiwick
import Ism.BoundaryAgreement
import Ism.BoundaryLanguage
import Ism.Cache
import Ism.Callbacks
import Ism.CnameChain
import Ism.Compression
import Ism.Conformance
import Ism.ConnectionRuntime
import Ism.Core
import Ism.CoreAnswer
import Ism.CoreMinimal
import Ism.CoreRun
import Ism.Coverage
import Ism.EventQueue
import Ism.EventRing
import Ism.EventRingRun
import Ism.Exchange
import Ism.FrameRoundTrip
import Ism.Framing
import Ism.Gateway
import Ism.GeneratedGate
import Ism.GeneratedSubset
import Ism.Grammar
import Ism.HeaderOnly
import Ism.Ingress
import Ism.Isolation
import Ism.LateFin
import Ism.Lib.Buffer
import Ism.Lib.Counted
import Ism.Lib.Format
import Ism.Lib.PrefixCode
import Ism.Lib.Ring
import Ism.Lib.Runs
import Ism.Lib.SlotTable
import Ism.Lib.Tiling
import Ism.Multiplexer
import Ism.MultiplexerRun
import Ism.Name
import Ism.NameCodec
import Ism.NameFuel
import Ism.NameOffsets
import Ism.NameTrace
import Ism.Opt
import Ism.OptCodec
import Ism.PacketCodec
import Ism.PacketTrace
import Ism.PaddedMessage
import Ism.Padding
import Ism.Parser
import Ism.Protocol
import Ism.ProtocolError
import Ism.PulseMultiplexer
import Ism.PulsePilot
import Ism.PulseSend
import Ism.PulseSendRun
import Ism.PulseShell
import Ism.PulseShellRun
import Ism.RecordCodec
import Ism.Reencoding
import Ism.Registry
import Ism.Responder
import Ism.ResponseFlags
import Ism.Runtime
import Ism.SendOnce
import Ism.SendSlot
import Ism.SendSlotRun
import Ism.Serializer
import Ism.ShardedCache
import Ism.Shell
import Ism.ShellRun
import Ism.ShellTable
import Ism.ShippedZone
import Ism.Shutdown
import Ism.Stream
import Ism.StreamFin
import Ism.StreamIds
import Ism.StreamTrace
import Ism.UniqueDecoding
import Ism.WholeStream
import Ism.WholeStreamRun
import Ism.Wildcard
import Ism.Worker
import Ism.Zone
import Ism.ZoneCase
import Ism.ZoneFile
