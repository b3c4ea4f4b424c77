import QCore.Foundation.Machine
import QCore.Foundation.Completion
import QCore.Foundation.Outcome
import QCore.Foundation.SlotTable
import QCore.Foundation.Bytes
import QCore.Foundation.SwapList
import QCore.Foundation.SwapQueue
import QCore.Foundation.Buffer
import QCore.Foundation.Loop
import QCore.Foundation.Account
import QCore.Foundation.InOrder
import QCore.Foundation.F1uFormats
import QCore.Foundation.DigitTexts
import QCore.Foundation.PlmnCoding
import QCore.Foundation.Per.Bits
import QCore.Foundation.Per.Runtime
import QCore.Foundation.Per.Codec
import QCore.Foundation.Per.Forms
import QCore.Foundation.Per.Containers
import QCore.Foundation.Per.Aligned
import QCore.Userplane.Types
import QCore.Userplane.PacketProcessor
import QCore.Userplane.SlotRecycling
import QCore.Userplane.Interleaving
import QCore.Userplane.Ownership
import QCore.Userplane.DownlinkPipeline
import QCore.Userplane.DownlinkBuffer
import QCore.Userplane.UplinkPipeline
import QCore.Userplane.UplinkRounds
import QCore.Userplane.Decapsulation
import QCore.Userplane.Accounting
import QCore.Userplane.Plane
import QCore.Userplane.Forwarding
import QCore.Userplane.Encapsulation
import QCore.Userplane.SequenceNumbers
import QCore.Userplane.CounterRanges
import QCore.Startup.PlmnConfig
import QCore.Stack.Transactions
import QCore.Stack.RequestCalls
import QCore.Stack.Delivery
import QCore.Stack.SctpReceive
import QCore.F1ap.Messages
import QCore.F1ap.TopPdu
import QCore.F1ap.Ies
import QCore.F1ap.WireMessages
import QCore.F1ap.PduCodec
import QCore.F1ap.WireFormat
import QCore.F1ap.Build
import QCore.F1ap.Service
import QCore.Stack.Correlation
import QCore.Stack.HandleMessage
import QCore.Stack.TnlaPool
import QCore.Stack.Shutdown
import QCore.Stack.ShutdownOrder
import QCore.Stack.ShutdownProgress
import QCore.Dispatch.UeChannels
import QCore.Dispatch.UeTasks
import QCore.Dispatch.Interface
import QCore.Dispatch.Removal
import QCore.Security.Keygen
import QCore.Nas.Messages
import QCore.Security.Protection
import QCore.Security.KeyAgreement
import QCore.Security.Streams
import QCore.Rrc.Messages
import QCore.Ue.Context
import QCore.Ue.Identity
import QCore.Ue.Task
import QCore.Ue.InitialAccess
import QCore.Ue.Procedures
import QCore.Ue.Requests
import QCore.Ue.SmallNetwork
import QCore.Ue.AttachFlow
import QCore.Ue.Upkeep
import QCore.Ue.Authentication
import QCore.Ue.ForwardingState
import QCore.Ue.Dialogue
import QCore.Ue.ReleaseRequests
import QCore.Ue.Counts
import QCore.Ue.CounterRanges
import QCore.Ue.Bearers
import QCore.Ue.BearerAgreement
import QCore.Ue.Downlink
import QCore.Foundation.Conversation
import QCore.Ue.StandardUe
import QCore.Ue.Exchange
import QCore.Ue.Attachment
import QCore.Ue.Establishment
import QCore.Ue.Lifetime
