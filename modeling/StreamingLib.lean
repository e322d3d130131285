import StreamingLib.Peg.Basic
import StreamingLib.Peg.Rules
import StreamingLib.Peg.Numeral
import StreamingLib.Peg.Delimiters
import StreamingLib.Rtsp.Definitions
import StreamingLib.Rtsp.Message.Grammar
import StreamingLib.Rtsp.Message.Generator
import StreamingLib.Rtsp.Message.RoundTrip
import StreamingLib.Rtsp.Message.Locality
import StreamingLib.Bytes.BigEndian
import StreamingLib.Rtp.Packet
import StreamingLib.Rtp.JpegCodec
import StreamingLib.Bytes.Parity
import StreamingLib.Rtp.FecGenerator
import StreamingLib.Rtp.FecRecovery
import StreamingLib.Rtp.FecWire
import StreamingLib.Rtp.FecExactness
import StreamingLib.Transition.Runs
import StreamingLib.Rtp.Sender
import StreamingLib.Rtp.SenderActivity
import StreamingLib.Rtp.Movie
import StreamingLib.Rtp.Timestamps
import StreamingLib.Rtp.Receiver
import StreamingLib.Counters.Serial
import StreamingLib.Rtp.SequenceUnwrapping
import StreamingLib.Rtp.LossFigures
import StreamingLib.Rtp.Resynchronisation
import StreamingLib.Rtp.FrameConservation
import StreamingLib.Rtp.ReconstructionBounds
import StreamingLib.Rtp.HeaderRecovery
import StreamingLib.Rtp.Receiving
import StreamingLib.Rtp.MediaPackets
import StreamingLib.Rtp.StatisticsSource
import StreamingLib.Rtp.JitterBuffer
import StreamingLib.Counters.Gaps
import StreamingLib.Rtp.LossAccounting
import StreamingLib.Rtp.LossDetection
import StreamingLib.Rtp.RecoveryPlaces
import StreamingLib.Rtsp.Headers.Normalize
import StreamingLib.Rtsp.Headers.Transport
import StreamingLib.Rtsp.Headers.TransportRoundTrip
import StreamingLib.Rtsp.Headers.Options
import StreamingLib.Rtsp.Session
import StreamingLib.Rtsp.Methods
import StreamingLib.Rtsp.Headers.Whitespace
import StreamingLib.Files.Paths
import StreamingLib.Rtsp.Ressources
import StreamingLib.Rtsp.Server.State
import StreamingLib.Rtsp.Server.Invariants
import StreamingLib.Rtsp.Server.HeaderOrder
import StreamingLib.Rtsp.Server.Atomicity
import StreamingLib.Rtsp.SessionActivity
import StreamingLib.Rtsp.Server.Connection
import StreamingLib.Rtsp.Server.Faults
import StreamingLib.Rtsp.Server.Responses
import StreamingLib.Rtsp.Server.Workers
import StreamingLib.Rtsp.Server.Deadlock
import StreamingLib.Rtsp.Client.State
import StreamingLib.Rtsp.Client.ServerTransport
import StreamingLib.Rtsp.Client.Listening
import StreamingLib.Rtsp.Server.Answers
import StreamingLib.Rtsp.Server.HostIndex
import StreamingLib.Rtsp.Server.Refinement
import StreamingLib.Rtsp.Client.Dialog
import StreamingLib.Rtsp.Client.Agreement
import StreamingLib.Counters.Groups
import StreamingLib.Rtp.ParityGroups
import StreamingLib.Rtp.SequenceBase
import StreamingLib.Rtp.FecLevels
import StreamingLib.Rtp.HeaderExtension
import StreamingLib.Rtsp.Message.EmptyHeaders
import StreamingLib.Rtsp.Negotiation
import StreamingLib.Rtsp.Client.Correlation
import StreamingLib.Rtsp.Client.Refusals
import StreamingLib.Rtsp.Server.SessionIndex
import StreamingLib.Rtsp.Server.HostTimeout
import StreamingLib.Rtsp.Message.OneLine
import StreamingLib.Rtsp.Server.ResponseLines
import StreamingLib.Rtsp.Message.FieldValues
import StreamingLib.Rtsp.Client.Urls
import StreamingLib.Transition.Simulation
import StreamingLib.Rtsp.Server.Linearization
import StreamingLib.Rtp.Wire
import StreamingLib.Rtp.GroupRecovery
import StreamingLib.Rtp.MediaLink
import StreamingLib.Rtp.Broadcast
import StreamingLib.Rtp.GapClosing
import StreamingLib.Rtp.LossRepair
import StreamingLib.Rtsp.Server.Supervision
import StreamingLib.Rtsp.Server.ReadableAnswers
import StreamingLib.Rtsp.Client.WireDialog
import StreamingLib.Transition.History
import StreamingLib.Rtp.OwnSource
import StreamingLib.Rtsp.Client.MediaPath
import StreamingLib.Rtp.RecoveredNumber
import StreamingLib.Rtsp.Server.ResponseParts
