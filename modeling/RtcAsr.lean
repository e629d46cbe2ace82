import RtcAsr.Foundation.StepSystem
import RtcAsr.Foundation.Binary64
import RtcAsr.Foundation.CeilQuotient
import RtcAsr.Python.Value
import RtcAsr.Protocol.Message
import RtcAsr.Protocol.RawUds
import RtcAsr.Protocol.RawUdsRead
import RtcAsr.Protocol.Validation
import RtcAsr.Server.Start
import RtcAsr.Server.Transports
import RtcAsr.Server.PartialInterval
import RtcAsr.Server.Session
import RtcAsr.Server.Runtime
import RtcAsr.Server.Connection
import RtcAsr.Server.StreamRule
import RtcAsr.Server.StatefulDecoder
import RtcAsr.Server.Delivery
import RtcAsr.Server.FinalDecode
import RtcAsr.Server.AutoFinal
import RtcAsr.Server.EventGrammar
import RtcAsr.Server.EventOrder
import RtcAsr.Server.FinalizeServed
import RtcAsr.Plugin.Config
import RtcAsr.Plugin.StartMessage
import RtcAsr.Protocol.ServerMessage
import RtcAsr.Protocol.Redump
import RtcAsr.Protocol.RawUdsRoundTrip
import RtcAsr.Server.ClientInput
import RtcAsr.Server.SenderJoin
import RtcAsr.Foundation.Coroutine
import RtcAsr.Foundation.CoroutineLock
import RtcAsr.Plugin.ServerEvent
import RtcAsr.Plugin.Service
import RtcAsr.Plugin.Calls
import RtcAsr.Plugin.CallOrder
import RtcAsr.Plugin.ControlState
import RtcAsr.Plugin.Ledger
import RtcAsr.Plugin.StaleTranscripts
import RtcAsr.Plugin.Speaking
import RtcAsr.Plugin.AudioState
import RtcAsr.Plugin.Unmixed
import RtcAsr.Plugin.SendOrder
import RtcAsr.Plugin.Link
import RtcAsr.Plugin.Loops
import RtcAsr.Foundation.Framing
import RtcAsr.Protocol.FrameDecoder
import RtcAsr.Plugin.FrameCodec
import RtcAsr.Plugin.ServerFrames
import RtcAsr.Server.WorkerMove
import RtcAsr.Server.DecodeWindow
import RtcAsr.Server.TranscriptWindow
import RtcAsr.Server.ReceivedStart
import RtcAsr.Server.WakeUp
import RtcAsr.Foundation.Streak
import RtcAsr.Server.Stability
import RtcAsr.Server.DecoderCalls
import RtcAsr.Foundation.SampleWords
import RtcAsr.Audio.Processor
import RtcAsr.Audio.RawPcm
import RtcAsr.Client.StartCall
import RtcAsr.Client.LocalSttClient
import RtcAsr.Client.ReplyPath
import RtcAsr.Client.OwnReplies
import RtcAsr.Backend.Adapter
import RtcAsr.Server.ConnReadiness
import RtcAsr.Server.LegacyReadiness
import RtcAsr.Server.Readiness
import RtcAsr.Client.ConformingClient
import RtcAsr.Plugin.StartedOnce
import RtcAsr.Plugin.SendQueue
import RtcAsr.Foundation.Cancellation
import RtcAsr.Plugin.Cancellation
import RtcAsr.Plugin.SendLoopServed
import RtcAsr.Plugin.Suspension
import RtcAsr.Plugin.Consumer
import RtcAsr.Server.WindowAlignment
import RtcAsr.Server.IntervalRounding
import RtcAsr.Foundation.EditDistance
import RtcAsr.Bench.WordErrorRate
import RtcAsr.Python.Strip
import RtcAsr.Backend.Vosk
import RtcAsr.Plugin.FinalizeStages
import RtcAsr.Plugin.Bystanders
import RtcAsr.Plugin.FinalizeSent
import RtcAsr.Plugin.QueueAccounts
import RtcAsr.Plugin.AudioFidelity
import RtcAsr.Foundation.Routine
import RtcAsr.Bridge.Relay
import RtcAsr.Bridge.RelayInvariant
import RtcAsr.Bridge.RelayRuns
import RtcAsr.Bridge.RelayFidelity
import RtcAsr.Bridge.RelayServer
import RtcAsr.Foundation.FairSchedule
import RtcAsr.Client.AudioText
import RtcAsr.Client.StreamingClient
import RtcAsr.Client.ServedScript
import RtcAsr.Client.StreamingRuns
import RtcAsr.Client.StreamingProgress
import RtcAsr.Client.HttpStream
import RtcAsr.Foundation.LogSections
import RtcAsr.Server.Reports
import RtcAsr.Server.BackendAnswers
import RtcAsr.Server.Dictation
import RtcAsr.Client.EndToEnd
import RtcAsr.Foundation.Ranking
import RtcAsr.Server.Shutdown
import RtcAsr.Foundation.CoroutineWaits
import RtcAsr.Plugin.Deadlock
