import MediaServer.Foundation.HashMap
import MediaServer.Foundation.Machine
import MediaServer.Foundation.Fifo
import MediaServer.Foundation.Receiver
import MediaServer.Foundation.Log
import MediaServer.Foundation.Checked
import MediaServer.Foundation.ByteOrder
import MediaServer.Foundation.RtpPacket
import MediaServer.Foundation.Text
import MediaServer.Foundation.Blocks
import MediaServer.Foundation.Samples
import MediaServer.Foundation.Riff
import MediaServer.Transcription.Command
import MediaServer.Transcription.Extractor
import MediaServer.Transcription.RtpParser
import MediaServer.Transcription.RtpSoundness
import MediaServer.Transcription.RtpSafety
import MediaServer.Transcription.Manager
import MediaServer.Transcription.Worker
import MediaServer.Transcription.Decoder
import MediaServer.Transcription.Resampling
import MediaServer.Transcription.Wav
import MediaServer.Transcription.WavRoundTrip
import MediaServer.Transcription.OpenAi
import MediaServer.Transcription.Timeline
import MediaServer.Transcription.WorkerRuns
import MediaServer.Transcription.ClosedBackend
import MediaServer.Transcription.Creation
import MediaServer.Transcription.DecoderSessions
import MediaServer.Transcription.Lockstep
import MediaServer.Transcription.SimulStreaming
import MediaServer.Transcription.AsyncSimulStreaming
import MediaServer.Transcription.AudioStream
import MediaServer.Transcription.ResultReceiver
import MediaServer.Transcription.Handles
import MediaServer.Transcription.ResultQueues
import MediaServer.Transcription.DecodedStream
import MediaServer.Transcription.ServerRotation
import MediaServer.Signal.Message
import MediaServer.Signal.MediaWorker
import MediaServer.Signal.AudioRouter
import MediaServer.Signal.AudioPaths
import MediaServer.Signal.Attribution
import MediaServer.Signal.SsrcBinding
import MediaServer.Signal.EnabledLabels
import MediaServer.Grpc.SignalingSvc
import MediaServer.Grpc.Server
import MediaServer.Grpc.Steps
import MediaServer.Grpc.SessionAffinity
import MediaServer.Grpc.Replies
import MediaServer.Grpc.StartBeforeAudio
import MediaServer.Grpc.CommandQueue
import MediaServer.Grpc.CallCourse
import MediaServer.Grpc.StartReports
import MediaServer.Grpc.RejectedOffer
import MediaServer.Grpc.Agreement
import MediaServer.Grpc.Leave
import MediaServer.Grpc.Subscriptions
import MediaServer.Grpc.Distribution
import MediaServer.Foundation.RoundRobin
import MediaServer.Transcription.DefaultRotation
import MediaServer.Signal.Renaming
import MediaServer.Transcription.ConcurrentStarts
import MediaServer.Transcription.AsyncOpenAi
import MediaServer.Foundation.TrimEnd
import MediaServer.Transcription.RequestUrl
import MediaServer.Foundation.Reader
import MediaServer.Transcription.SocketAddr
import MediaServer.Transcription.Connecting
import MediaServer.Grpc.ServerAddresses
import MediaServer.Foundation.Enumeration
import MediaServer.Foundation.Fallible
import MediaServer.Foundation.Roster
import MediaServer.Sfu.Description
import MediaServer.Sfu.Config
import MediaServer.Sfu.PopulateSdp
import MediaServer.Sfu.Endpoint
import MediaServer.Sfu.Session
import MediaServer.Sfu.ServerStates
import MediaServer.Sfu.Gateway
import MediaServer.Sfu.SfuMachine
import MediaServer.Sfu.Registry
import MediaServer.Sfu.Writes
import MediaServer.Sfu.Calls
import MediaServer.Sfu.Provenance
import MediaServer.Sfu.Idle
import MediaServer.Sfu.Forwarding
import MediaServer.Sfu.MediaPaths
import MediaServer.Sfu.AudioTap
import MediaServer.Sfu.Isolation
import MediaServer.Sfu.Sections
import MediaServer.Sfu.Listing
import MediaServer.Sfu.Negotiation
import MediaServer.Sfu.Interceptor
import MediaServer.Foundation.Relay
import MediaServer.Sfu.Handlers
import MediaServer.Sfu.Pipeline
import MediaServer.Sfu.PipelineReads
import MediaServer.Sfu.PipelineRuns
import MediaServer.Sfu.PipelineOrder
import MediaServer.Sfu.PipelineDelivery
import MediaServer.Sfu.PipelineMedia
import MediaServer.Sfu.PipelineSilence
