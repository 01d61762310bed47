import Mathlib.Data.List.Sort
import MediaServer.Foundation.Fifo
import MediaServer.Foundation.Text
import MediaServer.Signal.Message
import MediaServer.Transcription.Worker

/-!
# The gRPC service

`SignalingSvc` of `bin/sfu.rs`.  A call runs on its own and shares channels with
everybody else, so a handler is given as what it does next from each of the
points at which it touches something shared: between two points other threads
may take any number of steps.  `SignalingSvc.action` is the table of these
actions; `Server` interprets them.
-/

namespace MediaServer
namespace Grpc

open Foundation Signal Transcription

/-! ## Requests and responses -/

structure OfferRequest where
  sessionId : UInt64
  endpointId : UInt64
  offerSdp : String
  enableTranscription : Bool
  deriving DecidableEq

structure OfferResponse where
  sessionId : UInt64
  endpointId : UInt64
  answerSdp : String
  /-- non-empty if error -/
  error : String
  deriving DecidableEq

structure LeaveRequest where
  sessionId : UInt64
  endpointId : UInt64
  deriving DecidableEq

structure LeaveResponse where
  ok : Bool
  error : String
  deriving DecidableEq

structure EnableTranscriptionRequest where
  sessionId : UInt64
  endpointId : UInt64
  /-- "simul-streaming" or "openai" -/
  backend : String
  simulStreamingAddr : String
  openaiApiKey : String
  openaiBaseUrl : String
  openaiModel : String
  deriving DecidableEq

structure EnableTranscriptionResponse where
  ok : Bool
  error : String
  deriving DecidableEq

structure DisableTranscriptionRequest where
  sessionId : UInt64
  endpointId : UInt64
  deriving DecidableEq

structure DisableTranscriptionResponse where
  ok : Bool
  error : String
  deriving DecidableEq

/-- The gRPC statuses the service returns. -/
inductive Status
  | unavailable (message : String)
  | internal (message : String)
  deriving DecidableEq

inductive Request
  | offer (request : OfferRequest)
  | leave (request : LeaveRequest)
  | enableTranscription (request : EnableTranscriptionRequest)
  | disableTranscription (request : DisableTranscriptionRequest)
  deriving DecidableEq

/-- The session and endpoint a request names. -/
def Request.key : Request → SessionKey
  | .offer request => (request.sessionId, request.endpointId)
  | .leave request => (request.sessionId, request.endpointId)
  | .enableTranscription request => (request.sessionId, request.endpointId)
  | .disableTranscription request => (request.sessionId, request.endpointId)

/-- What a call returns. -/
inductive Reply
  | offer (result : Except Status OfferResponse)
  | leave (result : Except Status LeaveResponse)
  | enableTranscription (response : EnableTranscriptionResponse)
  | disableTranscription (response : DisableTranscriptionResponse)
  deriving DecidableEq

/-! ## The transcription side of the service -/

/-- The transcription worker with its channel. -/
structure Transcriber (δ : Type) where
  commands : Fifo TranscriptionCommand
  worker : TranscriptionWorker δ
  /-- the worker is in its loop, so that the receiving half still exists -/
  running : Bool

/-- `tx.send` on the channel of the transcription worker. -/
def Transcriber.send {δ : Type} (transcriber : Transcriber δ) (command : TranscriptionCommand) :
    Transcriber δ :=
  if transcriber.running then
    { transcriber with commands := transcriber.commands.push command }
  else transcriber

/-- Which of its two optional fields the service has. -/
structure Wiring where
  /-- `transcription_tx.is_some()` -/
  transcriptionTx : Bool
  /-- `transcription_manager.is_some()` -/
  transcriptionManager : Bool

/-- `main` creates the manager and the channel together. -/
def Wiring.main (enableTranscription : Bool) : Wiring := ⟨enableTranscription, enableTranscription⟩

variable {δ : Type}

/-- `SignalingSvc::start_transcription_session` -/
def startTranscriptionSession (codec : Codec δ) (wiring : Wiring) (transcriber : Transcriber δ)
    (sessionId endpointId : UInt64) (config : Option TranscriptionConfig) (env : Environment) :
    Transcriber δ × Except String Unit :=
  if wiring.transcriptionTx then
    if transcriber.running then
      (transcriber.send (.startSession sessionId endpointId config), .ok ())
    else
      (transcriber, .error "Failed to send start session command: sending on a closed channel")
  else if wiring.transcriptionManager then
    let (manager, result) :=
      transcriber.worker.manager.startSession codec sessionId endpointId config env
    ({ transcriber with worker := { transcriber.worker with manager := manager } }, result)
  else (transcriber, .error "Transcription not enabled")

/-- `SignalingSvc::stop_transcription_session` -/
def stopTranscriptionSession (wiring : Wiring) (transcriber : Transcriber δ)
    (sessionId endpointId : UInt64) : Transcriber δ :=
  if wiring.transcriptionTx then transcriber.send (.stopSession sessionId endpointId)
  else if wiring.transcriptionManager then
    { transcriber with
      worker :=
        { transcriber.worker with
          manager := transcriber.worker.manager.stopSession sessionId endpointId } }
  else transcriber

/-! ## The choices a handler makes on its own -/

/-- The port of a session: the ports in the order in which the map happens to
list them, sorted, and indexed by the session id. -/
def pickPort (keys : List UInt16) (sessionId : UInt64) : Option UInt16 :=
  if keys = [] then none
  else
    let sortedPorts := keys.insertionSort (· ≤ ·)
    sortedPorts[sessionId.toNat % sortedPorts.length]?

/-- `split(',').map(|s| s.trim().to_string())` -/
def splitAddresses (addresses : String) : List String :=
  (addresses.toList.splitOn ',').map fun part => String.ofList (Text.trim part)

/-- The "determine config override" part of `enable_transcription`: the override
or the text of the error that ends the call. -/
def configOverride (request : EnableTranscriptionRequest) :
    Except String (Option TranscriptionConfig) :=
  if request.backend = "" then .ok none
  else if request.backend = "openai" then
    if request.openaiApiKey = "" then .error "OpenAI API Key is required"
    else
      .ok (some (.withOpenai request.openaiApiKey
        (if request.openaiBaseUrl = "" then none else some request.openaiBaseUrl)
        (if request.openaiModel = "" then none else some request.openaiModel)))
  else if request.backend = "simul-streaming" then
    if request.simulStreamingAddr = "" then .error "SimulStreaming address is required"
    else .ok (some (.withServers (splitAddresses request.simulStreamingAddr)))
  else .ok none

/-- The response of an offer, by what the media worker answered. -/
def offerResponse (request : OfferRequest) : SignalingProtocolMessage → OfferResponse
  | .answer sessionId endpointId answerSdp =>
      { sessionId := sessionId, endpointId := endpointId, answerSdp := answerSdp, error := "" }
  | .err _ _ reason =>
      { sessionId := request.sessionId, endpointId := request.endpointId, answerSdp := "",
        error := reason }
  | _ =>
      { sessionId := request.sessionId, endpointId := request.endpointId, answerSdp := "",
        error := "invalid response" }

/-! ## The handlers -/

/-- Where a call is. -/
inductive CallPoint
  | entered
  /-- the offer was sent to the worker of the port, `response_rx.recv()` is next -/
  | offerAwaiting (port : UInt16)
  /-- the worker of the port has answered -/
  | offerAnswered (port : UInt16) (response : SignalingProtocolMessage)
  /-- the transcription session was started, the worker is to be notified -/
  | offerNotifying (port : UInt16) (response : SignalingProtocolMessage)
  /-- the transcription session was stopped, the leave is to be sent -/
  | leaveSending
  /-- the leave was sent and its response channel is still held -/
  | leaveSent
  | enableNotifying
  | disableNotifying
  | returned (reply : Reply)
  deriving DecidableEq

/-- What a call does next. -/
inductive Action
  /-- nothing that others could notice -/
  | proceed (next : CallPoint)
  /-- `start_transcription_session` -/
  | startSession (sessionId endpointId : UInt64) (config : Option TranscriptionConfig)
      (started : CallPoint) (failed : String → CallPoint)
  /-- `stop_transcription_session` -/
  | stopSession (sessionId endpointId : UInt64) (next : CallPoint)
  /-- `tx.send` on the channel of a media worker, which waits while it is full;
  `kept` says whether the call keeps the receiving half of the response channel -/
  | message (port : UInt16) (request : SignalingProtocolMessage) (kept : Bool)
      (sent failed absent : CallPoint)
  /-- `response_rx.recv()` -/
  | receive (received : SignalingProtocolMessage → CallPoint) (failed : CallPoint)

namespace SignalingSvc

/-- `SignalingSvc::offer` -/
def offer (keys : List UInt16) (request : OfferRequest) : CallPoint → Option Action
  | .entered =>
      match pickPort keys request.sessionId with
      | none =>
          some (.proceed (.returned (.offer (.ok
            { sessionId := request.sessionId, endpointId := request.endpointId, answerSdp := "",
              error := "No media ports" }))))
      | some port =>
          some (.message port
            (.offer request.sessionId request.endpointId request.offerSdp) true
            (.offerAwaiting port)
            (.returned (.offer (.error (.internal "failed to send signaling message"))))
            (.returned (.offer (.error (.unavailable "no worker for port")))))
  | .offerAwaiting port =>
      some (.receive (.offerAnswered port)
        (.returned (.offer (.error (.internal "failed to receive answer")))))
  | .offerAnswered port response =>
      let done : CallPoint := .returned (.offer (.ok (offerResponse request response)))
      if request.enableTranscription then
        -- the answer is looked at only after the session was started
        some (.startSession request.sessionId request.endpointId none
          (.offerNotifying port response) fun _ => done)
      else some (.proceed done)
  | .offerNotifying port response =>
      let done : CallPoint := .returned (.offer (.ok (offerResponse request response)))
      some (.message port (.enableTranscription request.sessionId request.endpointId) false
        done done done)
  | _ => none

/-- `SignalingSvc::leave` -/
def leave (keys : List UInt16) (request : LeaveRequest) : CallPoint → Option Action
  | .entered => some (.stopSession request.sessionId request.endpointId .leaveSending)
  | .leaveSending =>
      match pickPort keys request.sessionId with
      | none =>
          some (.proceed (.returned (.leave (.ok { ok := false, error := "No media ports" }))))
      | some port =>
          some (.message port (.leave request.sessionId request.endpointId) true
            .leaveSent
            (.returned (.leave (.error (.internal "failed to send leave message"))))
            (.returned (.leave (.ok { ok := true, error := "" }))))
  | .leaveSent => some (.proceed (.returned (.leave (.ok { ok := true, error := "" }))))
  | _ => none

/-- `SignalingSvc::enable_transcription` -/
def enableTranscription (wiring : Wiring) (keys : List UInt16)
    (request : EnableTranscriptionRequest) : CallPoint → Option Action
  | .entered =>
      if wiring.transcriptionManager then
        match configOverride request with
        | .error reason =>
            some (.proceed (.returned (.enableTranscription { ok := false, error := reason })))
        | .ok config =>
            some (.startSession request.sessionId request.endpointId config .enableNotifying
              fun reason => .returned (.enableTranscription
                { ok := false, error := "Failed to start transcription: " ++ reason }))
      else
        some (.proceed (.returned (.enableTranscription
          { ok := false, error := "Transcription is not initialized on this server" })))
  | .enableNotifying =>
      let done : CallPoint := .returned (.enableTranscription { ok := true, error := "" })
      match pickPort keys request.sessionId with
      | none => some (.proceed done)
      | some port =>
          some (.message port (.enableTranscription request.sessionId request.endpointId) false
            done done done)
  | _ => none

/-- `SignalingSvc::disable_transcription` -/
def disableTranscription (wiring : Wiring) (keys : List UInt16)
    (request : DisableTranscriptionRequest) : CallPoint → Option Action
  | .entered =>
      if wiring.transcriptionManager then
        some (.stopSession request.sessionId request.endpointId .disableNotifying)
      else
        some (.proceed (.returned (.disableTranscription
          { ok := false, error := "Transcription is not enabled on this server" })))
  | .disableNotifying =>
      let done : CallPoint := .returned (.disableTranscription { ok := true, error := "" })
      match pickPort keys request.sessionId with
      | none => some (.proceed done)
      | some port =>
          some (.message port (.disableTranscription request.sessionId request.endpointId) false
            done done done)
  | _ => none

/-- What a call does next at a point. -/
def action (wiring : Wiring) (keys : List UInt16) (request : Request) (point : CallPoint) :
    Option Action :=
  match request with
  | .offer request => offer keys request point
  | .leave request => leave keys request point
  | .enableTranscription request => enableTranscription wiring keys request point
  | .disableTranscription request => disableTranscription wiring keys request point

end SignalingSvc

end Grpc
end MediaServer
