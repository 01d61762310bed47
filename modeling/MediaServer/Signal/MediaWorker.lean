import MediaServer.Foundation.Machine
import MediaServer.Signal.Message

/-!
# The main loop of a media worker

`sync_run_with_transcription` as a machine.  One iteration of the source's loop
passes through three points:

* `signaling`: `rx.try_recv()` yields at most one message, which is handled.
  When the handler cannot deliver its reply the loop starts over (`continue`),
  so the audio of this iteration is not drained;
* `draining`: audio packets are taken from the queue of the gateway tap one by
  one and forwarded, until the queue is empty;
* `reading`: the pipeline reads the socket, and the gateway taps the audio
  packets it lets pass.

An input names what the environment contributes at the current point.
-/

namespace MediaServer
namespace Signal

open Foundation Transcription

/-- The parts of an RTP packet that the gateway reads. -/
structure RtpPacket where
  ssrc : UInt32
  timestamp : UInt32
  sequenceNumber : UInt16
  payloadType : UInt8
  payload : Bytes
  deriving DecidableEq

/-- Audio packet data extracted from RTP. -/
structure AudioPacketInfo where
  ssrc : UInt32
  timestamp : UInt32
  sequenceNumber : UInt16
  payloadType : UInt8
  payload : Bytes
  deriving DecidableEq

/-- Common OPUS payload types used in WebRTC. -/
def opusPayloadTypes : List UInt8 := [111, 109, 96]

/-- Check if a payload type is likely audio (OPUS). -/
def isAudioPayloadType (payloadType : UInt8) : Bool := opusPayloadTypes.contains payloadType

/-- A decrypted packet at the gateway.  `endpoint` is the session and endpoint
owning the transport it came in on; `none` when the gateway finds no transport
for its address, in which case `handle_rtp_message` fails before the tap. -/
structure RtpArrival where
  endpoint : Option SessionKey
  packet : RtpPacket
  deriving DecidableEq

/-- The audio tap of `GatewayHandler::handle_rtp_message`. -/
def tapAudio (arrival : RtpArrival) : Option AudioPacketInfo :=
  match arrival.endpoint with
  | none => none
  | some _ =>
      if isAudioPayloadType arrival.packet.payloadType then
        some
          { ssrc := arrival.packet.ssrc
            timestamp := arrival.packet.timestamp
            sequenceNumber := arrival.packet.sequenceNumber
            payloadType := arrival.packet.payloadType
            payload := arrival.packet.payload }
      else none

/-- The closure around `ssrc_map` in the drain loop: the session and endpoint
of an SSRC, learned from the default session when the SSRC is new.  The pair
`(0, 0)` stands for an unknown session. -/
def lookupSession (extractor : RtpAudioExtractor) (ssrc : UInt32) :
    SessionKey × RtpAudioExtractor :=
  match extractor.ssrcMap.get ssrc with
  | some ids => (ids, extractor)
  | none =>
      match extractor.defaultSession with
      | some default =>
          (default, { extractor with ssrcMap := extractor.ssrcMap.insert ssrc default })
      | none => ((0, 0), extractor)

/-- What is forwarded of an audio packet under a label. -/
def audioPacket (ids : SessionKey) (info : AudioPacketInfo) : AudioPacket where
  sessionId := ids.1
  endpointId := ids.2
  opusData := info.payload
  timestamp := info.timestamp
  ssrc := info.ssrc

/-- The body of the drain loop: the extractor it leaves and the command it
sends to the transcription worker, if any. -/
def forwardAudio (extractor : RtpAudioExtractor) (info : AudioPacketInfo) :
    RtpAudioExtractor × Option TranscriptionCommand :=
  let (ids, learned) := lookupSession extractor info.ssrc
  if ids.1 ≠ 0 then (learned, some (.audio (audioPacket ids info))) else (learned, none)

/-- Where in its loop the worker is. -/
inductive LoopPoint
  | signaling
  | draining
  | reading
  deriving DecidableEq

/-- State of a media worker. -/
structure MediaWorker (σ : Type) where
  serverStates : σ
  audioExtractor : RtpAudioExtractor
  /-- unread part of the `sfu_audio` channel from the gateway tap -/
  sfuAudio : List AudioPacketInfo
  /-- `transcription_tx.is_some()` -/
  transcribing : Bool
  point : LoopPoint

/-- What the environment contributes to a step of the loop. -/
inductive LoopInput
  /-- `rx.try_recv()`; a message comes with whether somebody still holds the
  receiving half of its response channel -/
  | poll (signal : Option (SignalingProtocolMessage × Bool))
  /-- `sfu_audio_rx.try_recv()` -/
  | drain
  /-- polling the clients and reading the socket -/
  | read (arrivals : List RtpArrival)
  deriving DecidableEq

/-- What a step of the loop sends to other threads. -/
inductive LoopOutput
  | sent (command : TranscriptionCommand)
  | replied (message : SignalingProtocolMessage)
  deriving DecidableEq

/-- The command in an output of the loop. -/
def LoopOutput.command : LoopOutput → Option TranscriptionCommand
  | .sent command => some command
  | .replied _ => none

/-- The commands among the outputs of a step. -/
def sentCommands (outputs : List LoopOutput) : List TranscriptionCommand :=
  outputs.filterMap LoopOutput.command

/-- The reply in an output of the loop. -/
def LoopOutput.reply : LoopOutput → Option SignalingProtocolMessage
  | .sent _ => none
  | .replied message => some message

/-- The reply among the outputs of a step. -/
def sentReply (outputs : List LoopOutput) : Option SignalingProtocolMessage :=
  outputs.findSome? LoopOutput.reply

namespace MediaWorker

variable {σ : Type}

/-- The worker as it enters its loop. -/
def new (serverStates : σ) (transcribing : Bool) : MediaWorker σ where
  serverStates := serverStates
  audioExtractor := RtpAudioExtractor.new
  sfuAudio := []
  transcribing := transcribing
  point := .signaling

/-- Handling one message at the `signaling` point. -/
def handle (acceptOffer : AcceptOffer σ) (worker : MediaWorker σ)
    (request : SignalingProtocolMessage) (listening : Bool) : MediaWorker σ × List LoopOutput :=
  let handled := handleSignalingMessageWithExtractor acceptOffer worker.serverStates request
    (some worker.audioExtractor)
  let next := { worker with
    serverStates := handled.serverStates
    audioExtractor := handled.audioExtractor.getD worker.audioExtractor }
  match handled.reply with
  | none => ({ next with point := .draining }, [])
  | some reply =>
      if listening then ({ next with point := .draining }, [.replied reply])
      -- the reply could not be sent: log the error and `continue`
      else ({ next with point := .signaling }, [])

/-- One step of the loop. -/
def step (acceptOffer : AcceptOffer σ) (worker : MediaWorker σ) :
    LoopInput → Option (MediaWorker σ × List LoopOutput)
  | .poll signal =>
      if worker.point = .signaling then
        match signal with
        | none => some ({ worker with point := .draining }, [])
        | some (request, listening) => some (worker.handle acceptOffer request listening)
      else none
  | .drain =>
      if worker.point = .draining then
        if worker.transcribing then
          match worker.sfuAudio with
          | [] => some ({ worker with point := .reading }, [])
          | info :: rest =>
              let (extractor, command) := forwardAudio worker.audioExtractor info
              some ({ worker with audioExtractor := extractor, sfuAudio := rest },
                command.toList.map .sent)
        else some ({ worker with point := .reading }, [])
      else none
  | .read arrivals =>
      if worker.point = .reading then
        -- without transcription the gateway is built without an audio callback
        let tapped := if worker.transcribing then arrivals.filterMap tapAudio else []
        some ({ worker with sfuAudio := worker.sfuAudio ++ tapped, point := .signaling }, [])
      else none

/-- The steps of the loop, one constructor for each way through its body. -/
inductive LoopStep (acceptOffer : AcceptOffer σ) (worker : MediaWorker σ) :
    LoopInput → MediaWorker σ → List LoopOutput → Prop
  | idle (hpoint : worker.point = .signaling) :
      LoopStep acceptOffer worker (.poll none) { worker with point := .draining } []
  | signal (hpoint : worker.point = .signaling) (request : SignalingProtocolMessage)
      (listening : Bool) :
      LoopStep acceptOffer worker (.poll (some (request, listening)))
        (worker.handle acceptOffer request listening).1
        (worker.handle acceptOffer request listening).2
  | forward (hpoint : worker.point = .draining) (htranscribing : worker.transcribing = true)
      (info : AudioPacketInfo) (rest : List AudioPacketInfo)
      (hqueue : worker.sfuAudio = info :: rest) :
      LoopStep acceptOffer worker .drain
        { worker with
          audioExtractor := (forwardAudio worker.audioExtractor info).1
          sfuAudio := rest }
        ((forwardAudio worker.audioExtractor info).2.toList.map .sent)
  | drained (hpoint : worker.point = .draining)
      (hempty : worker.transcribing = false ∨ worker.sfuAudio = []) :
      LoopStep acceptOffer worker .drain { worker with point := .reading } []
  | arrived (hpoint : worker.point = .reading) (arrivals : List RtpArrival) :
      LoopStep acceptOffer worker (.read arrivals)
        { worker with
          sfuAudio := worker.sfuAudio ++
            if worker.transcribing then arrivals.filterMap tapAudio else []
          point := .signaling }
        []

/-- Inversion: a step of the loop is one of the five. -/
theorem loopStep_of_step {acceptOffer : AcceptOffer σ} {worker next : MediaWorker σ}
    {input : LoopInput} {outputs : List LoopOutput}
    (hstep : worker.step acceptOffer input = some (next, outputs)) :
    LoopStep acceptOffer worker input next outputs := by
  cases input with
  | poll signal =>
      simp only [step] at hstep
      split at hstep
      · rename_i hpoint
        cases signal with
        | none =>
            obtain ⟨rfl, rfl⟩ := by simpa using hstep
            exact .idle hpoint
        | some signal =>
            obtain ⟨request, listening⟩ := signal
            have hhandle : worker.handle acceptOffer request listening = (next, outputs) :=
              Option.some.inj hstep
            have hcase : LoopStep acceptOffer worker (.poll (some (request, listening)))
                (worker.handle acceptOffer request listening).1
                (worker.handle acceptOffer request listening).2 :=
              .signal hpoint request listening
            rwa [hhandle] at hcase
      · contradiction
  | drain =>
      simp only [step] at hstep
      split at hstep
      · rename_i hpoint
        split at hstep
        · rename_i htranscribing
          split at hstep
          · rename_i hqueue
            obtain ⟨rfl, rfl⟩ := by simpa using hstep
            exact .drained hpoint (.inr hqueue)
          · rename_i info rest hqueue
            obtain ⟨rfl, rfl⟩ := by simpa using hstep
            exact .forward hpoint htranscribing info rest hqueue
        · rename_i htranscribing
          obtain ⟨rfl, rfl⟩ := by simpa using hstep
          exact .drained hpoint (.inl (by simpa using htranscribing))
      · contradiction
  | read arrivals =>
      simp only [step] at hstep
      split at hstep
      · rename_i hpoint
        obtain ⟨rfl, rfl⟩ := by simpa using hstep
        exact .arrived hpoint arrivals
      · contradiction

/-- The loop of `sync_run_with_transcription`. -/
def loop (acceptOffer : AcceptOffer σ) : Machine (MediaWorker σ) LoopInput LoopOutput where
  step := step acceptOffer

/-- An offer handler that answers every offer, for concrete runs. -/
def answerAll : AcceptOffer Unit := fun states _ _ _ => (states, .ok "answer")

end MediaWorker
end Signal
end MediaServer
