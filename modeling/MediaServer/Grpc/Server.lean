import MediaServer.Grpc.SignalingSvc
import MediaServer.Signal.AudioRouter

/-!
# The server as `main` wires it

Every thread is a component of one state: the media workers, each with its
bounded signaling channel; the transcription worker with the channel it shares
with everybody; and the gRPC calls in flight.  A step of the server is a step of
one of them, so its runs are the interleavings of all threads.

A blocking operation that cannot proceed is not enabled: a send on a full
signaling channel, a receive from an empty channel whose sender still exists.
-/

namespace MediaServer
namespace Grpc

open Foundation Signal Transcription

/-- What a server is deployed with. -/
structure Deployment (σ δ : Type) where
  acceptOffer : AcceptOffer σ
  codec : Codec δ
  /-- `ServerStates::new` of the worker of a port -/
  serverStates : UInt16 → σ
  ports : List UInt16
  /-- the ports are a range, so no port occurs twice -/
  ports_nodup : ports.Nodup
  /-- `cli.enable_transcription` -/
  enableTranscription : Bool
  config : TranscriptionConfig

/-- A signaling message with the response channel sent along: whose it is, and
whether the call kept the receiving half when it sent the message. -/
structure SignalingMessage where
  request : SignalingProtocolMessage
  call : Nat
  kept : Bool
  deriving DecidableEq

/-- A media worker with its channel, which holds at most one message. -/
structure MediaThread (σ : Type) where
  worker : MediaWorker σ
  rx : Fifo SignalingMessage
  /-- the worker is in its loop -/
  running : Bool

/-- A gRPC call in flight. -/
structure Call where
  request : Request
  point : CallPoint
  /-- what waits in its response channel -/
  inbox : Option SignalingProtocolMessage
  deriving DecidableEq

structure Server (σ δ : Type) where
  media : HashMap UInt16 (MediaThread σ)
  transcriber : Transcriber δ
  calls : List Call

/-- A step of a media worker's thread. -/
inductive MediaInput
  | poll
  | drain
  | read (arrivals : List RtpArrival)
  /-- the thread leaves its loop -/
  | stop
  deriving DecidableEq

/-- Who takes the next step, and what the environment contributes to it. -/
inductive ServerInput
  | arrive (request : Request)
  /-- a call takes its next action; `keys` is the order in which the map of the
  media workers lists its ports at this moment -/
  | advance (call : Nat) (keys : List UInt16) (env : Environment)
  | media (port : UInt16) (input : MediaInput)
  /-- the transcription worker takes a command -/
  | transcribe (env : Environment)

variable {σ δ : Type}

/-- A thread at the start of its loop. -/
def MediaThread.new (deployment : Deployment σ δ) (port : UInt16) : MediaThread σ where
  worker := MediaWorker.new (deployment.serverStates port) deployment.enableTranscription
  rx := Fifo.empty
  running := true

namespace Server

/-- The server as `main` leaves it. -/
def new (deployment : Deployment σ δ) : Server σ δ where
  media := deployment.ports.foldl
    (fun media port => media.insert port (MediaThread.new deployment port)) HashMap.empty
  transcriber :=
    { commands := Fifo.empty
      worker := TranscriptionWorker.new (TranscriptionManager.new deployment.config)
      running := deployment.enableTranscription }
  calls := []

/-- The call is at a new point. -/
def setPoint (server : Server σ δ) (id : Nat) (call : Call) (point : CallPoint) : Server σ δ :=
  { server with calls := server.calls.set id { call with point := point } }

/-- Whether the receiving half of a response channel still exists. -/
def listens (server : Server σ δ) (message : SignalingMessage) : Bool :=
  message.kept &&
    match server.calls[message.call]? with
    | none => false
    | some call =>
        match call.point with
        | .offerAwaiting _ | .leaveSent => true
        | _ => false

/-- A message sent with the response channel of the call is still to be handled. -/
def pending (server : Server σ δ) (id : Nat) (port : UInt16) : Bool :=
  match server.media.get port with
  | none => false
  | some thread =>
      thread.running && thread.rx.waiting.any fun message => message.call = id && message.kept

/-- The interpretation of an action. -/
def act (deployment : Deployment σ δ) (server : Server σ δ) (id : Nat) (call : Call)
    (env : Environment) : Action → Option (Server σ δ)
  | .proceed next => some (server.setPoint id call next)
  | .startSession sessionId endpointId config started failed =>
      match startTranscriptionSession deployment.codec (.main deployment.enableTranscription)
        server.transcriber sessionId endpointId config env with
      | (transcriber, .ok ()) =>
          some ({ server with transcriber := transcriber }.setPoint id call started)
      | (transcriber, .error reason) =>
          some ({ server with transcriber := transcriber }.setPoint id call (failed reason))
  | .stopSession sessionId endpointId next =>
      some ({ server with
        transcriber := stopTranscriptionSession (.main deployment.enableTranscription)
          server.transcriber sessionId endpointId }.setPoint id call next)
  | .message port request kept sent failed absent =>
      match server.media.get port with
      | none => some (server.setPoint id call absent)
      | some thread =>
          if thread.running then
            -- `sync_channel(1)`: the send waits until the buffer is free
            if thread.rx.waiting = [] then
              let rx := thread.rx.push ⟨request, id, kept⟩
              some ({ server with
                media := server.media.insert port { thread with rx := rx } }.setPoint id call sent)
            else none
          else some (server.setPoint id call failed)
  | .receive received failed =>
      match call.inbox with
      | some response =>
          some (server.setPoint id { call with inbox := none } (received response))
      | none =>
          match call.point with
          | .offerAwaiting port =>
              if server.pending id port then none else some (server.setPoint id call failed)
          | _ => none

/-- A call takes its next action. -/
def advance (deployment : Deployment σ δ) (server : Server σ δ) (id : Nat) (keys : List UInt16)
    (env : Environment) : Option (Server σ δ) :=
  match server.calls[id]? with
  | none => none
  | some call =>
      if keys.Perm deployment.ports then
        match SignalingSvc.action (.main deployment.enableTranscription) keys call.request
          call.point with
        | none => none
        | some action => server.act deployment id call env action
      else none

/-- The transcription channel after a media worker sent commands on it. -/
def sendCommands (server : Server σ δ) (commands : List TranscriptionCommand) : Server σ δ :=
  if server.transcriber.running then
    { server with
      transcriber :=
        { server.transcriber with commands := server.transcriber.commands.pushAll commands } }
  else server

/-- A reply reaches the response channel of a call, which holds at most one. -/
def deliver (server : Server σ δ) (id : Nat) (reply : SignalingProtocolMessage) :
    Option (Server σ δ) :=
  match server.calls[id]? with
  | none => some server
  | some call =>
      match call.inbox with
      | some _ => none
      | none => some { server with calls := server.calls.set id { call with inbox := some reply } }

/-- The loop of a media worker takes a step. -/
def loopStep (deployment : Deployment σ δ) (server : Server σ δ) (port : UInt16)
    (thread : MediaThread σ) (input : LoopInput) : Option (Server σ δ × List LoopOutput) :=
  match thread.worker.step deployment.acceptOffer input with
  | none => none
  | some (worker, outputs) =>
      some ({ server with
        media := server.media.insert port { thread with worker := worker } }.sendCommands
          (sentCommands outputs), outputs)

/-- A media worker's thread takes a step. -/
def mediaStep (deployment : Deployment σ δ) (server : Server σ δ) (port : UInt16)
    (input : MediaInput) : Option (Server σ δ) :=
  match server.media.get port with
  | none => none
  | some thread =>
      if thread.running then
        match input with
        | .poll =>
            match thread.rx.pop with
            | none => (server.loopStep deployment port thread (.poll none)).map Prod.fst
            | some (message, rx) =>
                match server.loopStep deployment port { thread with rx := rx }
                  (.poll (some (message.request, server.listens message))) with
                | none => none
                | some (next, outputs) =>
                    match sentReply outputs with
                    | none => some next
                    | some reply => next.deliver message.call reply
        | .drain => (server.loopStep deployment port thread .drain).map Prod.fst
        | .read arrivals =>
            (server.loopStep deployment port thread (.read arrivals)).map Prod.fst
        | .stop =>
            some { server with media := server.media.insert port { thread with running := false } }
      else none

/-- The transcription worker takes a command. -/
def transcribe (deployment : Deployment σ δ) (server : Server σ δ) (env : Environment) :
    Option (Server σ δ × List SendAudio) :=
  if server.transcriber.running then
    match server.transcriber.commands.pop with
    | none => none
    | some (command, commands) =>
        let processed := server.transcriber.worker.processCommand deployment.codec command env
        some ({ server with
          transcriber :=
            { commands := commands
              worker := processed.worker
              running := processed.running } }, processed.sent)
  else none

/-- One step of the server. -/
def step (deployment : Deployment σ δ) (server : Server σ δ) :
    ServerInput → Option (Server σ δ × List SendAudio)
  | .arrive request =>
      some ({ server with calls := server.calls ++ [⟨request, .entered, none⟩] }, [])
  | .advance id keys env => (server.advance deployment id keys env).map fun next => (next, [])
  | .media port input => (server.mediaStep deployment port input).map fun next => (next, [])
  | .transcribe env => server.transcribe deployment env

/-- The server under every interleaving of its threads. -/
def machine (deployment : Deployment σ δ) : Machine (Server σ δ) ServerInput SendAudio where
  step := step deployment

end Server

/-- One worker, transcription enabled and every offer answered, for concrete
runs. -/
def Deployment.single : Deployment Unit Unit where
  acceptOffer := MediaWorker.answerAll
  codec := .silent
  serverStates := fun _ => ()
  ports := [3478]
  ports_nodup := List.nodup_singleton 3478
  enableTranscription := true
  config := .new "10.0.0.1:43007"

end Grpc
end MediaServer
