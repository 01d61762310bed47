import MediaServer.Sfu.Handlers

/-!
# The pipeline

`build_pipeline`: the handlers of one media port in a row.  The demuxer is outermost, the
gateway innermost (behind it there is only the handler that logs exceptions).  All handlers
share the server states, which are those of the gateway here.  Interceptors are a field of
their endpoint in the source; only one handler looks at them, so they are kept beside the
states, by endpoint (`Chains`).

The thread of a media port calls the pipeline with datagrams, with the time, and for output,
and accepts offers of the signaling thread between these calls.
-/

namespace MediaServer
namespace Sfu

open Foundation Transcription

/-- The interceptors of each endpoint. -/
abbrev Chains := SessionId × EndpointId → List Interceptor

/-- An endpoint that was not there before gets interceptors of its own. -/
def Chains.follow (clock : Instant) (before after : ServerStates) (chains : Chains) : Chains :=
  fun ids =>
    if (before.endpointAt ids).isNone && (after.endpointAt ids).isSome then
      buildInterceptors clock registeredInterceptors
    else chains ids

structure Pipeline where
  gateway : GatewayHandler
  chains : Chains
  localAddr : SocketAddr
  -- the queues `transmits` of the other handlers
  dtls : Fifo TaggedMessageEvent
  sctp : Fifo TaggedMessageEvent
  dataChannel : Fifo TaggedMessageEvent
  interceptor : Fifo TaggedMessageEvent

/-- What the libraries make of a datagram and of what is in it.  One datagram may lead to
many calls of the gateway; `moments` tells them apart by the positions of the messages that
lead there. -/
structure Reading where
  moments : List Nat → Moment
  /-- the events of a record, and what is to be sent after it -/
  dtls : Bytes → Except Error (List DtlsEvent × List (Transmit Bytes))
  /-- the events of the association, for each piece of application data -/
  sctp : Nat → Bytes → Except Error (List SctpEvent)
  decryptRtp : SrtpContext → Bytes → Except Error Rtp.Packet
  decryptRtcp : SrtpContext → Bytes → Except Error (List RtcpPacket)

/-- What the libraries make of a message that is sent. -/
structure Writing where
  encrypt : SrtpContext → RTPMessageEvent → Except Error Bytes
  sctp : SctpWrite → Option (Except Error (List (Transmit SctpPayload)))
  dtls : SocketAddr → Bytes → Except Error (List (Transmit Bytes))

/-- What the libraries want sent as time passes, and what interceptors meet then. -/
structure Timeout where
  now : Instant
  moment : Moment
  dtls : List (Transmit Bytes)
  sctp : List (Transmit SctpPayload)
  streams : Enumeration UInt32
  /-- jitter and delay of a stream -/
  floats : UInt32 → UInt32 × UInt32

namespace Pipeline

/-- A call of a handler, with the exceptions it fires. -/
abbrev Call := Pipeline → Pipeline × List Error

/-- Calls one after the other. -/
def inTurn : List Call → Call
  | [], pipeline => (pipeline, [])
  | call :: calls, pipeline =>
      let (pipeline, errors) := call pipeline
      let (pipeline, others) := inTurn calls pipeline
      (pipeline, errors ++ others)

def fireException (error : Error) : Call := fun pipeline => (pipeline, [error])

/-! ## Reading, from the inside -/

def readGateway (lib : Libraries) (moment : Moment) (msg : TaggedMessageEvent) : Call :=
  fun pipeline =>
    let (gateway, error) := pipeline.gateway.handleRead lib moment msg
    ({ pipeline with
        gateway
        chains := pipeline.chains.follow moment.clock pipeline.gateway.serverStates
          gateway.serverStates },
      error.toList)

/-- What the handler does with an event of a chain. -/
def onInterceptorEvent (lib : Libraries) (moment : Moment) : InterceptorEvent → Call
  | .inbound inbound => readGateway lib moment inbound
  | .outbound outbound => fun pipeline =>
      ({ pipeline with interceptor := pipeline.interceptor.push outbound }, [])
  | .error error => fireException error

/-- The interceptors of the endpoint read media. -/
def intercept (lib : Libraries) (moments : List Nat → Moment) (msg : TaggedMessageEvent) : Call :=
  fun pipeline =>
    match pipeline.gateway.serverStates.getMutEndpoint msg.transport.fourTuple with
    | .error error => (pipeline, [error])
    | .ok (ids, _) =>
        let (chain, events) := Interceptor.read msg (pipeline.chains ids)
        inTurn (events.zipIdx.map fun (event, i) => onInterceptorEvent lib (moments [i]) event)
          { pipeline with chains := Function.update pipeline.chains ids chain }

/-- RTCP ends here; what is to be forwarded of it comes from the interceptors. -/
def readInterceptor (lib : Libraries) (moments : List Nat → Moment) (msg : TaggedMessageEvent) :
    Call :=
  match msg.message with
  | .rtp (.rtcp _) => intercept lib moments msg
  | .rtp (.rtp _) => inTurn [intercept lib moments msg, readGateway lib (moments []) msg]
  | _ => readGateway lib (moments []) msg

section Inwards

variable (lib : Libraries) (codecs : Codecs) (reading : Reading)

def readSrtp (moments : List Nat → Moment) (msg : TaggedMessageEvent) : Call :=
  match msg.message with
  | .rtp (.raw message) => fun pipeline =>
      match SrtpHandler.tryRead codecs pipeline.gateway.serverStates reading.decryptRtp
          reading.decryptRtcp msg.transport.fourTuple message with
      | .ok event => readInterceptor lib moments { msg with message := .rtp event } pipeline
      | .error error => fireException error pipeline
  | _ => readInterceptor lib moments msg

/-- `self.transmits.push_back(..)` of an answer. -/
def queueAnswer (msg : TaggedMessageEvent) (outboundMessage : Option DataChannelMessage)
    (pipeline : Pipeline) : Pipeline :=
  match outboundMessage with
  | some message =>
      { pipeline with
        dataChannel := pipeline.dataChannel.push { msg with message := .dtls (.sctp message) } }
  | none => pipeline

/-- The answer to a data channel that opens is queued before the gateway hears of it. -/
def readDataChannel (moments : List Nat → Moment) (msg : TaggedMessageEvent) : Call :=
  match msg.message with
  | .dtls (.sctp message) => fun pipeline =>
      match DataChannelHandler.tryRead codecs message with
      | .ok (inboundMessage, outboundMessage) =>
          let pipeline := queueAnswer msg outboundMessage pipeline
          match inboundMessage with
          | some message =>
              readSrtp lib codecs reading moments
                { msg with message := .dtls (.dataChannel message) } pipeline
          | none => (pipeline, [])
      | .error error => fireException error pipeline
  | _ => readSrtp lib codecs reading moments msg

def onSctpMessage (moments : List Nat → Moment) (msg : TaggedMessageEvent) : SctpMessage → Call
  | .inbound message =>
      readDataChannel lib codecs reading moments { msg with message := .dtls (.sctp message) }
  | .outbound transmit => fun pipeline =>
      ({ pipeline with
          sctp := pipeline.sctp.pushAll
            (SctpHandler.transmitMessages pipeline.localAddr transmit) }, [])

/-- `k` counts the pieces of application data of a record. -/
def readSctp (k : Nat) (moments : List Nat → Moment) (msg : TaggedMessageEvent) : Call :=
  match msg.message with
  | .dtls (.raw dtlsMessage) => fun pipeline =>
      match SctpHandler.tryRead pipeline.gateway.serverStates msg.transport.fourTuple
          (reading.sctp k dtlsMessage) with
      | .ok messages =>
          inTurn (messages.zipIdx.map fun (message, j) =>
            onSctpMessage lib codecs reading (fun path => moments (j :: path)) msg message) pipeline
      | .error error => fireException error pipeline
  | _ => readDataChannel lib codecs reading moments msg

def readDtls (msg : TaggedMessageEvent) : Call :=
  match msg.message with
  | .dtls (.raw dtlsMessage) => fun pipeline =>
      let fourTuple := msg.transport.fourTuple
      let read := reading.dtls dtlsMessage
      let states := pipeline.gateway.serverStates
      let (next, answer) := DtlsHandler.handleRead fourTuple (read.map Prod.fst) states
      let pipeline := { pipeline with
        gateway := { pipeline.gateway with serverStates := next }
        dtls := pipeline.dtls.pushAll
          (DtlsHandler.queuedByRead pipeline.localAddr fourTuple states read) }
      match answer with
      | .ok messages =>
          inTurn (messages.zipIdx.map fun (message, k) =>
            readSctp lib codecs reading k (fun path => reading.moments (k :: path))
              { msg with message := .dtls (.raw message) }) pipeline
      | .error error => fireException error pipeline
  | _ => readSctp lib codecs reading 0 reading.moments msg

def readStun (msg : TaggedMessageEvent) : Call :=
  match StunHandler.handleRead codecs msg with
  | .ok msg => readDtls lib codecs reading msg
  | .error error => fireException error

/-- `pipeline.read(..)` -/
def read (datagram : TaggedBytesMut) : Call :=
  match DemuxerHandler.handleRead datagram with
  | some msg => readStun lib codecs reading msg
  | none => fun pipeline => (pipeline, [])

end Inwards

/-! ## Polling for output -/

section Outwards

variable (codecs : Codecs) (writing : Writing) (pipeline : Pipeline)

/-- What a handler makes of the message it gets, if it gets one. -/
def given (pulled : Option TaggedMessageEvent) (pollWrite : TaggedMessageEvent → Produced) :
    Produced :=
  match pulled with
  | some msg => pollWrite msg
  | none => .nothing

def states : ServerStates := pipeline.gateway.serverStates

def fromGateway : Option TaggedMessageEvent := pipeline.gateway.pollWrite.1

def toInterceptor : Produced :=
  given pipeline.fromGateway (InterceptorHandler.pollWrite pipeline.states)

def fromInterceptor : Option TaggedMessageEvent × Fifo TaggedMessageEvent :=
  pipeline.interceptor.relay pipeline.toInterceptor.1

def fromSrtp : Produced :=
  given pipeline.fromInterceptor.1 (SrtpHandler.pollWrite pipeline.states writing.encrypt)

def toDataChannel : Produced :=
  given (pipeline.fromSrtp writing).1.head? DataChannelHandler.pollWrite

def fromDataChannel : Option TaggedMessageEvent × Fifo TaggedMessageEvent :=
  pipeline.dataChannel.relay (pipeline.toDataChannel writing).1

def toSctp : Produced :=
  given (pipeline.fromDataChannel writing).1
    (SctpHandler.pollWrite pipeline.localAddr pipeline.states writing.sctp)

def fromSctp : Option TaggedMessageEvent × Fifo TaggedMessageEvent :=
  pipeline.sctp.relay (pipeline.toSctp writing).1

def toDtls : Produced :=
  given (pipeline.fromSctp writing).1
    (DtlsHandler.pollWrite pipeline.localAddr pipeline.states writing.dtls)

def fromDtls : Option TaggedMessageEvent × Fifo TaggedMessageEvent :=
  pipeline.dtls.relay (pipeline.toDtls writing).1

def fromStun : Option TaggedMessageEvent :=
  (pipeline.fromDtls writing).1.map (StunHandler.pollWrite codecs)

/-- `pipeline.poll_transmit()` -/
def pollTransmit : Option TaggedBytesMut × Pipeline × List Error :=
  ((pipeline.fromStun codecs writing).bind DemuxerHandler.pollWrite,
    { pipeline with
      gateway := pipeline.gateway.pollWrite.2
      interceptor := pipeline.fromInterceptor.2
      dataChannel := (pipeline.fromDataChannel writing).2
      sctp := (pipeline.fromSctp writing).2
      dtls := (pipeline.fromDtls writing).2 },
    pipeline.toInterceptor.2 ++ (pipeline.fromSrtp writing).2 ++
      (pipeline.toDataChannel writing).2 ++ (pipeline.toSctp writing).2 ++
      (pipeline.toDtls writing).2)

end Outwards

/-! ## Time -/

/-- The chains of some endpoints after a timeout, and their events. -/
def timeoutChains (timeout : Timeout) :
    List ((SessionId × EndpointId) × Endpoint) → Chains → Chains × List InterceptorEvent
  | [], chains => (chains, [])
  | (ids, endpoint) :: rest, chains =>
      let fourTuples := (endpoint.transports.iter timeout.moment.orders.transports).map Prod.fst
      let (chain, events) := Interceptor.handleTimeout timeout.streams timeout.floats timeout.now
        fourTuples (chains ids)
      let (chains, others) := timeoutChains timeout rest (Function.update chains ids chain)
      (chains, events ++ others)

/-- All endpoints, session by session. -/
def allEndpoints (orders : Orders) (states : ServerStates) :
    List ((SessionId × EndpointId) × Endpoint) :=
  (states.sessions.iter orders.sessions).flatMap fun (sessionId, session) =>
    (session.endpoints.iter orders.endpoints).map fun (endpointId, endpoint) =>
      ((sessionId, endpointId), endpoint)

/-- Reports are queued; nothing is passed inwards. -/
def onTimeoutEvent : InterceptorEvent → Call
  | .inbound _ => fun pipeline => (pipeline, [])
  | .outbound outbound => fun pipeline =>
      ({ pipeline with interceptor := pipeline.interceptor.push outbound }, [])
  | .error error => fireException error

/-- `pipeline.handle_timeout(..)` -/
def handleTimeout (timeout : Timeout) : Call := fun pipeline =>
  let (chains, events) := timeoutChains timeout
    (allEndpoints timeout.moment.orders pipeline.states) pipeline.chains
  let (pipeline, errors) := inTurn (events.map onTimeoutEvent)
    { pipeline with
      chains
      dtls := pipeline.dtls.pushAll
        (DtlsHandler.transmitMessages pipeline.localAddr timeout.dtls)
      sctp := pipeline.sctp.pushAll ((timeout.sctp.flatMap SctpHandler.splitTransmit).flatMap
        (SctpHandler.transmitMessages pipeline.localAddr)) }
  ({ pipeline with
      gateway := pipeline.gateway.handleTimeout timeout.moment.orders timeout.now }, errors)

end Pipeline

/-! ## The machine -/

/-- A call of the thread of a media port. -/
inductive PipelineEvent
  | offer (moment : Moment) (sessionId : SessionId) (endpointId : EndpointId)
      (offer : RTCSessionDescription)
  | read (reading : Reading) (datagram : TaggedBytesMut)
  | timeout (timeout : Timeout)
  | pollTransmit (writing : Writing)

inductive PipelineOutput
  | answered (answer : RTCSessionDescription)
  | exception (error : Error)
  | transmitted (datagram : TaggedBytesMut)

def pipelineStep (lib : Libraries) (codecs : Codecs) (pipeline : Pipeline) :
    PipelineEvent → Pipeline × List PipelineOutput
  | .offer moment sessionId endpointId offer =>
      match (ServerStates.acceptOffer lib moment.orders moment.clock moment.fresh
          (sessionId, endpointId) none offer).outcome pipeline.gateway.serverStates with
      | (answer, states) =>
          ({ pipeline with gateway := { pipeline.gateway with serverStates := states } },
            match answer with
            | .ok answer => [.answered answer]
            | .error error => [.exception error])
  | .read reading datagram =>
      let (pipeline, errors) := pipeline.read lib codecs reading datagram
      (pipeline, errors.map .exception)
  | .timeout timeout =>
      let (pipeline, errors) := pipeline.handleTimeout timeout
      (pipeline, errors.map .exception)
  | .pollTransmit writing =>
      let (transmitted, pipeline, errors) := pipeline.pollTransmit codecs writing
      (pipeline, errors.map .exception ++ transmitted.toList.map .transmitted)

/-- The pipeline of a media port: every call is taken in every state. -/
def pipelineMachine (lib : Libraries) (codecs : Codecs) :
    Machine Pipeline PipelineEvent PipelineOutput where
  step pipeline event := some (pipelineStep lib codecs pipeline event)

abbrev PipelineMove := Transition Pipeline PipelineEvent PipelineOutput

end Sfu
end MediaServer
