import MediaServer.Sfu.Pipeline

/-!
# What the pipeline makes of datagrams

A datagram reaches the gateway as some calls of it, in which nothing is left of the libraries
around it (`Brings`).  What a call of the pipeline other than a poll can do is said once, in
`Grows`: the gateway takes steps of the machine `sfu`, the queues of the other handlers get
messages of one kind each, and the interceptors stay silent.  So the queue of the interceptor
handler gets nothing: no report is ever sent.
-/

namespace MediaServer
namespace Sfu

open Foundation Transcription

/-! ## Kinds of messages -/

namespace TaggedMessageEvent

/-- A DTLS record, or a record to be. -/
def IsRecord (msg : TaggedMessageEvent) : Prop := ∃ record, msg.message = .dtls (.raw record)

/-- A message of a data channel, for SCTP. -/
def IsSctp (msg : TaggedMessageEvent) : Prop := ∃ message, msg.message = .dtls (.sctp message)

end TaggedMessageEvent

theorem isRecord_of_dtlsTransmit {localAddr : SocketAddr} {transmits : List (Transmit Bytes)}
    {msg : TaggedMessageEvent} (hmem : msg ∈ DtlsHandler.transmitMessages localAddr transmits) :
    msg.IsRecord := by
  obtain ⟨transmit, -, rfl⟩ := List.mem_map.mp hmem
  exact ⟨transmit.payload, rfl⟩

theorem isRecord_of_sctpTransmit {localAddr : SocketAddr} {transmit : Transmit SctpPayload}
    {msg : TaggedMessageEvent} (hmem : msg ∈ SctpHandler.transmitMessages localAddr transmit) :
    msg.IsRecord := by
  unfold SctpHandler.transmitMessages at hmem
  split at hmem
  · obtain ⟨raw, -, rfl⟩ := List.mem_map.mp hmem
    exact ⟨raw, rfl⟩
  · simp at hmem

/-! ## Growth -/

namespace Pipeline

/-- No interceptor has anything to say of its own. -/
def Quiet (pipeline : Pipeline) : Prop := ∀ ids, Interceptor.Silent (pipeline.chains ids)

/-- A queue got some messages of a kind. -/
def Got (Kind : TaggedMessageEvent → Prop) (before after : Fifo TaggedMessageEvent) : Prop :=
  ∃ queued, after = before.pushAll queued ∧ ∀ msg ∈ queued, Kind msg

theorem got_nothing (Kind : TaggedMessageEvent → Prop) (queue : Fifo TaggedMessageEvent) :
    Got Kind queue queue :=
  ⟨[], by simp [Fifo.pushAll], by simp⟩

theorem got_pushAll {Kind : TaggedMessageEvent → Prop} {queued : List TaggedMessageEvent}
    (queue : Fifo TaggedMessageEvent) (hkind : ∀ msg ∈ queued, Kind msg) :
    Got Kind queue (queue.pushAll queued) :=
  ⟨queued, rfl, hkind⟩

theorem Got.trans {Kind : TaggedMessageEvent → Prop}
    {before middle after : Fifo TaggedMessageEvent} (hfirst : Got Kind before middle)
    (hsecond : Got Kind middle after) : Got Kind before after := by
  obtain ⟨first, rfl, hfirst⟩ := hfirst
  obtain ⟨second, rfl, hsecond⟩ := hsecond
  refine ⟨first ++ second, by simp [Fifo.pushAll], ?_⟩
  intro msg hmem
  rcases List.mem_append.mp hmem with hmem | hmem
  · exact hfirst msg hmem
  · exact hsecond msg hmem

/-- What a quiet pipeline does while it reads.  The calls of its gateway satisfy `P`. -/
structure Grows (lib : Libraries) (P : Moment × SfuEvent → Prop) (before after : Pipeline) :
    Prop where
  quiet : after.Quiet
  localAddr : after.localAddr = before.localAddr
  interceptor : after.interceptor = before.interceptor
  dataChannel : Got TaggedMessageEvent.IsSctp before.dataChannel after.dataChannel
  sctp : Got TaggedMessageEvent.IsRecord before.sctp after.sctp
  dtls : Got TaggedMessageEvent.IsRecord before.dtls after.dtls
  gateway : ∃ moves, (sfu lib).Run before.gateway moves after.gateway ∧
    ∀ move ∈ moves, P move.input

/-- A call that only lets a quiet pipeline grow. -/
def Serves (lib : Libraries) (P : Moment × SfuEvent → Prop) (call : Call) (pipeline : Pipeline) :
    Prop :=
  pipeline.Quiet → Grows lib P pipeline (call pipeline).1

section Growth

variable {lib : Libraries} {P Q : Moment × SfuEvent → Prop} {before middle after : Pipeline}

theorem Grows.trans (hfirst : Grows lib P before middle) (hsecond : Grows lib P middle after) :
    Grows lib P before after where
  quiet := hsecond.quiet
  localAddr := hsecond.localAddr.trans hfirst.localAddr
  interceptor := hsecond.interceptor.trans hfirst.interceptor
  dataChannel := hfirst.dataChannel.trans hsecond.dataChannel
  sctp := hfirst.sctp.trans hsecond.sctp
  dtls := hfirst.dtls.trans hsecond.dtls
  gateway := by
    obtain ⟨first, hrun, hfirst⟩ := hfirst.gateway
    obtain ⟨second, hlater, hsecond⟩ := hsecond.gateway
    refine ⟨first ++ second, hrun.append hlater, ?_⟩
    intro move hmem
    rcases List.mem_append.mp hmem with hmem | hmem
    · exact hfirst move hmem
    · exact hsecond move hmem

theorem Grows.mono (hgrows : Grows lib P before after) (hPQ : ∀ input, P input → Q input) :
    Grows lib Q before after where
  quiet := hgrows.quiet
  localAddr := hgrows.localAddr
  interceptor := hgrows.interceptor
  dataChannel := hgrows.dataChannel
  sctp := hgrows.sctp
  dtls := hgrows.dtls
  gateway := by
    obtain ⟨moves, hrun, hmoves⟩ := hgrows.gateway
    exact ⟨moves, hrun, fun move hmem => hPQ _ (hmoves move hmem)⟩

/-- Growth of the queues alone, and perhaps of the chains. -/
theorem grows_of_queued (hquiet : after.Quiet) (hgateway : after.gateway = before.gateway)
    (hlocalAddr : after.localAddr = before.localAddr)
    (hinterceptor : after.interceptor = before.interceptor)
    (hdataChannel : Got TaggedMessageEvent.IsSctp before.dataChannel after.dataChannel)
    (hsctp : Got TaggedMessageEvent.IsRecord before.sctp after.sctp)
    (hdtls : Got TaggedMessageEvent.IsRecord before.dtls after.dtls) :
    Grows lib P before after where
  quiet := hquiet
  localAddr := hlocalAddr
  interceptor := hinterceptor
  dataChannel := hdataChannel
  sctp := hsctp
  dtls := hdtls
  gateway := ⟨[], by rw [hgateway]; exact .nil _, by simp⟩

theorem grows_refl (hquiet : before.Quiet) : Grows lib P before before :=
  grows_of_queued hquiet rfl rfl rfl (got_nothing _ _) (got_nothing _ _) (got_nothing _ _)

/-- Calls that each only let a quiet pipeline grow do so one after the other. -/
theorem serves_inTurn {calls : List Call}
    (hcalls : ∀ call ∈ calls, ∀ pipeline, Serves lib P call pipeline) (pipeline : Pipeline) :
    Serves lib P (inTurn calls) pipeline := by
  induction calls generalizing pipeline with
  | nil => exact grows_refl
  | cons call calls ih =>
      intro hquiet
      have hfirst := hcalls call List.mem_cons_self pipeline hquiet
      have hrest := ih (fun call hmem => hcalls call (List.mem_cons_of_mem _ hmem))
        (call pipeline).1 hfirst.quiet
      exact hfirst.trans hrest

end Growth

/-! ## The gateway and the interceptors -/

section Inside

variable {lib : Libraries} {moment : Moment} {moments : List Nat → Moment}
  {msg : TaggedMessageEvent}

theorem silent_follow {chains : Chains} (hsilent : ∀ ids, Interceptor.Silent (chains ids))
    (clock : Instant) (before after : ServerStates) (ids : SessionId × EndpointId) :
    Interceptor.Silent (chains.follow clock before after ids) := by
  unfold Chains.follow
  split
  · exact Interceptor.silent_build clock
  · exact hsilent ids

/-- A call of the gateway is a step of the SFU. -/
theorem grows_readGateway (pipeline : Pipeline) :
    Serves lib (fun input => input = (moment, .read msg)) (readGateway lib moment msg)
      pipeline := by
  intro hquiet
  have hfires : (sfu lib).Fires ⟨pipeline.gateway, (moment, .read msg),
      (pipeline.gateway.handleRead lib moment msg).1,
      (sfuStep lib pipeline.gateway (moment, .read msg)).2⟩ := by
    rw [fires_iff]
    simp only [sfuStep]
    cases pipeline.gateway.handleRead lib moment msg with
    | mk gateway error => cases error <;> rfl
  exact {
    quiet := silent_follow hquiet _ _ _
    localAddr := rfl
    interceptor := rfl
    dataChannel := got_nothing _ _
    sctp := got_nothing _ _
    dtls := got_nothing _ _
    gateway := ⟨_, .single hfires, by simp⟩ }

/-- What reaches the gateway of a message that the interceptors see. -/
def passed (msg : TaggedMessageEvent) : List TaggedMessageEvent :=
  match msg.message with
  | .rtp (.rtcp _) => Interceptor.relayed msg
  | _ => [msg]

/-- Calls of the gateway with a message out of a list. -/
def ReadsOneOf (messages : List TaggedMessageEvent) (input : Moment × SfuEvent) : Prop :=
  ∃ moment, ∃ msg ∈ messages, input = (moment, .read msg)

theorem grows_intercept (pipeline : Pipeline) :
    Serves lib (ReadsOneOf (Interceptor.relayed msg)) (intercept lib moments msg) pipeline := by
  intro hquiet
  unfold intercept
  split
  · exact grows_refl hquiet
  · rename_i ids endpoint hendpoint
    obtain ⟨hevents, hsilent⟩ := (hquiet ids).read msg
    have hupdated : Quiet { pipeline with
        chains := Function.update pipeline.chains ids
          (Interceptor.read msg (pipeline.chains ids)).1 } := by
      intro other
      by_cases hother : other = ids
      · subst hother
        simpa using hsilent
      · simpa [hother] using hquiet other
    have hchains : Grows lib (ReadsOneOf (Interceptor.relayed msg)) pipeline { pipeline with
        chains := Function.update pipeline.chains ids
          (Interceptor.read msg (pipeline.chains ids)).1 } :=
      grows_of_queued hupdated rfl rfl rfl (got_nothing _ _) (got_nothing _ _) (got_nothing _ _)
    refine hchains.trans (serves_inTurn ?_ _ hupdated)
    intro call hcall next
    obtain ⟨⟨event, i⟩, hevent, rfl⟩ := List.mem_map.mp hcall
    have hmem : event ∈ (Interceptor.read msg (pipeline.chains ids)).2 :=
      (List.mem_zipIdx' hevent).2 ▸ List.getElem_mem _
    rw [hevents] at hmem
    obtain ⟨inbound, hinbound, rfl⟩ := List.mem_map.mp hmem
    intro hnext
    refine (grows_readGateway next hnext).mono ?_
    rintro input rfl
    exact ⟨_, inbound, hinbound, rfl⟩

theorem grows_readInterceptor (pipeline : Pipeline) :
    Serves lib (ReadsOneOf (passed msg)) (readInterceptor lib moments msg) pipeline := by
  have hgateway : ∀ next : Pipeline, next.Quiet → ∀ messages, msg ∈ messages →
      Grows lib (ReadsOneOf messages) next (readGateway lib (moments []) msg next).1 := by
    intro next hnext messages hmem
    refine (grows_readGateway next hnext).mono ?_
    rintro input rfl
    exact ⟨_, msg, hmem, rfl⟩
  have honly : Serves lib (ReadsOneOf [msg]) (readGateway lib (moments []) msg) pipeline :=
    fun hquiet => hgateway pipeline hquiet [msg] (List.mem_singleton_self msg)
  cases hmsg : msg.message with
  | rtp event =>
      cases event with
      | rtcp packets =>
          simp only [readInterceptor, passed, hmsg]
          exact grows_intercept pipeline
      | rtp packet =>
          simp only [readInterceptor, passed, hmsg]
          refine serves_inTurn ?_ pipeline
          intro call hcall next hnext
          rcases List.mem_pair.mp hcall with rfl | rfl
          -- the interceptors only note an RTP packet
          · refine (grows_intercept next hnext).mono ?_
            rintro input ⟨moment, relayed, hmem, -⟩
            simp [Interceptor.relayed, hmsg] at hmem
          · exact hgateway next hnext [msg] (List.mem_singleton_self msg)
      | raw bytes => simpa only [readInterceptor, passed, hmsg] using honly
  | stun event => simpa only [readInterceptor, passed, hmsg] using honly
  | dtls event => simpa only [readInterceptor, passed, hmsg] using honly

end Inside

/-! ## Media, data channels and records -/

section Inwards

variable {lib : Libraries} {codecs : Codecs} {reading : Reading}
  {moments : List Nat → Moment} {msg : TaggedMessageEvent}

/-- What the handler for SRTP makes of a message. -/
def decrypted (codecs : Codecs) (reading : Reading) (states : ServerStates)
    (msg : TaggedMessageEvent) : Except Error TaggedMessageEvent :=
  match msg.message with
  | .rtp (.raw message) =>
      (SrtpHandler.tryRead codecs states reading.decryptRtp reading.decryptRtcp
        msg.transport.fourTuple message).map fun event => { msg with message := .rtp event }
  | _ => .ok msg

/-- Calls of the gateway with what SRTP makes of a message. -/
def ReadsDecrypted (codecs : Codecs) (reading : Reading) (states : ServerStates)
    (msg : TaggedMessageEvent) (input : Moment × SfuEvent) : Prop :=
  ∃ plain, decrypted codecs reading states msg = .ok plain ∧ ReadsOneOf (passed plain) input

/-- Calls of the gateway with something that happened to a data channel. -/
def ReadsApplication (now : Instant) (transport : TransportContext)
    (input : Moment × SfuEvent) : Prop :=
  ∃ moment message, input = (moment, .read ⟨now, transport, .dtls (.dataChannel message)⟩)

theorem grows_readSrtp (pipeline : Pipeline) :
    Serves lib (ReadsDecrypted codecs reading pipeline.states msg)
      (readSrtp lib codecs reading moments msg) pipeline := by
  intro hquiet
  have hplain : decrypted codecs reading pipeline.states msg = .ok msg →
      Grows lib (ReadsDecrypted codecs reading pipeline.states msg) pipeline
        (readInterceptor lib moments msg pipeline).1 := by
    intro hdecrypted
    exact (grows_readInterceptor pipeline hquiet).mono fun _ hinput => ⟨msg, hdecrypted, hinput⟩
  cases hmsg : msg.message with
  | rtp event =>
      cases event with
      | raw message =>
          simp only [readSrtp, hmsg]
          split
          · rename_i event hread
            refine (grows_readInterceptor pipeline hquiet).mono ?_
            intro input hinput
            refine ⟨_, ?_, hinput⟩
            simp only [decrypted, hmsg, states, hread]
            rfl
          · exact grows_refl hquiet
      | rtp packet => simpa only [readSrtp, hmsg] using hplain (by simp only [decrypted, hmsg])
      | rtcp packets => simpa only [readSrtp, hmsg] using hplain (by simp only [decrypted, hmsg])
  | stun event => simpa only [readSrtp, hmsg] using hplain (by simp only [decrypted, hmsg])
  | dtls event => simpa only [readSrtp, hmsg] using hplain (by simp only [decrypted, hmsg])

/-- What SRTP has no part in. -/
theorem serves_readSrtp_application (message : ApplicationMessage) (pipeline : Pipeline) :
    Serves lib (ReadsApplication msg.now msg.transport)
      (readSrtp lib codecs reading moments
        { msg with message := .dtls (.dataChannel message) }) pipeline := by
  intro hquiet
  refine (grows_readSrtp pipeline hquiet).mono ?_
  rintro input ⟨plain, hplain, moment, inner, hinner, rfl⟩
  obtain rfl := Except.ok.inj hplain
  obtain rfl := List.mem_singleton.mp hinner
  exact ⟨moment, message, rfl⟩

theorem grows_queueAnswer {P : Moment × SfuEvent → Prop}
    (outboundMessage : Option DataChannelMessage) {pipeline : Pipeline}
    (hquiet : pipeline.Quiet) :
    Grows lib P pipeline (queueAnswer msg outboundMessage pipeline) := by
  cases outboundMessage with
  | none => exact grows_refl hquiet
  | some answer =>
      refine grows_of_queued hquiet rfl rfl rfl ?_ (got_nothing _ _) (got_nothing _ _)
      refine ⟨[{ msg with message := .dtls (.sctp answer) }], rfl, ?_⟩
      intro queued hqueued
      obtain rfl := List.mem_singleton.mp hqueued
      exact ⟨answer, rfl⟩

theorem serves_readDataChannel_sctp (message : DataChannelMessage) (pipeline : Pipeline) :
    Serves lib (ReadsApplication msg.now msg.transport)
      (readDataChannel lib codecs reading moments { msg with message := .dtls (.sctp message) })
      pipeline := by
  intro hquiet
  simp only [readDataChannel]
  split
  · rename_i inboundMessage outboundMessage hread
    have hanswered : Grows lib (ReadsApplication msg.now msg.transport) pipeline
        (queueAnswer { msg with message := .dtls (.sctp message) } outboundMessage pipeline) :=
      grows_queueAnswer outboundMessage hquiet
    cases inboundMessage with
    | none => exact hanswered
    | some inbound =>
        exact hanswered.trans (serves_readSrtp_application inbound _ hanswered.quiet)
  · exact grows_refl hquiet

theorem serves_onSctpMessage (message : SctpMessage) (pipeline : Pipeline) :
    Serves lib (ReadsApplication msg.now msg.transport)
      (onSctpMessage lib codecs reading moments msg message) pipeline := by
  cases message with
  | inbound message => exact serves_readDataChannel_sctp message pipeline
  | outbound transmit =>
      intro hquiet
      exact grows_of_queued hquiet rfl rfl rfl (got_nothing _ _)
        (got_pushAll pipeline.sctp fun _ => isRecord_of_sctpTransmit) (got_nothing _ _)

theorem serves_readSctp_record (k : Nat) (record : Bytes) (pipeline : Pipeline) :
    Serves lib (ReadsApplication msg.now msg.transport)
      (readSctp lib codecs reading k moments { msg with message := .dtls (.raw record) })
      pipeline := by
  intro hquiet
  simp only [readSctp]
  split
  · refine serves_inTurn ?_ pipeline hquiet
    intro call hcall next
    obtain ⟨⟨message, j⟩, -, rfl⟩ := List.mem_map.mp hcall
    exact serves_onSctpMessage message next
  · exact grows_refl hquiet

/-- What a record may bring to the gateway. -/
def ReadsRecord (reading : Reading) (record : Bytes) (now : Instant)
    (transport : TransportContext) (input : Moment × SfuEvent) : Prop :=
  (∃ moment, input = (moment, .dtls transport ((reading.dtls record).map Prod.fst))) ∨
    ReadsApplication now transport input

theorem serves_readDtls_record (record : Bytes) (hmsg : msg.message = .dtls (.raw record))
    (pipeline : Pipeline) :
    Serves lib (ReadsRecord reading record msg.now msg.transport)
      (readDtls lib codecs reading msg) pipeline := by
  intro hquiet
  let handled := DtlsHandler.handleRead msg.transport.fourTuple
    ((reading.dtls record).map Prod.fst) pipeline.gateway.serverStates
  let queued := DtlsHandler.queuedByRead pipeline.localAddr msg.transport.fourTuple
    pipeline.gateway.serverStates (reading.dtls record)
  have hqueued : ∀ other ∈ queued, other.IsRecord := by
    intro other hother
    simp only [queued, DtlsHandler.queuedByRead] at hother
    split at hother
    · split at hother
      · exact isRecord_of_dtlsTransmit hother
      · simp at hother
    · simp at hother
  have hfires : (sfu lib).Fires ⟨pipeline.gateway,
      (reading.moments [], .dtls msg.transport ((reading.dtls record).map Prod.fst)),
      { pipeline.gateway with serverStates := handled.1 },
      (sfuStep lib pipeline.gateway
        (reading.moments [], .dtls msg.transport ((reading.dtls record).map Prod.fst))).2⟩ := by
    rw [fires_iff]
    simp only [sfuStep, handled]
    split
    · rename_i hread
      simp only [hread]
    · rename_i hread
      simp only [hread]
  have hread : Grows lib (ReadsRecord reading record msg.now msg.transport) pipeline
      { pipeline with
        gateway := { pipeline.gateway with serverStates := handled.1 }
        dtls := pipeline.dtls.pushAll queued } :=
    { quiet := hquiet
      localAddr := rfl
      interceptor := rfl
      dataChannel := got_nothing _ _
      sctp := got_nothing _ _
      dtls := got_pushAll pipeline.dtls hqueued
      gateway := by
        refine ⟨_, .single hfires, ?_⟩
        intro move hmem
        obtain rfl := List.mem_singleton.mp hmem
        exact Or.inl ⟨_, rfl⟩ }
  simp only [readDtls, hmsg]
  split
  · -- the gateway has handled the record before its application data goes inwards
    refine hread.trans (serves_inTurn ?_ _ hquiet)
    intro call hcall next hnext
    obtain ⟨⟨message, k⟩, -, rfl⟩ := List.mem_map.mp hcall
    exact (serves_readSctp_record k message next hnext).mono fun _ hinput => Or.inr hinput
  · exact hread

/-! ## Datagrams -/

/-- What a datagram may bring to the gateway: a record and what happens to data channels
after it, a STUN message, or media that SRTP let through. -/
inductive Brings (codecs : Codecs) (reading : Reading) (states : ServerStates)
    (datagram : TaggedBytesMut) : Moment × SfuEvent → Prop
  | record (input : Moment × SfuEvent) (hdtls : DemuxerHandler.matchDtls datagram.message = true)
      (hinput : ReadsRecord reading datagram.message datagram.now datagram.transport input) :
      Brings codecs reading states datagram input
  | stun (moment : Moment) (request : StunMessage)
      (hdecoded : codecs.decodeStun datagram.message = .ok request) :
      Brings codecs reading states datagram
        (moment, .read ⟨datagram.now, datagram.transport, .stun (.stun request)⟩)
  | media (moment : Moment) (event : RTPMessageEvent) (inner : TaggedMessageEvent)
      (hdecrypted : SrtpHandler.tryRead codecs states reading.decryptRtp reading.decryptRtcp
        datagram.transport.fourTuple datagram.message = .ok event)
      (hpassed : inner ∈ passed ⟨datagram.now, datagram.transport, .rtp event⟩) :
      Brings codecs reading states datagram (moment, .read inner)

/-- What comes of a datagram that is not a record. -/
theorem readDtls_of_no_record (hmsg : ∀ event, msg.message ≠ .dtls event) :
    readDtls lib codecs reading msg = readSrtp lib codecs reading reading.moments msg := by
  cases hmessage : msg.message with
  | dtls event => exact absurd hmessage (hmsg event)
  | stun event => simp only [readDtls, readSctp, readDataChannel, hmessage]
  | rtp event => simp only [readDtls, readSctp, readDataChannel, hmessage]

/-- Reading a datagram only lets a quiet pipeline grow, with what the datagram brings. -/
theorem serves_read (datagram : TaggedBytesMut) (pipeline : Pipeline) :
    Serves lib (Brings codecs reading pipeline.states datagram)
      (read lib codecs reading datagram) pipeline := by
  intro hquiet
  unfold read
  cases hmsg : DemuxerHandler.handleRead datagram with
  | none => exact grows_refl hquiet
  | some msg =>
      unfold DemuxerHandler.handleRead at hmsg
      split at hmsg
      · contradiction
      split at hmsg
      · -- the first byte decides, as in the demuxer
        rename_i hdtls
        obtain rfl := Option.some.inj hmsg
        exact (serves_readDtls_record datagram.message rfl pipeline hquiet).mono
          fun input hinput => .record input hdtls hinput
      split at hmsg
      · obtain rfl := Option.some.inj hmsg
        simp only [readStun, StunHandler.handleRead]
        rw [readDtls_of_no_record (by simp)]
        refine (grows_readSrtp pipeline hquiet).mono ?_
        rintro input ⟨plain, hplain, moment, inner, hinner, rfl⟩
        simp only [decrypted] at hplain
        cases hread : SrtpHandler.tryRead codecs pipeline.states reading.decryptRtp
            reading.decryptRtcp datagram.transport.fourTuple datagram.message with
        | error error =>
            rw [hread] at hplain
            contradiction
        | ok event =>
            rw [hread] at hplain
            obtain rfl := Except.ok.inj hplain
            exact .media moment event inner hread hinner
      · obtain rfl := Option.some.inj hmsg
        simp only [readStun, StunHandler.handleRead]
        cases hdecoded : codecs.decodeStun datagram.message with
        | error text => exact grows_refl hquiet
        | ok request =>
            dsimp only
            rw [readDtls_of_no_record (by simp)]
            refine (grows_readSrtp pipeline hquiet).mono ?_
            rintro input ⟨plain, hplain, moment, inner, hinner, rfl⟩
            obtain rfl := Except.ok.inj hplain
            obtain rfl := List.mem_singleton.mp hinner
            exact .stun moment request hdecoded

end Inwards

/-! ## Time -/

section Timeout

variable {lib : Libraries} (timeout : Timeout)

/-- Silent chains have nothing to say when time passes. -/
theorem silent_timeoutChains (entries : List ((SessionId × EndpointId) × Endpoint))
    {chains : Chains} (hsilent : ∀ ids, Interceptor.Silent (chains ids)) :
    (timeoutChains timeout entries chains).2 = [] ∧
      ∀ ids, Interceptor.Silent ((timeoutChains timeout entries chains).1 ids) := by
  induction entries generalizing chains with
  | nil => exact ⟨rfl, hsilent⟩
  | cons entry rest ih =>
      obtain ⟨ids, endpoint⟩ := entry
      obtain ⟨hevents, hchain⟩ := (hsilent ids).handleTimeout timeout.streams timeout.floats
        timeout.now ((endpoint.transports.iter timeout.moment.orders.transports).map Prod.fst)
      have hupdated : ∀ other, Interceptor.Silent (Function.update chains ids
          (Interceptor.handleTimeout timeout.streams timeout.floats timeout.now
            ((endpoint.transports.iter timeout.moment.orders.transports).map Prod.fst)
            (chains ids)).1 other) := by
        intro other
        by_cases hother : other = ids
        · subst hother
          simpa using hchain
        · simpa [hother] using hsilent other
      obtain ⟨hothers, hlast⟩ := ih hupdated
      simp only [timeoutChains]
      exact ⟨by rw [hevents, hothers]; rfl, hlast⟩

theorem serves_handleTimeout (pipeline : Pipeline) :
    Serves lib (fun input => input = (timeout.moment, .timeout timeout.now))
      (handleTimeout timeout) pipeline := by
  intro hquiet
  obtain ⟨hevents, hsilent⟩ := silent_timeoutChains timeout
    (allEndpoints timeout.moment.orders pipeline.states) hquiet
  have hsplit : ∀ other ∈ (timeout.sctp.flatMap SctpHandler.splitTransmit).flatMap
      (SctpHandler.transmitMessages pipeline.localAddr), other.IsRecord := by
    intro other hother
    obtain ⟨transmit, -, hother⟩ := List.mem_flatMap.mp hother
    exact isRecord_of_sctpTransmit hother
  have hfires : (sfu lib).Fires ⟨pipeline.gateway, (timeout.moment, .timeout timeout.now),
      pipeline.gateway.handleTimeout timeout.moment.orders timeout.now, []⟩ := fires_iff.mpr rfl
  simp only [handleTimeout, hevents, List.map_nil, inTurn]
  exact {
    quiet := hsilent
    localAddr := rfl
    interceptor := rfl
    dataChannel := got_nothing _ _
    sctp := got_pushAll pipeline.sctp hsplit
    dtls := got_pushAll pipeline.dtls fun _ => isRecord_of_dtlsTransmit
    gateway := ⟨_, .single hfires, by simp⟩ }

end Timeout

end Pipeline

end Sfu
end MediaServer
