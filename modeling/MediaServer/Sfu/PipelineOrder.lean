import MediaServer.Sfu.PipelineRuns

/-!
# In what order the pipeline sends

What the gateway queues goes out through the queues of four handlers.  Each of them is polled
once for every poll of the pipeline, so nothing overtakes anything.  Messages that are not for
DTLS pass the last two handlers as they are, and STUN passes all of them (`InOrder`).

Media is encrypted on the way, with the context that the transport of its receiver has at that
moment: a packet that cannot be encrypted is lost, and the others keep their order
(`sealed_of_run`).
-/

namespace MediaServer
namespace Sfu

open Foundation Transcription

/-! ## What the handlers pass on -/

namespace TaggedMessageEvent

def isStun (msg : TaggedMessageEvent) : Bool :=
  match msg.message with
  | .stun _ => true
  | _ => false

/-- A message that is not for DTLS. -/
def isPlain (msg : TaggedMessageEvent) : Bool :=
  match msg.message with
  | .dtls _ => false
  | _ => true

theorem isPlain_of_isStun {msg : TaggedMessageEvent} (hstun : msg.isStun = true) :
    msg.isPlain = true := by
  obtain ⟨now, transport, message⟩ := msg
  cases message <;> simp_all [isStun, isPlain]

theorem isPlain_of_isRtp {msg : TaggedMessageEvent} (hrtp : msg.isRtp = true) :
    msg.isPlain = true := by
  obtain ⟨event, hmessage⟩ := isRtp_iff.mp hrtp
  simp [isPlain, hmessage]

theorem isPlain_of_isRecord {msg : TaggedMessageEvent} (hrecord : msg.IsRecord) :
    msg.isPlain = false := by
  obtain ⟨record, hmessage⟩ := hrecord
  simp [isPlain, hmessage]

theorem isPlain_of_isSctp {msg : TaggedMessageEvent} (hsctp : msg.IsSctp) :
    msg.isPlain = false := by
  obtain ⟨message, hmessage⟩ := hsctp
  simp [isPlain, hmessage]

end TaggedMessageEvent

open TaggedMessageEvent

/-- Nothing is left of messages none of which is kept. -/
theorem filter_eq_nil_of_kind {keep : TaggedMessageEvent → Bool}
    {Kind : TaggedMessageEvent → Prop} {messages : List TaggedMessageEvent}
    (hkind : ∀ msg, Kind msg → keep msg = false) (hall : ∀ msg ∈ messages, Kind msg) :
    messages.filter keep = [] := by
  rw [List.filter_eq_nil_iff]
  intro msg hmem
  simp [hkind msg (hall msg hmem)]

theorem produced_interceptor (states : ServerStates) (msg : TaggedMessageEvent) :
    (InterceptorHandler.pollWrite states msg).1 = [msg] := by
  unfold InterceptorHandler.pollWrite
  split
  · rfl
  · split <;> rfl
  · rfl

/-- STUN passes, and only STUN becomes STUN. -/
theorem stun_srtp (states : ServerStates)
    (encrypt : SrtpContext → RTPMessageEvent → Except Error Bytes) (msg : TaggedMessageEvent) :
    (SrtpHandler.pollWrite states encrypt msg).1.filter isStun = [msg].filter isStun := by
  unfold SrtpHandler.pollWrite
  split
  · rename_i event hmessage
    cases SrtpHandler.tryWrite states encrypt msg.transport.fourTuple event with
    | error error =>
        simp [Produced.ofExcept, isStun, hmessage, bind, Except.bind]
    | ok encrypted =>
        simp [Produced.ofExcept, isStun, hmessage, bind, Except.bind, pure, Except.pure]
  · rfl

theorem plain_dataChannel (msg : TaggedMessageEvent) :
    (DataChannelHandler.pollWrite msg).1.filter isPlain = [msg].filter isPlain := by
  unfold DataChannelHandler.pollWrite
  split
  · rename_i message hmessage
    split <;> simp [isPlain, hmessage, Produced.nothing]
  · rfl

theorem plain_sctp (localAddr : SocketAddr) (states : ServerStates)
    (write : SctpWrite → Option (Except Error (List (Transmit SctpPayload))))
    (msg : TaggedMessageEvent) :
    (SctpHandler.pollWrite localAddr states write msg).1.filter isPlain =
      [msg].filter isPlain := by
  unfold SctpHandler.pollWrite
  split
  · rename_i message hmessage
    have hnone : [msg].filter isPlain = [] := by simp [isPlain, hmessage]
    rw [hnone]
    cases SctpHandler.tryWrite states write msg.transport.fourTuple message with
    | error error => rfl
    | ok transmits =>
        apply filter_eq_nil_of_kind fun _ => isPlain_of_isRecord
        intro other hother
        obtain ⟨transmit, -, hother⟩ := List.mem_flatMap.mp hother
        exact isRecord_of_sctpTransmit hother
  · rfl

theorem plain_dtls (localAddr : SocketAddr) (states : ServerStates)
    (write : SocketAddr → Bytes → Except Error (List (Transmit Bytes)))
    (msg : TaggedMessageEvent) :
    (DtlsHandler.pollWrite localAddr states write msg).1.filter isPlain =
      [msg].filter isPlain := by
  unfold DtlsHandler.pollWrite
  split
  · rename_i record hmessage
    have hnone : [msg].filter isPlain = [] := by simp [isPlain, hmessage]
    rw [hnone]
    cases states.getMutTransport msg.transport.fourTuple with
    | error error => rfl
    | ok found =>
        cases hwrite : write msg.transport.peerAddr record with
        | error error => simp [Produced.ofExcept, bind, Except.bind]
        | ok transmits =>
            apply filter_eq_nil_of_kind fun _ => isPlain_of_isRecord
            intro other hother
            simp only [Produced.ofExcept, bind, Except.bind, pure, Except.pure] at hother
            exact isRecord_of_dtlsTransmit hother
  · rfl

/-! ## Media on its way out -/

/-- A media message as the handler for SRTP writes it. -/
def SrtpHandler.Writes (states : ServerStates)
    (encrypt : SrtpContext → RTPMessageEvent → Except Error Bytes)
    (sent msg : TaggedMessageEvent) : Prop :=
  ∃ event encrypted, msg.message = .rtp event ∧
    SrtpHandler.tryWrite states encrypt msg.transport.fourTuple event = .ok encrypted ∧
    sent = { msg with message := .rtp (.raw encrypted) }

/-- At most one message comes of one, and it is media if and only if that was. -/
theorem produced_srtp (states : ServerStates)
    (encrypt : SrtpContext → RTPMessageEvent → Except Error Bytes) (msg : TaggedMessageEvent) :
    (SrtpHandler.pollWrite states encrypt msg).1 = [] ∨
      (∃ sent, (SrtpHandler.pollWrite states encrypt msg).1 = [sent] ∧
        SrtpHandler.Writes states encrypt sent msg) ∨
      (SrtpHandler.pollWrite states encrypt msg).1 = [msg] ∧ msg.isRtp = false := by
  unfold SrtpHandler.pollWrite
  split
  · rename_i event hmessage
    cases hwritten : SrtpHandler.tryWrite states encrypt msg.transport.fourTuple event with
    | error error => exact .inl rfl
    | ok encrypted => exact .inr (.inl ⟨_, rfl, event, encrypted, hmessage, hwritten, rfl⟩)
  · rename_i hmessage
    refine .inr (.inr ⟨rfl, ?_⟩)
    unfold isRtp
    split
    · rename_i event hrtp
      exact absurd hrtp (hmessage event)
    · rfl

/-- A media message as it leaves in a run: in some poll, the library encrypted it with the local
context that the transport of its receiver had then. -/
def Sealed (moves : List PipelineMove) (sent msg : TaggedMessageEvent) : Prop :=
  ∃ poll ∈ moves, ∃ writing event ids transport context encrypted,
    poll.input = .pollTransmit writing ∧ msg.message = .rtp event ∧
    poll.pre.states.endpoints.get msg.transport.fourTuple = some ids ∧
    poll.pre.states.transportAt ids msg.transport.fourTuple = some transport ∧
    transport.localSrtpContext = some context ∧
    writing.encrypt context event = .ok encrypted ∧
    sent = { msg with message := .rtp (.raw encrypted) }

/-- What is not raw is encrypted. -/
theorem SrtpHandler.tryWrite_eq_ok {states : ServerStates}
    {encrypt : SrtpContext → RTPMessageEvent → Except Error Bytes} {fourTuple : FourTuple}
    {event : RTPMessageEvent} {encrypted : Bytes} (hraw : ∀ bytes, event ≠ .raw bytes)
    (hwritten : SrtpHandler.tryWrite states encrypt fourTuple event = .ok encrypted) :
    ∃ ids transport context, states.endpoints.get fourTuple = some ids ∧
      states.transportAt ids fourTuple = some transport ∧
      transport.localSrtpContext = some context ∧ encrypt context event = .ok encrypted := by
  unfold SrtpHandler.tryWrite at hwritten
  cases hlookup : states.getMutTransport fourTuple with
  | error error => simp [hlookup, bind, Except.bind] at hwritten
  | ok found =>
      obtain ⟨ids, transport⟩ := found
      obtain ⟨hindex, hheld⟩ := (states.getMutTransport_eq_ok_iff ids).mp hlookup
      simp only [hlookup, bind, Except.bind] at hwritten
      split at hwritten
      · exact absurd rfl (hraw _)
      · contradiction
      · split at hwritten
        · rename_i context hcontext
          exact ⟨ids, transport, context, hindex, hheld, hcontext, hwritten⟩
        · contradiction

/-- The handler seals the media it writes. -/
theorem sealed_of_writes {poll : PipelineMove} {writing : Writing}
    {sent msg : TaggedMessageEvent} {moves : List PipelineMove} (hmem : poll ∈ moves)
    (hpoll : poll.input = .pollTransmit writing) (hmedia : msg.IsMedia)
    (hwrites : SrtpHandler.Writes poll.pre.states writing.encrypt sent msg) :
    Sealed moves sent msg := by
  obtain ⟨event, encrypted, hmessage, hwritten, hsent⟩ := hwrites
  have hraw : ∀ bytes, event ≠ .raw bytes := by
    rintro bytes rfl
    obtain ⟨packet, hpacket⟩ | ⟨packets, hpackets⟩ := hmedia
    · simp [hmessage] at hpacket
    · simp [hmessage] at hpackets
  obtain ⟨ids, transport, context, hindex, hheld, hcontext, hencrypted⟩ :=
    SrtpHandler.tryWrite_eq_ok hraw hwritten
  exact ⟨poll, hmem, writing, event, ids, transport, context, encrypted, hpoll, hmessage, hindex,
    hheld, hcontext, hencrypted, hsent⟩

/-! ## One poll -/

/-- A poll of the gateway. -/
theorem GatewayHandler.pollWrite_eq (gateway : GatewayHandler) :
    gateway.pollWrite = ((gateway.transmits.relay []).1,
      { gateway with transmits := (gateway.transmits.relay []).2 }) := by
  have hrelay : gateway.transmits.relay [] = gateway.transmits.popFront := by
    simp [Fifo.relay, Fifo.pushAll]
  rw [hrelay]
  unfold GatewayHandler.pollWrite Fifo.popFront
  cases gateway.transmits.pop with
  | none => rfl
  | some popped => rfl

namespace Pipeline

/-- What a handler keeps of each message it keeps of the one it gets. -/
theorem filter_given {keep : TaggedMessageEvent → Bool}
    {pollWrite : TaggedMessageEvent → Produced}
    (hkeep : ∀ msg, (pollWrite msg).1.filter keep = [msg].filter keep)
    (pulled : Option TaggedMessageEvent) :
    (given pulled pollWrite).1.filter keep = pulled.toList.filter keep := by
  cases pulled with
  | none => rfl
  | some msg => exact hkeep msg

/-- Messages of each queue are those of the queue behind it, in the same order. -/
structure InOrder (pipeline : Pipeline) : Prop where
  interceptor : Fifo.Carries (fun _ => true) pipeline.interceptor pipeline.gateway.transmits
  stun : Fifo.Carries isStun pipeline.dataChannel pipeline.interceptor
  sctp : Fifo.Carries isPlain pipeline.sctp pipeline.dataChannel
  dtls : Fifo.Carries isPlain pipeline.dtls pipeline.sctp

section Poll

variable {pipeline : Pipeline} {codecs : Codecs} {writing : Writing}

theorem toList_fromSrtp :
    (pipeline.fromSrtp writing).1.head?.toList = (pipeline.fromSrtp writing).1 := by
  unfold fromSrtp given
  split
  · rename_i msg hmsg
    rcases produced_srtp pipeline.states writing.encrypt msg with hnone | ⟨sent, hsent, -⟩ | ⟨hsame, -⟩
    · rw [hnone]
      rfl
    · rw [hsent]
      rfl
    · rw [hsame]
      rfl
  · rfl

/-- Nothing plain is lost or made up in the handler for data channels. -/
theorem plain_toDataChannel {keep : TaggedMessageEvent → Bool}
    (hkeep : ∀ msg, keep msg = true → msg.isPlain = true) :
    (pipeline.toDataChannel writing).1.filter keep = (pipeline.fromSrtp writing).1.filter keep := by
  rw [toDataChannel, ← Fifo.filter_filter_of_imp hkeep, filter_given plain_dataChannel,
    Fifo.filter_filter_of_imp hkeep, toList_fromSrtp]

/-- STUN comes through the handlers for SRTP and data channels. -/
theorem stun_toDataChannel :
    (pipeline.toDataChannel writing).1.filter isStun =
      pipeline.fromInterceptor.1.toList.filter isStun := by
  rw [plain_toDataChannel fun _ => isPlain_of_isStun, fromSrtp]
  exact filter_given (stun_srtp _ _) _

/-- Media comes through as the handler for SRTP writes it, or not at all. -/
theorem media_toDataChannel :
    List.SublistForall₂ (SrtpHandler.Writes pipeline.states writing.encrypt)
      ((pipeline.toDataChannel writing).1.filter isRtp) pipeline.fromInterceptor.1.toList := by
  rw [plain_toDataChannel fun _ => isPlain_of_isRtp, fromSrtp]
  cases pipeline.fromInterceptor.1 with
  | none => exact .nil
  | some msg =>
      simp only [given, Option.toList_some]
      rcases produced_srtp pipeline.states writing.encrypt msg with hnone | ⟨sent, hsent, hwrites⟩ |
        ⟨hsame, hrtp⟩
      · rw [hnone]
        exact .nil
      · have hrtp : sent.isRtp = true := by
          obtain ⟨event, encrypted, -, -, rfl⟩ := hwrites
          rfl
        rw [hsent, List.filter_cons_of_pos hrtp]
        exact .cons hwrites .nil
      · -- what is not media passes, but is not kept
        rw [hsame, List.filter_cons_of_neg (by simp [hrtp])]
        exact .nil

/-- A poll keeps every order. -/
theorem InOrder.poll (horder : pipeline.InOrder) :
    (pipeline.pollTransmit codecs writing).2.1.InOrder where
  interceptor := by
    show Fifo.Carries _ (pipeline.interceptor.relay pipeline.toInterceptor.1).2
      pipeline.gateway.pollWrite.2.transmits
    rw [GatewayHandler.pollWrite_eq]
    -- the gateway is a relay that is sent nothing by a poll
    refine horder.interceptor.relay ?_
    rw [toInterceptor, fromGateway, GatewayHandler.pollWrite_eq]
    exact filter_given (fun msg => by rw [produced_interceptor]) _
  stun := horder.stun.relay stun_toDataChannel
  sctp := horder.sctp.relay (filter_given (plain_sctp _ _ _) _)
  dtls := horder.dtls.relay (filter_given (plain_dtls _ _ _) _)

end Poll

/-! ## Every other call -/

theorem Got.history_filter {keep : TaggedMessageEvent → Bool} {Kind : TaggedMessageEvent → Prop}
    {before after : Fifo TaggedMessageEvent} (hgot : Got Kind before after)
    (hkind : ∀ msg, Kind msg → keep msg = false) :
    after.history.filter keep = before.history.filter keep ∧ after.taken = before.taken := by
  obtain ⟨queued, rfl, hqueued⟩ := hgot
  rw [Fifo.history_pushAll, List.filter_append, filter_eq_nil_of_kind hkind hqueued,
    List.append_nil]
  exact ⟨rfl, rfl⟩

section Grows

variable {lib : Libraries} {P : Moment × SfuEvent → Prop} {before after : Pipeline}

/-- Nothing is taken from the gateway but by a poll. -/
theorem taken_of_run {gateway next : GatewayHandler} {moves : List SfuMove}
    (hrun : (sfu lib).Run gateway moves next)
    (hpoll : ∀ move ∈ moves, move.input.2 ≠ .pollWrite) :
    next.transmits.taken = gateway.transmits.taken := by
  -- only the output `written` of a poll counts as taken
  have hnothing : ∀ move ∈ moves, written move = [] := by
    intro move hmem
    have hstep := fires_iff.mp (hrun.fires_of_mem hmem)
    have hinput := hpoll move hmem
    obtain ⟨pre, ⟨moment, event⟩, post, outputs⟩ := move
    dsimp only at hstep hinput
    cases event with
    | pollWrite => exact absurd rfl hinput
    | timeout now =>
        obtain ⟨-, rfl⟩ := Prod.mk.inj hstep
        rfl
    | offer sessionId endpointId offer =>
        simp only [sfuStep] at hstep
        split at hstep <;> obtain ⟨-, rfl⟩ := Prod.mk.inj hstep <;> rfl
    | dtls transport read =>
        simp only [sfuStep] at hstep
        split at hstep <;> obtain ⟨-, rfl⟩ := Prod.mk.inj hstep <;>
          simp [written, List.filterMap_map]
    | read msg =>
        simp only [sfuStep] at hstep
        split at hstep <;> obtain ⟨-, rfl⟩ := Prod.mk.inj hstep <;> rfl
  rw [(transmits_of_run hrun).2, List.flatMap_eq_nil_iff.mpr hnothing, List.append_nil]

theorem InOrder.grows (horder : before.InOrder) (hgrows : Grows lib P before after)
    (hpoll : ∀ input, P input → input.2 ≠ .pollWrite) : after.InOrder := by
  obtain ⟨moves, hrun, hmoves⟩ := hgrows.gateway
  have htaken := taken_of_run hrun fun move hmem => hpoll _ (hmoves move hmem)
  have hstun : ∀ msg : TaggedMessageEvent, msg.IsSctp → msg.isStun = false := by
    rintro msg ⟨message, hmessage⟩
    simp [isStun, hmessage]
  -- what the queues got is for DTLS, so none of it is kept
  have hsctp := hgrows.sctp.history_filter fun _ => isPlain_of_isRecord
  have hdtls := hgrows.dtls.history_filter fun _ => isPlain_of_isRecord
  have hchannel := hgrows.dataChannel.history_filter fun _ => isPlain_of_isSctp
  exact {
    interceptor := by rw [Fifo.Carries, hgrows.interceptor, htaken]; exact horder.interceptor
    stun := by
      rw [Fifo.Carries, hgrows.interceptor, (hgrows.dataChannel.history_filter hstun).1]
      exact horder.stun
    sctp := by rw [Fifo.Carries, hsctp.1, hchannel.2]; exact horder.sctp
    dtls := by rw [Fifo.Carries, hdtls.1, hsctp.2]; exact horder.dtls }

end Grows

theorem inOrder_build {gateway : GatewayHandler} (hempty : gateway.transmits = Fifo.empty)
    (localAddr : SocketAddr) (clock : Instant) : (build gateway localAddr clock).InOrder where
  interceptor := by
    show Fifo.Carries _ Fifo.empty gateway.transmits
    rw [hempty]
    rfl
  stun := rfl
  sctp := rfl
  dtls := rfl

/-! ## What has left, and what waits -/

/-- Messages between the handler for data channels and the socket. -/
def leaving (pipeline : Pipeline) : List TaggedMessageEvent :=
  pipeline.dtls.waiting ++ pipeline.sctp.waiting ++ pipeline.dataChannel.waiting

/-- Messages between the gateway and the socket. -/
def onTheWay (pipeline : Pipeline) : List TaggedMessageEvent :=
  pipeline.leaving ++ pipeline.interceptor.waiting ++ pipeline.gateway.transmits.waiting

section Order

variable {pipeline : Pipeline} {keep : TaggedMessageEvent → Bool}

/-- What the handler for data channels queued has left, or is leaving. -/
theorem InOrder.history_dataChannel (horder : pipeline.InOrder)
    (hkeep : ∀ msg, keep msg = true → msg.isPlain = true) :
    pipeline.dataChannel.history.filter keep =
      pipeline.dtls.taken.filter keep ++ pipeline.leaving.filter keep := by
  rw [(horder.sctp.mono hkeep).history_filter, (horder.dtls.mono hkeep).history_filter,
    Fifo.history, leaving]
  simp only [List.filter_append, List.append_assoc]

/-- Every STUN message the gateway queued has left, or is on the way. -/
theorem InOrder.history_stun (horder : pipeline.InOrder) :
    pipeline.gateway.transmits.history.filter isStun =
      pipeline.dtls.taken.filter isStun ++ pipeline.onTheWay.filter isStun := by
  have hgateway : Fifo.Carries isStun pipeline.interceptor pipeline.gateway.transmits :=
    horder.interceptor.mono fun _ _ => rfl
  rw [hgateway.history_filter, horder.stun.history_filter,
    horder.history_dataChannel fun _ => isPlain_of_isStun, onTheWay]
  simp only [List.filter_append, List.append_assoc]

/-- The handler for interceptors adds nothing of its own. -/
theorem InOrder.history_interceptor (horder : pipeline.InOrder) :
    pipeline.interceptor.history = pipeline.gateway.transmits.taken := by
  have hsame := horder.interceptor
  simp only [Fifo.Carries, List.filter_true] at hsame
  exact hsame

/-- Media that has left or is leaving came, message by message, of what the gateway queued, if
what the handler for data channels got came so of what the one for interceptors sent. -/
theorem InOrder.history_media (horder : pipeline.InOrder)
    {R : TaggedMessageEvent → TaggedMessageEvent → Prop}
    (hmedia : List.SublistForall₂ R (pipeline.dataChannel.history.filter isRtp)
      pipeline.interceptor.taken) :
    List.SublistForall₂ R (pipeline.dtls.taken.filter isRtp ++ pipeline.leaving.filter isRtp)
      pipeline.gateway.transmits.taken := by
  rw [← horder.history_dataChannel fun _ => isPlain_of_isRtp, ← horder.history_interceptor]
  obtain ⟨chosen, hrelated, hchosen⟩ := List.sublistForall₂_iff.mp hmedia
  exact List.sublistForall₂_iff.mpr
    ⟨chosen, hrelated, hchosen.trans (List.sublist_append_left _ _)⟩

end Order

end Pipeline

/-! ## Whole runs -/

/-- What the socket is handed. -/
def transmitted (move : PipelineMove) : List TaggedBytesMut :=
  move.outputs.filterMap fun
    | .transmitted datagram => some datagram
    | _ => none

/-- A message of the outermost queue as a datagram. -/
def onWire (codecs : Codecs) (msg : TaggedMessageEvent) : Option TaggedBytesMut :=
  DemuxerHandler.pollWrite (StunHandler.pollWrite codecs msg)

section Runs

variable {lib : Libraries} {codecs : Codecs} {move : PipelineMove} {pipeline reached : Pipeline}
  {moves : List PipelineMove}

theorem leads_not_poll {states : ServerStates} {event : PipelineEvent}
    (hpoll : ∀ writing, event ≠ .pollTransmit writing) {input : Moment × SfuEvent}
    (hleads : Leads codecs states event input) : input.2 ≠ .pollWrite := by
  cases event with
  | offer moment sessionId endpointId offer =>
      obtain rfl := hleads
      simp
  | timeout timeout =>
      obtain rfl := hleads
      simp
  | pollTransmit writing => exact absurd rfl (hpoll writing)
  | read reading datagram =>
      cases hleads with
      | record _ _ hinput =>
          obtain ⟨moment, rfl⟩ | ⟨moment, message, rfl⟩ := hinput <;> simp
      | stun moment request hdecoded => simp
      | media moment event inner hdecrypted hpassed => simp

theorem inOrder_of_fires (hfires : (pipelineMachine lib codecs).Fires move)
    (hpre : move.pre.Quiet ∧ move.pre.InOrder) : move.post.Quiet ∧ move.post.InOrder := by
  refine ⟨quiet_of_fires hfires hpre.1, ?_⟩
  obtain ⟨writing, -, hpost, -⟩ | ⟨hother, hgrows⟩ := call_of_fires hfires hpre.1
  · rw [hpost]
    exact hpre.2.poll
  · exact hpre.2.grows hgrows fun _ => leads_not_poll hother

/-- Every order is kept along a run. -/
theorem inOrder_of_run (hquiet : pipeline.Quiet) (horder : pipeline.InOrder)
    (hrun : (pipelineMachine lib codecs).Run pipeline moves reached) : reached.InOrder := by
  have hreached : reached.Quiet ∧ reached.InOrder :=
    hrun.invariant (fun pipeline => pipeline.Quiet ∧ pipeline.InOrder)
      (fun _ hfires hpre => inOrder_of_fires hfires hpre) ⟨hquiet, horder⟩
  exact hreached.2

/-! ## Media in a run -/

/-- A media message as some poll wrote it. -/
def WrittenIn (moves : List PipelineMove) (sent msg : TaggedMessageEvent) : Prop :=
  ∃ poll ∈ moves, ∃ writing, poll.input = .pollTransmit writing ∧
    SrtpHandler.Writes poll.pre.states writing.encrypt sent msg

theorem WrittenIn.mono {earlier : List PipelineMove} (later : List PipelineMove)
    {sent msg : TaggedMessageEvent} (hwritten : WrittenIn earlier sent msg) :
    WrittenIn (earlier ++ later) sent msg := by
  obtain ⟨poll, hmem, hrest⟩ := hwritten
  exact ⟨poll, List.mem_append_left _ hmem, hrest⟩

/-- A poll writes at most the media it takes; no other call has to do with media. -/
theorem writtenIn_of_fires (hfires : (pipelineMachine lib codecs).Fires move)
    (hquiet : move.pre.Quiet)
    (hmedia : List.SublistForall₂ (WrittenIn moves) (move.pre.dataChannel.history.filter isRtp)
      move.pre.interceptor.taken) :
    List.SublistForall₂ (WrittenIn (moves ++ [move]))
      (move.post.dataChannel.history.filter isRtp) move.post.interceptor.taken := by
  have hbefore := Fifo.sublistForall₂_imp hmedia fun _ _ _ => WrittenIn.mono [move]
  obtain ⟨writing, hinput, hpost, -⟩ | ⟨-, hgrows⟩ := call_of_fires hfires hquiet
  · rw [hpost]
    show List.SublistForall₂ _
      ((move.pre.dataChannel.relay (move.pre.toDataChannel writing).1).2.history.filter isRtp)
      (move.pre.interceptor.relay move.pre.toInterceptor.1).2.taken
    rw [Fifo.history_relay, List.filter_append, Fifo.taken_relay]
    refine Fifo.sublistForall₂_append hbefore ?_
    refine Fifo.sublistForall₂_imp Pipeline.media_toDataChannel ?_
    intro sent msg _ hwrites
    exact ⟨move, List.mem_append_right _ (List.mem_singleton_self move), writing, hinput, hwrites⟩
  · -- without a poll, only messages for SCTP are added behind the handler for SRTP
    have hrtp : ∀ msg : TaggedMessageEvent, msg.IsSctp → msg.isRtp = false := by
      rintro msg ⟨message, hmessage⟩
      simp [isRtp, hmessage]
    rw [hgrows.interceptor, (hgrows.dataChannel.history_filter hrtp).1]
    exact hbefore

/-- Along a run, media behind the handler for SRTP was written by it. -/
theorem writtenIn_of_run {gateway : GatewayHandler} {localAddr : SocketAddr} {clock : Instant}
    (hrun : (pipelineMachine lib codecs).Run (.build gateway localAddr clock) moves reached) :
    List.SublistForall₂ (WrittenIn moves) (reached.dataChannel.history.filter isRtp)
      reached.interceptor.taken := by
  have hquiet := Pipeline.quiet_build gateway localAddr clock
  refine hrun.history (fun moves pipeline => List.SublistForall₂ (WrittenIn moves)
    (pipeline.dataChannel.history.filter isRtp) pipeline.interceptor.taken) ?_ .nil
  intro earlier move hearlier hfires hmedia
  exact writtenIn_of_fires hfires (quiet_of_run hquiet hearlier) hmedia

/-- Along a run, media that has left or is leaving is media that the gateway queued, sealed. -/
theorem sealed_of_run {gateway : GatewayHandler} {localAddr : SocketAddr} {clock : Instant}
    (hfresh : gateway.Fresh)
    (hrun : (pipelineMachine lib codecs).Run (.build gateway localAddr clock) moves reached) :
    List.SublistForall₂ (Sealed moves)
      (reached.dtls.taken.filter isRtp ++ reached.leaving.filter isRtp)
      reached.gateway.transmits.taken := by
  have hquiet := Pipeline.quiet_build gateway localAddr clock
  have horder := inOrder_of_run hquiet (Pipeline.inOrder_build hfresh.transmits localAddr clock)
    hrun
  obtain ⟨steps, hsteps, -⟩ := hrun.simulate_exists Pipeline.gateway fun _ hmem =>
    gateway_of_fires (hrun.fires_of_mem hmem) (quiet_of_mem hquiet hrun hmem)
  refine Fifo.sublistForall₂_imp (horder.history_media (writtenIn_of_run hrun)) ?_
  rintro sent msg hmsg ⟨poll, hmem, writing, hpoll, hwrites⟩
  obtain ⟨event, -, hmessage, -⟩ := id hwrites
  -- the gateway queued it, so it is not raw, and what is not raw is encrypted
  have hmedia := isMedia_of_run hfresh hsteps (List.mem_append_left _ hmsg) hmessage
  exact sealed_of_writes hmem hpoll hmedia hwrites

/-! ## What the socket is handed -/

/-- Only a poll hands anything to the socket. -/
theorem transmitted_of_not_poll (hfires : (pipelineMachine lib codecs).Fires move)
    (hother : ∀ writing, move.input ≠ .pollTransmit writing) : transmitted move = [] := by
  obtain ⟨pipeline, event, post, outputs⟩ := move
  have hstep := pipeline_fires_iff.mp hfires
  dsimp only at hstep
  cases event with
  | offer moment sessionId endpointId offer =>
      simp only [pipelineStep] at hstep
      obtain ⟨-, rfl⟩ := Prod.mk.inj hstep
      simp only [transmitted]
      split <;> rfl
  | read reading datagram =>
      obtain ⟨-, rfl⟩ := Prod.mk.inj hstep
      simp [transmitted, List.filterMap_map]
  | timeout timeout =>
      obtain ⟨-, rfl⟩ := Prod.mk.inj hstep
      simp [transmitted, List.filterMap_map]
  | pollTransmit writing => exact absurd rfl (hother writing)

/-- The socket is handed what a poll takes from the outermost queue. -/
theorem transmitted_of_fires (hfires : (pipelineMachine lib codecs).Fires move)
    (hquiet : move.pre.Quiet) :
    move.post.dtls.taken.filterMap (onWire codecs) =
      move.pre.dtls.taken.filterMap (onWire codecs) ++ transmitted move := by
  obtain ⟨writing, -, hpost, houtputs⟩ | ⟨hother, hgrows⟩ := call_of_fires hfires hquiet
  · rw [hpost]
    show (move.pre.dtls.relay (move.pre.toDtls writing).1).2.taken.filterMap (onWire codecs) = _
    rw [Fifo.taken_relay, List.filterMap_append, List.append_cancel_left_eq, transmitted,
      houtputs]
    simp only [Pipeline.pollTransmit, Pipeline.fromStun, Pipeline.fromDtls,
      List.filterMap_append, List.filterMap_map]
    cases (move.pre.dtls.relay (move.pre.toDtls writing).1).1 with
    | none => simp
    | some msg => cases hsent : onWire codecs msg <;> simp_all [onWire]
  · have htaken : move.post.dtls.taken = move.pre.dtls.taken :=
      (hgrows.dtls.history_filter fun _ => isPlain_of_isRecord).2
    rw [transmitted_of_not_poll hfires hother, htaken, List.append_nil]

theorem transmitted_of_run (hquiet : pipeline.Quiet)
    (hrun : (pipelineMachine lib codecs).Run pipeline moves reached) :
    reached.dtls.taken.filterMap (onWire codecs) =
      pipeline.dtls.taken.filterMap (onWire codecs) ++ moves.flatMap transmitted := by
  induction hrun with
  | nil state => simp
  | cons hfires _ ih =>
      rw [ih (quiet_of_fires hfires hquiet), transmitted_of_fires hfires hquiet,
        List.flatMap_cons, List.append_assoc]

end Runs

end Sfu
end MediaServer
