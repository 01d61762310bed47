import MediaServer.Sfu.PipelineMedia

/-!
# When a poll comes back with nothing

`write_socket_output` polls until a poll comes back with nothing.  Every message that gets as
far as the outermost queue can be put on the wire (`Clean`), so a poll comes back with nothing
exactly when that queue is empty and the handler for DTLS made nothing of what it got
(`silent_poll_iff`).  That a handler could not pass on what it got is enough, whatever waits
in the queues behind it.
-/

namespace MediaServer
namespace Sfu

open Foundation Transcription
open TaggedMessageEvent

namespace TaggedMessageEvent

/-- Media only as bytes. -/
def AfterSrtp (msg : TaggedMessageEvent) : Prop :=
  ∀ event, msg.message = .rtp event → ∃ bytes, event = .raw bytes

/-- Also nothing for a data channel. -/
def AfterDataChannel (msg : TaggedMessageEvent) : Prop :=
  msg.AfterSrtp ∧ ∀ message, msg.message ≠ .dtls (.dataChannel message)

/-- Also nothing for SCTP. -/
def AfterSctp (msg : TaggedMessageEvent) : Prop :=
  msg.AfterDataChannel ∧ ∀ message, msg.message ≠ .dtls (.sctp message)

variable {msg : TaggedMessageEvent}

theorem afterSctp_of_isRecord (hrecord : msg.IsRecord) : msg.AfterSctp := by
  obtain ⟨record, hmessage⟩ := hrecord
  refine ⟨⟨?_, ?_⟩, ?_⟩ <;> simp [AfterSrtp, hmessage]

theorem afterDataChannel_of_isSctp (hsctp : msg.IsSctp) : msg.AfterDataChannel := by
  obtain ⟨message, hmessage⟩ := hsctp
  refine ⟨?_, ?_⟩ <;> simp [AfterSrtp, hmessage]

/-- What is left can be put on the wire. -/
theorem isSome_onWire (codecs : Codecs) (hmsg : msg.AfterSctp) : (onWire codecs msg).isSome := by
  obtain ⟨⟨hsrtp, hchannel⟩, hsctp⟩ := hmsg
  obtain ⟨now, transport, message⟩ := msg
  cases message with
  | stun event => cases event <;> rfl
  | rtp event =>
      obtain ⟨bytes, rfl⟩ := hsrtp event rfl
      rfl
  | dtls event =>
      cases event with
      | raw record => rfl
      | sctp message => exact absurd rfl (hsctp message)
      | dataChannel message => exact absurd rfl (hchannel message)

end TaggedMessageEvent

/-! ## What the handlers leave -/

theorem afterSrtp_srtp (states : ServerStates)
    (encrypt : SrtpContext → RTPMessageEvent → Except Error Bytes) (msg : TaggedMessageEvent) :
    ∀ other ∈ (SrtpHandler.pollWrite states encrypt msg).1, other.AfterSrtp := by
  intro other hother
  rcases produced_srtp states encrypt msg with hnone | ⟨sent, hsent, hwrites⟩ | ⟨hsame, hrtp⟩
  · simp [hnone] at hother
  · rw [hsent] at hother
    obtain rfl := List.mem_singleton.mp hother
    obtain ⟨event, encrypted, -, -, rfl⟩ := hwrites
    intro event hevent
    exact ⟨encrypted, (MessageEvent.rtp.inj hevent).symm⟩
  · rw [hsame] at hother
    obtain rfl := List.mem_singleton.mp hother
    intro event hevent
    simp [isRtp, hevent] at hrtp

theorem afterDataChannel_dataChannel {msg : TaggedMessageEvent} (hmsg : msg.AfterSrtp) :
    ∀ other ∈ (DataChannelHandler.pollWrite msg).1, other.AfterDataChannel := by
  intro other hother
  unfold DataChannelHandler.pollWrite at hother
  split at hother
  · split at hother
    · obtain rfl := List.mem_singleton.mp hother
      exact afterDataChannel_of_isSctp ⟨_, rfl⟩
    · simp [Produced.nothing] at hother
  · rename_i hmessage
    obtain rfl := List.mem_singleton.mp hother
    exact ⟨hmsg, hmessage⟩

theorem afterSctp_sctp (localAddr : SocketAddr) (states : ServerStates)
    (write : SctpWrite → Option (Except Error (List (Transmit SctpPayload))))
    {msg : TaggedMessageEvent} (hmsg : msg.AfterDataChannel) :
    ∀ other ∈ (SctpHandler.pollWrite localAddr states write msg).1, other.AfterSctp := by
  intro other hother
  unfold SctpHandler.pollWrite at hother
  split at hother
  · rename_i message hmessage
    cases hwrite : SctpHandler.tryWrite states write msg.transport.fourTuple message with
    | error error => simp [hwrite, Produced.ofExcept, bind, Except.bind] at hother
    | ok transmits =>
        simp only [hwrite, Produced.ofExcept, bind, Except.bind, pure, Except.pure] at hother
        obtain ⟨transmit, -, hother⟩ := List.mem_flatMap.mp hother
        exact afterSctp_of_isRecord (isRecord_of_sctpTransmit hother)
  · rename_i hmessage
    obtain rfl := List.mem_singleton.mp hother
    exact ⟨hmsg, hmessage⟩

theorem afterSctp_dtls (localAddr : SocketAddr) (states : ServerStates)
    (write : SocketAddr → Bytes → Except Error (List (Transmit Bytes)))
    {msg : TaggedMessageEvent} (hmsg : msg.AfterSctp) :
    ∀ other ∈ (DtlsHandler.pollWrite localAddr states write msg).1, other.AfterSctp := by
  intro other hother
  unfold DtlsHandler.pollWrite at hother
  split at hother
  · rename_i record hmessage
    cases hfound : states.getMutTransport msg.transport.fourTuple with
    | error error => simp [hfound, Produced.ofExcept, bind, Except.bind] at hother
    | ok found =>
        cases hwrite : write msg.transport.peerAddr record with
        | error error => simp [hfound, hwrite, Produced.ofExcept, bind, Except.bind] at hother
        | ok transmits =>
            simp only [hfound, hwrite, Produced.ofExcept, bind, Except.bind, pure,
              Except.pure] at hother
            exact afterSctp_of_isRecord (isRecord_of_dtlsTransmit hother)
  · obtain rfl := List.mem_singleton.mp hother
    exact hmsg

/-! ## What waits in the queues -/

/-- A relay that is sent only what has a property hands out and keeps only that. -/
theorem forall_relay {P : TaggedMessageEvent → Prop} {queue : Fifo TaggedMessageEvent}
    {produced : List TaggedMessageEvent} (hwaiting : ∀ msg ∈ queue.waiting, P msg)
    (hproduced : ∀ msg ∈ produced, P msg) :
    (∀ msg, (queue.relay produced).1 = some msg → P msg) ∧
      ∀ msg ∈ (queue.relay produced).2.waiting, P msg := by
  have hall : ∀ msg ∈ queue.waiting ++ produced, P msg := by
    intro msg hmem
    rcases List.mem_append.mp hmem with hmem | hmem
    · exact hwaiting msg hmem
    · exact hproduced msg hmem
  constructor
  · intro msg hhead
    rw [Fifo.relay_fst] at hhead
    exact hall msg (List.mem_of_mem_head? hhead)
  · intro msg hmem
    rw [Fifo.waiting_relay] at hmem
    exact hall msg (List.mem_of_mem_tail hmem)

namespace Pipeline

theorem forall_given {P Q : TaggedMessageEvent → Prop} {pollWrite : TaggedMessageEvent → Produced}
    (hpoll : ∀ msg, P msg → ∀ other ∈ (pollWrite msg).1, Q other)
    {pulled : Option TaggedMessageEvent} (hpulled : ∀ msg, pulled = some msg → P msg) :
    ∀ other ∈ (given pulled pollWrite).1, Q other := by
  cases pulled with
  | none => simp [given, Produced.nothing]
  | some msg => exact hpoll msg (hpulled msg rfl)

/-- Each queue holds what the handlers before it leave. -/
structure Clean (pipeline : Pipeline) : Prop where
  dataChannel : ∀ msg ∈ pipeline.dataChannel.waiting, msg.AfterDataChannel
  sctp : ∀ msg ∈ pipeline.sctp.waiting, msg.AfterSctp
  dtls : ∀ msg ∈ pipeline.dtls.waiting, msg.AfterSctp

section Poll

variable {pipeline : Pipeline} {writing : Writing}

theorem afterDataChannel_toDataChannel (pipeline : Pipeline) (writing : Writing) :
    ∀ msg ∈ (pipeline.toDataChannel writing).1, msg.AfterDataChannel := by
  have hsrtp : ∀ other ∈ (pipeline.fromSrtp writing).1, other.AfterSrtp :=
    forall_given (fun msg _ => afterSrtp_srtp _ _ msg) fun _ _ => trivial
  refine forall_given (fun _ => afterDataChannel_dataChannel) ?_
  intro msg hhead
  exact hsrtp msg (List.mem_of_mem_head? hhead)

theorem Clean.toSctp (hclean : pipeline.Clean) :
    ∀ msg ∈ (pipeline.toSctp writing).1, msg.AfterSctp :=
  forall_given (fun _ => afterSctp_sctp _ _ _)
    (forall_relay hclean.dataChannel (afterDataChannel_toDataChannel pipeline writing)).1

theorem Clean.toDtls (hclean : pipeline.Clean) :
    ∀ msg ∈ (pipeline.toDtls writing).1, msg.AfterSctp :=
  forall_given (fun _ => afterSctp_dtls _ _ _) (forall_relay hclean.sctp hclean.toSctp).1

theorem Clean.poll (hclean : pipeline.Clean) (codecs : Codecs) (writing : Writing) :
    (pipeline.pollTransmit codecs writing).2.1.Clean where
  dataChannel :=
    (forall_relay hclean.dataChannel (afterDataChannel_toDataChannel pipeline writing)).2
  sctp := (forall_relay hclean.sctp hclean.toSctp).2
  dtls := (forall_relay hclean.dtls hclean.toDtls).2

/-- A poll comes back with nothing only when nothing got as far as the outermost queue. -/
theorem Clean.silent_iff (hclean : pipeline.Clean) (codecs : Codecs) (writing : Writing) :
    (pipeline.pollTransmit codecs writing).1 = none ↔
      pipeline.dtls.waiting = [] ∧ (pipeline.toDtls writing).1 = [] := by
  have hwire : (pipeline.pollTransmit codecs writing).1 =
      (pipeline.fromDtls writing).1.bind (onWire codecs) := by
    show ((pipeline.fromDtls writing).1.map _).bind _ = _
    cases (pipeline.fromDtls writing).1 <;> rfl
  have hproduced : ∀ msg ∈ (pipeline.toDtls writing).1, msg.AfterSctp := hclean.toDtls
  have hsome := (forall_relay hclean.dtls hproduced).1
  rw [hwire, ← Fifo.relay_eq_none_iff]
  show (pipeline.fromDtls writing).1.bind (onWire codecs) = none ↔
    (pipeline.fromDtls writing).1 = none
  cases hhead : (pipeline.fromDtls writing).1 with
  | none => simp
  | some msg =>
      have hsent := isSome_onWire codecs (hsome msg hhead)
      simp [Option.isSome_iff_ne_none.mp hsent]

end Poll

theorem Got.forall_waiting {Kind P : TaggedMessageEvent → Prop}
    {before after : Fifo TaggedMessageEvent} (hgot : Got Kind before after)
    (hkind : ∀ msg, Kind msg → P msg) (hbefore : ∀ msg ∈ before.waiting, P msg) :
    ∀ msg ∈ after.waiting, P msg := by
  obtain ⟨queued, rfl, hqueued⟩ := hgot
  intro msg hmem
  rcases List.mem_append.mp hmem with hmem | hmem
  · exact hbefore msg hmem
  · exact hkind msg (hqueued msg hmem)

theorem Clean.grows {lib : Libraries} {P : Moment × SfuEvent → Prop} {before after : Pipeline}
    (hclean : before.Clean) (hgrows : Grows lib P before after) : after.Clean where
  dataChannel :=
    hgrows.dataChannel.forall_waiting (fun _ => afterDataChannel_of_isSctp) hclean.dataChannel
  sctp := hgrows.sctp.forall_waiting (fun _ => afterSctp_of_isRecord) hclean.sctp
  dtls := hgrows.dtls.forall_waiting (fun _ => afterSctp_of_isRecord) hclean.dtls

theorem clean_build (gateway : GatewayHandler) (localAddr : SocketAddr) (clock : Instant) :
    (build gateway localAddr clock).Clean where
  dataChannel := by simp [build]
  sctp := by simp [build]
  dtls := by simp [build]

end Pipeline

/-! ## A packet that cannot be encrypted -/

def lostWriting : Writing := { plainWriting with encrypt := fun _ _ => .error (.library "no key") }

/-- Two peers connect and get keys, one sends two packets, and both peers are answered. -/
noncomputable def packetsWaiting : List PipelineEvent :=
  packetSent.take 7 ++ [.read packetReading ⟨4, contextAt 5001, protect [3] (packetFrom 1)⟩,
    .pollTransmit plainWriting, .pollTransmit plainWriting]

/-! ## Over a run -/

section Runs

variable {lib : Libraries} {codecs : Codecs} {gateway : GatewayHandler}
  {localAddr : SocketAddr} {clock : Instant} {reached : Pipeline} {moves : List PipelineMove}

theorem clean_of_fires {move : PipelineMove} (hfires : (pipelineMachine lib codecs).Fires move)
    (hpre : move.pre.Quiet ∧ move.pre.Clean) : move.post.Quiet ∧ move.post.Clean := by
  refine ⟨quiet_of_fires hfires hpre.1, ?_⟩
  obtain ⟨writing, -, hpost, -⟩ | ⟨-, hgrows⟩ := call_of_fires hfires hpre.1
  · rw [hpost]
    exact hpre.2.poll codecs writing
  · exact hpre.2.grows hgrows

/-- A poll comes back with nothing exactly when nothing waits for the socket and the handler
for DTLS made nothing of what it got. -/
theorem silent_poll_iff
    (hrun : (pipelineMachine lib codecs).Run (.build gateway localAddr clock) moves reached)
    (writing : Writing) :
    (reached.pollTransmit codecs writing).1 = none ↔
      reached.dtls.waiting = [] ∧ (reached.toDtls writing).1 = [] := by
  have hreached : reached.Quiet ∧ reached.Clean :=
    hrun.invariant (fun pipeline => pipeline.Quiet ∧ pipeline.Clean)
      (fun _ hfires hpre => clean_of_fires hfires hpre)
      ⟨Pipeline.quiet_build _ _ _, Pipeline.clean_build _ _ _⟩
  exact hreached.2.silent_iff codecs writing

/-- The first packet is lost, the poll comes back with nothing, and the second packet waits. -/
theorem silent_poll_iff_packetsWaiting :
    ((pipelineAfter plainLibraries plainCodecs plainPipeline packetsWaiting).pollTransmit
        plainCodecs lostWriting).1 = none ∧
      ((pipelineAfter plainLibraries plainCodecs plainPipeline packetsWaiting).pollTransmit
        plainCodecs lostWriting).2.1.gateway.transmits.waiting.length = 1 := by
  have hrun := run_pipelineMoves plainLibraries plainCodecs plainPipeline packetsWaiting
  have hsilent := silent_poll_iff hrun lostWriting
  refine ⟨hsilent.mpr ⟨?_, ?_⟩, ?_⟩
  · exact List.isEmpty_iff.mp (by decide +kernel)
  · exact List.isEmpty_iff.mp (by decide +kernel)
  · decide +kernel

end Runs

end Sfu
end MediaServer
