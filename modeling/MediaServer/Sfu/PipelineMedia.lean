import MediaServer.Sfu.AudioTap
import MediaServer.Sfu.PipelineOrder

/-!
# Media from socket to socket

A media packet that a pipeline hands to the socket was sealed from a copy that the gateway
queued, the gateway queued the copy when it read a media message, and the message came out of
a datagram that SRTP let through for a transport (`media_from_datagram`).  Between the two
sockets it stays in one session and goes to another endpoint of it, and both ends had been
admitted, and the receiver keyed, by calls before it was read (`Relayed`).
-/

namespace MediaServer
namespace Sfu

open Foundation Transcription
open TaggedMessageEvent

/-! ## From the socket and back to it -/

/-- What is sealed is sealed from one of the messages. -/
theorem exists_sealed {sent : TaggedMessageEvent} {packets messages : List TaggedMessageEvent}
    {moves : List PipelineMove} (hmedia : List.SublistForall₂ (Sealed moves) packets messages)
    (hsent : sent ∈ packets) : ∃ message ∈ messages, Sealed moves sent message := by
  induction hmedia with
  | nil => simp at hsent
  | @cons packet message _ _ hsealed _ ih =>
      rcases List.mem_cons.mp hsent with rfl | hsent
      · exact ⟨message, List.mem_cons_self, hsealed⟩
      · obtain ⟨other, hmem, hother⟩ := ih hsent
        exact ⟨other, List.mem_cons_of_mem _ hmem, hother⟩
  | cons_right _ ih =>
      obtain ⟨other, hmem, hother⟩ := ih hsent
      exact ⟨other, List.mem_cons_of_mem _ hmem, hother⟩

/-- What stands in one list has its like in the other. -/
theorem exists_of_forall₂ {α β : Type*} {R : α → β → Prop} {first : List α} {second : List β}
    (hforall : List.Forall₂ R first second) {b : β} (hmem : b ∈ second) : ∃ a ∈ first, R a b := by
  induction hforall with
  | nil => simp at hmem
  | @cons a c _ _ hR _ ih =>
      rcases List.mem_cons.mp hmem with rfl | hmem
      · exact ⟨a, List.mem_cons_self, hR⟩
      · obtain ⟨other, hother, hlike⟩ := ih hmem
        exact ⟨other, List.mem_cons_of_mem _ hother, hlike⟩

/-- A call of the gateway reads a media message that SRTP let through. -/
def FromDatagram (codecs : Codecs) (got : PipelineMove) (read : SfuMove) : Prop :=
  ∃ reading datagram event moment inner, got.input = .read reading datagram ∧
    SrtpHandler.tryRead codecs got.pre.states reading.decryptRtp reading.decryptRtcp
      datagram.transport.fourTuple datagram.message = .ok event ∧
    inner ∈ Pipeline.passed ⟨datagram.now, datagram.transport, .rtp event⟩ ∧
    read.input = (moment, .read inner)

section Media

variable {lib : Libraries} {codecs : Codecs}

/-- Only a datagram that SRTP lets through leads to a read of media. -/
theorem fromDatagram_of_leads {got : PipelineMove} {read : SfuMove}
    (hleads : Leads codecs got.pre.states got.input read.input) {msg : TaggedMessageEvent}
    (hread : read.input.2 = .read msg) (hmsg : msg.isRtp = true) :
    FromDatagram codecs got read := by
  obtain ⟨event, hmsg⟩ := isRtp_iff.mp hmsg
  cases hinput : got.input with
  | offer moment sessionId endpointId offer =>
      rw [hinput] at hleads
      simp [show read.input = _ from hleads] at hread
  | timeout timeout =>
      rw [hinput] at hleads
      simp [show read.input = _ from hleads] at hread
  | pollTransmit writing =>
      rw [hinput] at hleads
      simp [show read.input.2 = _ from hleads] at hread
  | read reading datagram =>
      rw [hinput] at hleads
      generalize hcall : read.input = call at hleads hread
      cases hleads with
      -- a record leads to DTLS, or to what happens on data channels
      | record _ _ hrecord =>
          obtain ⟨moment, rfl⟩ | ⟨moment, message, rfl⟩ := hrecord
          · simp at hread
          · obtain rfl := SfuEvent.read.inj hread
            simp at hmsg
      | stun moment request hdecoded =>
          obtain rfl := SfuEvent.read.inj hread
          simp at hmsg
      | media moment decrypted inner hdecrypted hpassed =>
          exact ⟨reading, datagram, decrypted, moment, inner, hinput, hdecrypted, hpassed, hcall⟩

variable {gateway : GatewayHandler} {localAddr : SocketAddr} {clock : Instant}
  {reached : Pipeline} {moves : List PipelineMove}

theorem media_from_datagram (hfresh : gateway.Fresh)
    (hrun : (pipelineMachine lib codecs).Run (.build gateway localAddr clock) moves reached)
    {sent : TaggedMessageEvent} (hsent : sent ∈ reached.dtls.taken)
    (hrtp : sent.isRtp = true) :
    ∃ message earlier read later, Sealed moves sent message ∧
      (sfu lib).Run gateway (earlier ++ read :: later) reached.gateway ∧
      Relayed lib earlier read message ∧
      ∃ got ∈ moves, FromDatagram codecs got read := by
  -- back from the socket to the gateway
  have hquiet := Pipeline.quiet_build gateway localAddr clock
  have hpacket : sent ∈ reached.dtls.taken.filter isRtp ++ reached.leaving.filter isRtp :=
    List.mem_append_left _ (List.mem_filter.mpr ⟨hsent, hrtp⟩)
  obtain ⟨message, htaken, hsealed⟩ := exists_sealed (sealed_of_run hfresh hrun) hpacket
  obtain ⟨-, -, -, event, -, -, -, -, -, hmessage, -⟩ := id hsealed
  obtain ⟨steps, hsteps, hleads⟩ := hrun.simulate_exists Pipeline.gateway fun _ hmem =>
    gateway_of_fires (hrun.fires_of_mem hmem) (quiet_of_mem hquiet hrun hmem)
  have hqueued : message ∈ reached.gateway.transmits.history := List.mem_append_left _ htaken
  -- and from its queue to the read that filled it
  rw [(transmits_of_run hsteps).1, show (Pipeline.build gateway localAddr clock).gateway =
    gateway from rfl, hfresh.transmits, Fifo.history_empty, List.nil_append,
    List.mem_flatMap] at hqueued
  obtain ⟨read, hread, hqueued⟩ := hqueued
  obtain ⟨earlier, later, hsplit⟩ := List.append_of_mem hread
  rw [hsplit] at hsteps
  have hrelayed := relayed_of_queued hfresh hsteps hqueued hmessage
  refine ⟨message, earlier, read, later, hsealed, hsteps, hrelayed, ?_⟩
  -- the call of the pipeline that this read is part of
  obtain ⟨seen, hseen, hmem⟩ := List.mem_flatten.mp hread
  obtain ⟨got, hgot, hmatches⟩ := exists_of_forall₂ hleads hseen
  obtain ⟨msg, -, -, -, -, -, hinput, hsame, -⟩ := hrelayed
  refine ⟨got, hgot, fromDatagram_of_leads (hmatches read hmem) hinput ?_⟩
  exact isRtp_iff.mpr ⟨event, hsame.trans hmessage⟩

theorem media_from_datagram_packetSent :
    ∃ sent ∈ (pipelineAfter plainLibraries plainCodecs plainPipeline packetSent).dtls.taken,
      ∃ message earlier read later,
        Sealed (pipelineMoves plainLibraries plainCodecs plainPipeline packetSent) sent message ∧
        (sfu plainLibraries).Run plainGateway (earlier ++ read :: later)
          (pipelineAfter plainLibraries plainCodecs plainPipeline packetSent).gateway ∧
        Relayed plainLibraries earlier read message ∧
        ∃ got ∈ pipelineMoves plainLibraries plainCodecs plainPipeline packetSent,
          FromDatagram plainCodecs got read := by
  have hsome : ((pipelineAfter plainLibraries plainCodecs plainPipeline
      packetSent).dtls.taken.find? isRtp).isSome := by decide +kernel
  obtain ⟨sent, hfound⟩ := Option.isSome_iff_exists.mp hsome
  have hrun := run_pipelineMoves plainLibraries plainCodecs plainPipeline packetSent
  exact ⟨sent, List.mem_of_find?_eq_some hfound,
    media_from_datagram fresh_plain hrun (List.mem_of_find?_eq_some hfound)
      (List.find?_some hfound)⟩

end Media

end Sfu
end MediaServer
