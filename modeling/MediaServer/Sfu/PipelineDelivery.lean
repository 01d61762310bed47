import MediaServer.Sfu.PipelineOrder

/-!
# What the pipeline delivers

In every run the socket is handed what left the outermost queue, the STUN messages among it
are those the gateway queued first, and the media among it is media the gateway queued, in
its order and encrypted (`sent_of_run`).

When the thread does nothing but poll, the queues run empty one after the other from the
inside (`drained_of_polls`).  A poll may come back with nothing before that, when a handler
could not pass on what it got.  So it takes polls enough, not polls until the first that comes
back with nothing, and then every STUN message has been handed to the socket
(`delivered_of_polls`).
-/

namespace MediaServer
namespace Sfu

open Foundation Transcription
open TaggedMessageEvent

section Sent

variable {lib : Libraries} {codecs : Codecs} {gateway : GatewayHandler}
  {localAddr : SocketAddr} {clock : Instant} {reached : Pipeline} {moves : List PipelineMove}

theorem inOrder_of_fresh (hfresh : gateway.Fresh)
    (hrun : (pipelineMachine lib codecs).Run (.build gateway localAddr clock) moves reached) :
    reached.InOrder :=
  inOrder_of_run (Pipeline.quiet_build _ _ _)
    (Pipeline.inOrder_build hfresh.transmits localAddr clock) hrun

theorem sent_of_run (hfresh : gateway.Fresh)
    (hrun : (pipelineMachine lib codecs).Run (.build gateway localAddr clock) moves reached) :
    moves.flatMap transmitted = reached.dtls.taken.filterMap (onWire codecs) ∧
      reached.gateway.transmits.history.filter isStun =
        reached.dtls.taken.filter isStun ++ reached.onTheWay.filter isStun ∧
      List.SublistForall₂ (Sealed moves)
        (reached.dtls.taken.filter isRtp ++ reached.leaving.filter isRtp)
        reached.gateway.transmits.taken := by
  have horder := inOrder_of_fresh hfresh hrun
  refine ⟨?_, horder.history_stun, sealed_of_run hfresh hrun⟩
  have hsent := transmitted_of_run (Pipeline.quiet_build gateway localAddr clock) hrun
  exact hsent.symm

/-- Both peers are answered, and the second gets the packet of the first with its own key. -/
theorem sent_of_run_packetSent :
    (pipelineMoves plainLibraries plainCodecs plainPipeline packetSent).flatMap transmitted =
        [⟨2, contextAt 5001, [2]⟩, ⟨2, contextAt 5002, [2]⟩,
          ⟨4, contextAt 5002, protect [1] (packetFrom 1)⟩] ∧
      (pipelineAfter plainLibraries plainCodecs plainPipeline packetSent).dtls.taken.filterMap
          (onWire plainCodecs) =
        [⟨2, contextAt 5001, [2]⟩, ⟨2, contextAt 5002, [2]⟩,
          ⟨4, contextAt 5002, protect [1] (packetFrom 1)⟩] ∧
      List.SublistForall₂
        (Sealed (pipelineMoves plainLibraries plainCodecs plainPipeline packetSent))
        ((pipelineAfter plainLibraries plainCodecs plainPipeline packetSent).dtls.taken.filter
            isRtp ++
          (pipelineAfter plainLibraries plainCodecs plainPipeline packetSent).leaving.filter isRtp)
        (pipelineAfter plainLibraries plainCodecs plainPipeline
          packetSent).gateway.transmits.taken := by
  have hsent : (pipelineMoves plainLibraries plainCodecs plainPipeline packetSent).flatMap
      transmitted = [⟨2, contextAt 5001, [2]⟩, ⟨2, contextAt 5002, [2]⟩,
        ⟨4, contextAt 5002, protect [1] (packetFrom 1)⟩] := by decide +kernel
  have hrun := run_pipelineMoves plainLibraries plainCodecs plainPipeline packetSent
  obtain ⟨hsocket, -, hmedia⟩ := sent_of_run fresh_plain hrun
  exact ⟨hsent, hsocket.symm.trans hsent, hmedia⟩

/-- The handler for interceptors is sent what the gateway writes, and no report, ever. -/
theorem no_report_of_run (hfresh : gateway.Fresh)
    (hrun : (pipelineMachine lib codecs).Run (.build gateway localAddr clock) moves reached) :
    reached.interceptor.history = reached.gateway.transmits.taken :=
  (inOrder_of_fresh hfresh hrun).history_interceptor

/-- No report follows on the packet, although two seconds pass. -/
theorem no_report_of_run_packetReported :
    (pipelineAfter plainLibraries plainCodecs plainPipeline packetReported).interceptor.history =
      (pipelineAfter plainLibraries plainCodecs plainPipeline
        packetReported).gateway.transmits.taken ∧
    ((pipelineAfter plainLibraries plainCodecs plainPipeline
      packetReported).gateway.transmits.taken.filter isRtp).length = 1 :=
  ⟨no_report_of_run fresh_plain
      (run_pipelineMoves plainLibraries plainCodecs plainPipeline packetReported),
    by decide +kernel⟩

end Sent

/-! ## Draining -/

namespace Pipeline

/-- The pipeline after so many polls. -/
def polled (codecs : Codecs) (writing : ℕ → Writing) (pipeline : Pipeline) : ℕ → Pipeline
  | 0 => pipeline
  | n + 1 => ((polled codecs writing pipeline n).pollTransmit codecs (writing n)).2.1

/-- Nothing waits anywhere. -/
structure Drained (pipeline : Pipeline) : Prop where
  gateway : pipeline.gateway.transmits.waiting = []
  interceptor : pipeline.interceptor.waiting = []
  dataChannel : pipeline.dataChannel.waiting = []
  sctp : pipeline.sctp.waiting = []
  dtls : pipeline.dtls.waiting = []

theorem Drained.onTheWay_eq {pipeline : Pipeline} (hdrained : pipeline.Drained) :
    pipeline.onTheWay = [] := by
  rw [onTheWay, leaving, hdrained.gateway, hdrained.interceptor, hdrained.dataChannel,
    hdrained.sctp, hdrained.dtls]
  rfl

section Empty

variable {pipeline : Pipeline} {writing : Writing}

theorem toInterceptor_of_empty (hgateway : pipeline.gateway.transmits.waiting = []) :
    pipeline.toInterceptor.1 = [] := by
  have hnone : pipeline.fromGateway = none := by
    rw [fromGateway, GatewayHandler.pollWrite_eq]
    exact (Fifo.relay_eq_none_iff _ _).mpr ⟨hgateway, rfl⟩
  rw [toInterceptor, hnone]
  rfl

theorem toDataChannel_of_empty (hproduced : pipeline.toInterceptor.1 = [])
    (hinterceptor : pipeline.interceptor.waiting = []) :
    (pipeline.toDataChannel writing).1 = [] := by
  have hnone : pipeline.fromInterceptor.1 = none :=
    (Fifo.relay_eq_none_iff _ _).mpr ⟨hinterceptor, hproduced⟩
  rw [toDataChannel, fromSrtp, hnone]
  rfl

theorem toSctp_of_empty (hproduced : (pipeline.toDataChannel writing).1 = [])
    (hdataChannel : pipeline.dataChannel.waiting = []) : (pipeline.toSctp writing).1 = [] := by
  have hnone : (pipeline.fromDataChannel writing).1 = none :=
    (Fifo.relay_eq_none_iff _ _).mpr ⟨hdataChannel, hproduced⟩
  rw [toSctp, hnone]
  rfl

theorem toDtls_of_empty (hproduced : (pipeline.toSctp writing).1 = [])
    (hsctp : pipeline.sctp.waiting = []) : (pipeline.toDtls writing).1 = [] := by
  have hnone : (pipeline.fromSctp writing).1 = none :=
    (Fifo.relay_eq_none_iff _ _).mpr ⟨hsctp, hproduced⟩
  rw [toDtls, hnone]
  rfl

end Empty

section Draining

variable (codecs : Codecs) (writing : ℕ → Writing) (pipeline : Pipeline)

theorem transmits_polled (n : ℕ) :
    (polled codecs writing pipeline (n + 1)).gateway.transmits =
      ((polled codecs writing pipeline n).gateway.transmits.relay []).2 := by
  show (polled codecs writing pipeline n).gateway.pollWrite.2.transmits = _
  rw [GatewayHandler.pollWrite_eq]

/-- Each queue is empty from some poll on, because those behind it are. -/
theorem drained_of_polls :
    ∃ drained, ∀ n, drained ≤ n → (polled codecs writing pipeline n).Drained := by
  let state := polled codecs writing pipeline
  -- the gateway queues nothing while nothing is read, then one handler after the other
  obtain ⟨first, -, hgateway⟩ := Fifo.eventually_drained (fun n => (state n).gateway.transmits)
    (fun _ => []) (transmits_polled codecs writing pipeline) (fun n (_ : 0 ≤ n) => rfl)
  have htoInterceptor : ∀ n, first ≤ n → (state n).toInterceptor.1 = [] :=
    fun n hn => toInterceptor_of_empty (hgateway n hn)
  obtain ⟨second, hsecond, hinterceptor⟩ := Fifo.eventually_drained
    (fun n => (state n).interceptor) _ (fun _ => rfl) htoInterceptor
  have htoDataChannel : ∀ n, second ≤ n → ((state n).toDataChannel (writing n)).1 = [] :=
    fun n hn => toDataChannel_of_empty (htoInterceptor n (hsecond.trans hn)) (hinterceptor n hn)
  obtain ⟨third, hthird, hdataChannel⟩ := Fifo.eventually_drained
    (fun n => (state n).dataChannel) _ (fun _ => rfl) htoDataChannel
  have htoSctp : ∀ n, third ≤ n → ((state n).toSctp (writing n)).1 = [] :=
    fun n hn => toSctp_of_empty (htoDataChannel n (hthird.trans hn)) (hdataChannel n hn)
  obtain ⟨fourth, hfourth, hsctp⟩ := Fifo.eventually_drained
    (fun n => (state n).sctp) _ (fun _ => rfl) htoSctp
  have htoDtls : ∀ n, fourth ≤ n → ((state n).toDtls (writing n)).1 = [] :=
    fun n hn => toDtls_of_empty (htoSctp n (hfourth.trans hn)) (hsctp n hn)
  obtain ⟨last, hlast, hdtls⟩ := Fifo.eventually_drained
    (fun n => (state n).dtls) _ (fun _ => rfl) htoDtls
  refine ⟨last, ?_⟩
  intro n hn
  exact {
    gateway := hgateway n (by omega)
    interceptor := hinterceptor n (by omega)
    dataChannel := hdataChannel n (by omega)
    sctp := hsctp n (by omega)
    dtls := hdtls n hn }

theorem inOrder_polled {pipeline : Pipeline} (horder : pipeline.InOrder) (n : ℕ) :
    (polled codecs writing pipeline n).InOrder := by
  induction n with
  | zero => exact horder
  | succ n ih =>
      have hpolled :
          ((polled codecs writing pipeline n).pollTransmit codecs (writing n)).2.1.InOrder :=
        ih.poll
      exact hpolled

/-- Polls leave what the gateway queued. -/
theorem history_polled (n : ℕ) :
    (polled codecs writing pipeline n).gateway.transmits.history =
      pipeline.gateway.transmits.history := by
  induction n with
  | zero => rfl
  | succ n ih => rw [transmits_polled, Fifo.history_relay, List.append_nil, ih]

end Draining

end Pipeline

section Delivered

variable {lib : Libraries} {codecs : Codecs} {gateway : GatewayHandler}
  {localAddr : SocketAddr} {clock : Instant} {reached : Pipeline} {moves : List PipelineMove}

/-- After polls enough the socket has been handed every STUN message that was queued. -/
theorem delivered_of_polls (hfresh : gateway.Fresh)
    (hrun : (pipelineMachine lib codecs).Run (.build gateway localAddr clock) moves reached)
    (writing : ℕ → Writing) :
    ∃ delivered, ∀ n, delivered ≤ n →
      (Pipeline.polled codecs writing reached n).Drained ∧
        (Pipeline.polled codecs writing reached n).dtls.taken.filter isStun =
          reached.gateway.transmits.history.filter isStun := by
  obtain ⟨drained, hdrained⟩ := Pipeline.drained_of_polls codecs writing reached
  refine ⟨drained, ?_⟩
  intro n hn
  have horder := Pipeline.inOrder_polled codecs writing (inOrder_of_fresh hfresh hrun) n
  have hstun := horder.history_stun
  rw [Pipeline.history_polled, (hdrained n hn).onTheWay_eq, List.filter_nil,
    List.append_nil] at hstun
  exact ⟨hdrained n hn, hstun.symm⟩

theorem delivered_of_polls_asked :
    ∃ delivered, ∀ n, delivered ≤ n →
      (Pipeline.polled plainCodecs (fun _ => plainWriting)
          (pipelineAfter plainLibraries plainCodecs plainPipeline asked) n).Drained ∧
        (Pipeline.polled plainCodecs (fun _ => plainWriting)
          (pipelineAfter plainLibraries plainCodecs plainPipeline asked) n).dtls.taken.filter
            isStun =
          (pipelineAfter plainLibraries plainCodecs plainPipeline
            asked).gateway.transmits.history.filter isStun :=
  delivered_of_polls fresh_plain
    (run_pipelineMoves plainLibraries plainCodecs plainPipeline asked) fun _ => plainWriting

end Delivered

end Sfu
end MediaServer
