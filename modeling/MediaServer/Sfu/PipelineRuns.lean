import MediaServer.Sfu.MediaPaths
import MediaServer.Sfu.PipelineReads

/-!
# Runs of the pipeline

The pipeline of a media port, called by its thread in any order, is the SFU with handlers
around it.  Every call is some calls of the gateway, and which they may be is said by
`Leads`: those of a datagram are what the handlers make of it, an offer, a timeout and a poll
are one call each.  So whatever holds in the runs of `sfu` holds in those of the pipeline
(`sfu_of_run`).

What a call can do is said once, in `call_of_fires`: it polls, or it only lets the pipeline
grow.
-/

namespace MediaServer
namespace Sfu

open Foundation Transcription

namespace Pipeline

/-- `build_pipeline`, with the interceptors that an endpoint would get. -/
def build (gateway : GatewayHandler) (localAddr : SocketAddr) (clock : Instant) : Pipeline where
  gateway := gateway
  chains _ := buildInterceptors clock registeredInterceptors
  localAddr := localAddr
  dtls := Fifo.empty
  sctp := Fifo.empty
  dataChannel := Fifo.empty
  interceptor := Fifo.empty

theorem quiet_build (gateway : GatewayHandler) (localAddr : SocketAddr) (clock : Instant) :
    (build gateway localAddr clock).Quiet := fun _ => Interceptor.silent_build clock

end Pipeline

/-- The calls of a list, one after the other. -/
def pipelineMoves (lib : Libraries) (codecs : Codecs) :
    Pipeline → List PipelineEvent → List PipelineMove
  | _, [] => []
  | pipeline, event :: events =>
      ⟨pipeline, event, (pipelineStep lib codecs pipeline event).1,
          (pipelineStep lib codecs pipeline event).2⟩ ::
        pipelineMoves lib codecs (pipelineStep lib codecs pipeline event).1 events

def pipelineAfter (lib : Libraries) (codecs : Codecs) (pipeline : Pipeline)
    (events : List PipelineEvent) : Pipeline :=
  events.foldl (fun pipeline event => (pipelineStep lib codecs pipeline event).1) pipeline

/-! ## A request and its answer -/

/-- Libraries that know the binding requests of two peers. -/
def plainCodecs : Codecs where
  decodeStun datagram :=
    let attributes := [.priority, .iceControlling, .useCandidate]
    if datagram = [1] then .ok ⟨[1], some "a:peer", attributes, [112]⟩
    else if datagram = [2] then .ok ⟨[2], some "b:peer", attributes, [112]⟩
    else .error "no message"
  encodeStun _ := [2]
  isRtcp _ := false
  messageType _ := .error "no type"
  dataChannelOpen _ := .error "no channel"
  dataChannelAck := .ok [2]

noncomputable def plainReading : Reading where
  moments _ := momentWith 2 ""
  dtls _ := .error (.library "no record")
  sctp _ _ := .error (.library "no association")
  decryptRtp _ _ := .error (.library "no packet")
  decryptRtcp _ _ := .error (.library "no packet")

/-- A packet with a key for its tag. -/
def protect (key : Bytes) (packet : Rtp.Packet) : Bytes := packet.serialise ++ key

def plainWriting : Writing where
  encrypt context event :=
    match event with
    | .rtp packet => .ok (protect context.masterKey packet)
    | _ => .error (.library "no packet")
  sctp _ := none
  dtls _ _ := .ok []

def plainPipeline : Pipeline := Pipeline.build plainGateway (socketAt 3478) 0

/-- A peer offers and nominates its port. -/
noncomputable def asked : List PipelineEvent :=
  [.offer (momentWith 1 "a") 1 10 ⟨.offer, dataOffer, none⟩,
    .read plainReading ⟨2, contextAt 5001, [1]⟩]

/-- The peer is answered. -/
noncomputable def answered : List PipelineEvent := asked ++ [.pollTransmit plainWriting]

/-! ## Two peers and a packet -/

/-- A handshake for every record, and packets with the key of their sender. -/
noncomputable def packetReading : Reading where
  moments _ := momentWith 2 ""
  dtls _ := .ok ([.handshakeComplete
    (some ⟨.aes128CmHmacSha1_80, .ok ⟨[1], [2], [3], [4]⟩⟩)], [])
  sctp _ _ := .ok []
  decryptRtp context datagram :=
    if datagram = protect context.masterKey (packetFrom 1) then .ok (packetFrom 1)
    else .error (.library "no packet")
  decryptRtcp _ _ := .error (.library "no packet")

/-- Two peers connect and get keys; one sends a packet, and the pipeline is polled. -/
noncomputable def packetSent : List PipelineEvent :=
  [.offer (momentWith 1 "a") 1 10 ⟨.offer, dataOffer, none⟩,
    .offer (momentWith 1 "b") 1 20 ⟨.offer, dataOffer, none⟩,
    .read packetReading ⟨2, contextAt 5001, [1]⟩,
    .read packetReading ⟨2, contextAt 5002, [2]⟩,
    .read packetReading ⟨3, contextAt 5001, [20]⟩,
    .read packetReading ⟨3, contextAt 5002, [20]⟩,
    .read packetReading ⟨4, contextAt 5001, protect [3] (packetFrom 1)⟩,
    .pollTransmit plainWriting, .pollTransmit plainWriting, .pollTransmit plainWriting]

/-- Two seconds pass, and the pipeline is polled once more. -/
noncomputable def packetReported : List PipelineEvent :=
  packetSent ++ [.timeout
    { now := 2000000000
      moment := momentWith 2000000000 ""
      dtls := []
      sctp := []
      streams := .inOrder [1] (by decide)
      floats := fun _ => (0, 0) }, .pollTransmit plainWriting]

/-! ## Calls of the pipeline as calls of its gateway -/

/-- The calls of the gateway that a call of the thread may lead to. -/
def Leads (codecs : Codecs) (states : ServerStates) :
    PipelineEvent → Moment × SfuEvent → Prop
  | .offer moment sessionId endpointId offer =>
      fun input => input = (moment, .offer sessionId endpointId offer)
  | .read reading datagram => Pipeline.Brings codecs reading states datagram
  | .timeout timeout => fun input => input = (timeout.moment, .timeout timeout.now)
  | .pollTransmit _ => fun input => input.2 = .pollWrite

section Runs

variable {lib : Libraries} {codecs : Codecs} {move : PipelineMove}

theorem pipeline_fires_iff :
    (pipelineMachine lib codecs).Fires move ↔
      pipelineStep lib codecs move.pre move.input = (move.post, move.outputs) := by
  simp [Machine.Fires, pipelineMachine]

/-- Every list of calls is taken. -/
theorem run_pipelineMoves (lib : Libraries) (codecs : Codecs) (pipeline : Pipeline)
    (events : List PipelineEvent) :
    (pipelineMachine lib codecs).Run pipeline (pipelineMoves lib codecs pipeline events)
      (pipelineAfter lib codecs pipeline events) := by
  induction events generalizing pipeline with
  | nil => exact .nil pipeline
  | cons event events ih =>
      have hfires : (pipelineMachine lib codecs).Fires ⟨pipeline, event,
          (pipelineStep lib codecs pipeline event).1,
          (pipelineStep lib codecs pipeline event).2⟩ := pipeline_fires_iff.mpr rfl
      exact .cons hfires (ih (pipelineStep lib codecs pipeline event).1)

/-- A call that is not a poll. -/
theorem grows_pipelineStep {pipeline : Pipeline} (hquiet : pipeline.Quiet)
    {event : PipelineEvent} (hpoll : ∀ writing, event ≠ .pollTransmit writing) :
    Pipeline.Grows lib (Leads codecs pipeline.states event) pipeline
      (pipelineStep lib codecs pipeline event).1 := by
  cases event with
  | offer moment sessionId endpointId offer =>
      have hstep : (sfu lib).Fires ⟨pipeline.gateway,
          (moment, .offer sessionId endpointId offer),
          (pipelineStep lib codecs pipeline (.offer moment sessionId endpointId offer)).1.gateway,
          (sfuStep lib pipeline.gateway (moment, .offer sessionId endpointId offer)).2⟩ := by
        rw [fires_iff]
        simp only [sfuStep, pipelineStep]
        cases (ServerStates.acceptOffer lib moment.orders moment.clock moment.fresh
          (sessionId, endpointId) none offer).outcome pipeline.gateway.serverStates with
        | mk answer states => cases answer <;> rfl
      exact {
        quiet := hquiet
        localAddr := rfl
        interceptor := rfl
        dataChannel := Pipeline.got_nothing _ _
        sctp := Pipeline.got_nothing _ _
        dtls := Pipeline.got_nothing _ _
        gateway := ⟨_, .single hstep, by simp [Leads]⟩ }
  | read reading datagram => exact Pipeline.serves_read datagram pipeline hquiet
  | timeout timeout => exact Pipeline.serves_handleTimeout timeout pipeline hquiet
  | pollTransmit writing => exact absurd rfl (hpoll writing)

/-- What a call can do: it polls, or it lets the pipeline grow. -/
theorem call_of_fires (hfires : (pipelineMachine lib codecs).Fires move)
    (hquiet : move.pre.Quiet) :
    (∃ writing, move.input = .pollTransmit writing ∧
      move.post = (move.pre.pollTransmit codecs writing).2.1 ∧
      move.outputs = (move.pre.pollTransmit codecs writing).2.2.map .exception ++
        (move.pre.pollTransmit codecs writing).1.toList.map .transmitted) ∨
    ((∀ writing, move.input ≠ .pollTransmit writing) ∧
      Pipeline.Grows lib (Leads codecs move.pre.states move.input) move.pre move.post) := by
  have hstep := pipeline_fires_iff.mp hfires
  by_cases hpoll : ∃ writing, move.input = .pollTransmit writing
  · obtain ⟨writing, hinput⟩ := hpoll
    rw [hinput] at hstep
    obtain ⟨hpost, houtputs⟩ := Prod.mk.inj hstep
    exact .inl ⟨writing, hinput, hpost.symm, houtputs.symm⟩
  · have hother : ∀ writing, move.input ≠ .pollTransmit writing :=
      fun writing hinput => hpoll ⟨writing, hinput⟩
    have hgrows : Pipeline.Grows lib (Leads codecs move.pre.states move.input) move.pre
        (pipelineStep lib codecs move.pre move.input).1 := grows_pipelineStep hquiet hother
    rw [hstep] at hgrows
    exact .inr ⟨hother, hgrows⟩

/-- The interceptors stay silent. -/
theorem quiet_of_fires (hfires : (pipelineMachine lib codecs).Fires move)
    (hquiet : move.pre.Quiet) : move.post.Quiet := by
  obtain ⟨writing, -, hpost, -⟩ | ⟨-, hgrows⟩ := call_of_fires hfires hquiet
  · rw [hpost]
    exact hquiet
  · exact hgrows.quiet

/-- Every call is some calls of the gateway. -/
theorem gateway_of_fires (hfires : (pipelineMachine lib codecs).Fires move)
    (hquiet : move.pre.Quiet) :
    ∃ seen, (sfu lib).Run move.pre.gateway seen move.post.gateway ∧
      ∀ inner ∈ seen, Leads codecs move.pre.states move.input inner.input := by
  obtain ⟨writing, hinput, hpost, -⟩ | ⟨-, hgrows⟩ := call_of_fires hfires hquiet
  · -- the moment of a poll is not read
    have hstep : (sfu lib).Fires ⟨move.pre.gateway, (momentWith 0 "", .pollWrite),
        move.post.gateway, (sfuStep lib move.pre.gateway (momentWith 0 "", .pollWrite)).2⟩ := by
      rw [fires_iff, hpost]
      simp only [sfuStep, Pipeline.pollTransmit]
      cases move.pre.gateway.pollWrite with
      | mk message gateway => cases message <;> rfl
    exact ⟨_, .single hstep, by simp [Leads, hinput]⟩
  · exact hgrows.gateway

variable {pipeline reached : Pipeline} {moves : List PipelineMove}

theorem quiet_of_run (hquiet : pipeline.Quiet)
    (hrun : (pipelineMachine lib codecs).Run pipeline moves reached) : reached.Quiet :=
  hrun.invariant Pipeline.Quiet (fun _ hfires hpre => quiet_of_fires hfires hpre) hquiet

theorem quiet_of_mem (hquiet : pipeline.Quiet)
    (hrun : (pipelineMachine lib codecs).Run pipeline moves reached) (hmem : move ∈ moves) :
    move.pre.Quiet := by
  obtain ⟨earlier, later, rfl⟩ := List.append_of_mem hmem
  exact quiet_of_run hquiet hrun.split_at.1

/-- A run of the pipeline, seen from its gateway, is a run of the SFU. -/
theorem sfu_of_run (hquiet : pipeline.Quiet)
    (hrun : (pipelineMachine lib codecs).Run pipeline moves reached) :
    ∃ steps, (sfu lib).Run pipeline.gateway steps.flatten reached.gateway ∧
      List.Forall₂ (fun move seen => ∀ inner ∈ seen,
        Leads codecs move.pre.states move.input inner.input) moves steps :=
  hrun.simulate_exists Pipeline.gateway fun _ hmem =>
    gateway_of_fires (hrun.fires_of_mem hmem) (quiet_of_mem hquiet hrun hmem)

theorem sfu_of_run_answered :
    ∃ steps, (sfu plainLibraries).Run plainGateway steps.flatten
        (pipelineAfter plainLibraries plainCodecs plainPipeline answered).gateway ∧
      List.Forall₂ (fun move seen => ∀ inner ∈ seen,
          Leads plainCodecs move.pre.states move.input inner.input)
        (pipelineMoves plainLibraries plainCodecs plainPipeline answered) steps :=
  sfu_of_run (Pipeline.quiet_build plainGateway (socketAt 3478) 0)
    (run_pipelineMoves plainLibraries plainCodecs plainPipeline answered)

end Runs

end Sfu
end MediaServer
