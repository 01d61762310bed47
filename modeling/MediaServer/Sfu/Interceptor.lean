import MediaServer.Sfu.ReceiverStream
import MediaServer.Sfu.Types

/-!
# Interceptors

`interceptor/` of the `sfu` crate.  Every endpoint has a chain of interceptors, built from
the registry of the configuration: one for sender reports, then one for receiver reports.
A chain is a list here, outermost first; the `NoOp` at its end has nothing to say.

No code adds a stream to an interceptor for receiver reports.  So a chain that was built
from the registry, whatever it has read, says of RTCP packets which are to be passed on,
and nothing else, ever (`Silent`).
-/

namespace MediaServer
namespace Sfu

open Foundation Transcription

inductive InterceptorEvent
  | inbound (msg : TaggedMessageEvent)
  | outbound (msg : TaggedMessageEvent)
  | error (error : Error)

structure ReceiverReport where
  interval : Duration
  eto : Instant
  streams : HashMap UInt32 ReceiverStream

inductive Interceptor
  | senderReport
  | receiverReport (report : ReceiverReport)

/-- What the registry builds interceptors from. -/
structure ReportBuilder where
  isRr : Bool
  interval : Option Duration
  deriving DecidableEq

namespace ReportBuilder

/-- `Duration::from_secs(1)` -/
def defaultInterval : Duration := 1000000000

def build (clock : Instant) (builder : ReportBuilder) : Interceptor :=
  if builder.isRr then
    .receiverReport
      { interval := builder.interval.getD defaultInterval
        eto := clock
        streams := HashMap.empty }
  else .senderReport

end ReportBuilder

/-- `configure_rtcp_reports` -/
def registeredInterceptors : List ReportBuilder := [⟨false, none⟩, ⟨true, none⟩]

/-- `Registry::build` -/
def buildInterceptors (clock : Instant) (registry : List ReportBuilder) : List Interceptor :=
  registry.map (·.build clock)

/-! ## Reading -/

namespace RtcpPacket

/-- Hop by hop reports are not passed on. -/
def isHopByHop : RtcpPacket → Bool
  | receiverReport _ _ => true
  | other .transportSpecificFeedback _ => true
  | _ => false

end RtcpPacket

namespace ReceiverReport

def noteSender (streams : HashMap UInt32 ReceiverStream) :
    RtcpPacket → HashMap UInt32 ReceiverStream
  | .senderReport ssrc ntpTime _ => streams.modify ssrc (·.processSenderReport ntpTime)
  | _ => streams

/-- Packets are noted in the streams of their sources. -/
def note (msg : TaggedMessageEvent) (report : ReceiverReport) : ReceiverReport :=
  match msg.message with
  | .rtp (.rtcp rtcpPackets) =>
      { report with streams := rtcpPackets.foldl noteSender report.streams }
  | .rtp (.rtp rtpPacket) =>
      { report with
        streams := report.streams.modify rtpPacket.ssrc
          (·.processRtp rtpPacket.sequenceNumber) }
  | _ => report

end ReceiverReport

namespace Interceptor

/-- What an interceptor makes of a message, before it hands it to the next. -/
def readOne (msg : TaggedMessageEvent) : Interceptor → Interceptor × List InterceptorEvent
  | senderReport =>
      match msg.message with
      | .rtp (.rtcp rtcpPackets) =>
          let inboundRtcpPackets := rtcpPackets.filter fun packet => !packet.isHopByHop
          if inboundRtcpPackets.isEmpty then (senderReport, [])
          else (senderReport, [.inbound { msg with message := .rtp (.rtcp inboundRtcpPackets) }])
      | _ => (senderReport, [])
  | receiverReport report => (receiverReport (report.note msg), [])

/-- The events of a chain, outermost interceptor first. -/
def read (msg : TaggedMessageEvent) : List Interceptor → List Interceptor × List InterceptorEvent
  | [] => ([], [])
  | interceptor :: next =>
      let (interceptor, events) := interceptor.readOne msg
      let (next, others) := read msg next
      (interceptor :: next, events ++ others)

/-! ## Timeouts -/

/-- A report for each stream and each four tuple.  `floats` are the jitter and the delay of
each stream. -/
def handleTimeoutOne (order : Enumeration UInt32) (floats : UInt32 → UInt32 × UInt32)
    (now : Instant) (fourTuples : List FourTuple) :
    Interceptor → Interceptor × List InterceptorEvent
  | senderReport => (senderReport, [])
  | receiverReport report =>
      if report.eto ≤ now then
        let generated := (report.streams.iter order).map fun (ssrc, stream) =>
          (ssrc, stream.generateReport (floats ssrc).1 (floats ssrc).2)
        (receiverReport
          { report with
            eto := now + report.interval
            streams := generated.foldl
              (fun streams (ssrc, _, stream) => streams.insert ssrc stream) report.streams },
          generated.flatMap fun (_, reception, stream) =>
            fourTuples.map fun fourTuple => .outbound
              { now
                transport := ⟨fourTuple.localAddr, fourTuple.peerAddr, none⟩
                message := .rtp (.rtcp [.receiverReport stream.receiverSsrc [reception]]) })
      else (receiverReport report, [])

def handleTimeout (order : Enumeration UInt32) (floats : UInt32 → UInt32 × UInt32)
    (now : Instant) (fourTuples : List FourTuple) :
    List Interceptor → List Interceptor × List InterceptorEvent
  | [] => ([], [])
  | interceptor :: next =>
      let (interceptor, events) := interceptor.handleTimeoutOne order floats now fourTuples
      let (next, others) := handleTimeout order floats now fourTuples next
      (interceptor :: next, events ++ others)

/-! ## Chains without streams -/

/-- A chain built from the registry whose interceptor for receiver reports knows no stream. -/
inductive Silent : List Interceptor → Prop
  | chain (report : ReceiverReport) (hstreams : report.streams = HashMap.empty) :
      Silent [senderReport, receiverReport report]

theorem silent_build (clock : Instant) :
    Silent (buildInterceptors clock registeredInterceptors) :=
  .chain _ rfl

/-- What is passed on of a message: RTCP packets that are not for one hop, if there are any. -/
def relayed (msg : TaggedMessageEvent) : List TaggedMessageEvent :=
  match msg.message with
  | .rtp (.rtcp rtcpPackets) =>
      let inboundRtcpPackets := rtcpPackets.filter fun packet => !packet.isHopByHop
      if inboundRtcpPackets.isEmpty then []
      else [{ msg with message := .rtp (.rtcp inboundRtcpPackets) }]
  | _ => []

theorem modify_empty (ssrc : UInt32) (f : ReceiverStream → ReceiverStream) :
    (HashMap.empty : HashMap UInt32 ReceiverStream).modify ssrc f = HashMap.empty := by
  apply HashMap.ext_get
  intro key
  simp

/-- Without streams there is nothing to note. -/
theorem note_of_no_stream (msg : TaggedMessageEvent) {report : ReceiverReport}
    (hstreams : report.streams = HashMap.empty) :
    (report.note msg).streams = HashMap.empty := by
  have hfold : ∀ rtcpPackets : List RtcpPacket,
      rtcpPackets.foldl ReceiverReport.noteSender HashMap.empty = HashMap.empty := by
    intro rtcpPackets
    induction rtcpPackets with
    | nil => rfl
    | cons rtcpPacket rest ih =>
        have hfirst : ReceiverReport.noteSender HashMap.empty rtcpPacket = HashMap.empty := by
          cases rtcpPacket with
          | senderReport ssrc ntpTime content =>
              exact modify_empty ssrc fun stream => stream.processSenderReport ntpTime
          | _ => rfl
        rw [List.foldl_cons, hfirst, ih]
  unfold ReceiverReport.note
  split
  · rw [hstreams]
    exact hfold _
  · next rtpPacket _ =>
      rw [hstreams]
      exact modify_empty rtpPacket.ssrc fun stream => stream.processRtp rtpPacket.sequenceNumber
  · exact hstreams

/-- A silent chain relays, and stays silent. -/
theorem Silent.read {chain : List Interceptor} (hsilent : Silent chain)
    (msg : TaggedMessageEvent) :
    (Interceptor.read msg chain).2 = (relayed msg).map .inbound ∧
      Silent (Interceptor.read msg chain).1 := by
  obtain ⟨report, hstreams⟩ := hsilent
  have hnote := note_of_no_stream msg hstreams
  cases hmsg : msg.message with
  | rtp event =>
      cases event with
      | rtcp rtcpPackets =>
          simp only [Interceptor.read, readOne, relayed, hmsg]
          split
          · exact ⟨rfl, .chain _ hnote⟩
          · exact ⟨rfl, .chain _ hnote⟩
      | raw bytes => simpa [Interceptor.read, readOne, relayed, hmsg] using Silent.chain _ hnote
      | rtp packet => simpa [Interceptor.read, readOne, relayed, hmsg] using Silent.chain _ hnote
  | stun event => simpa [Interceptor.read, readOne, relayed, hmsg] using Silent.chain _ hnote
  | dtls event => simpa [Interceptor.read, readOne, relayed, hmsg] using Silent.chain _ hnote

/-- A silent chain has no reports to send, and stays silent. -/
theorem Silent.handleTimeout {chain : List Interceptor} (hsilent : Silent chain)
    (order : Enumeration UInt32) (floats : UInt32 → UInt32 × UInt32) (now : Instant)
    (fourTuples : List FourTuple) :
    (Interceptor.handleTimeout order floats now fourTuples chain).2 = [] ∧
      Silent (Interceptor.handleTimeout order floats now fourTuples chain).1 := by
  obtain ⟨report, hstreams⟩ := hsilent
  have hnothing : report.streams.iter order = [] := by
    rw [List.eq_nil_iff_forall_not_mem]
    rintro ⟨ssrc, stream⟩ hmem
    rw [HashMap.mem_iter, hstreams] at hmem
    simp at hmem
  simp only [Interceptor.handleTimeout, handleTimeoutOne]
  split
  · rw [hnothing]
    exact ⟨rfl, .chain _ hstreams⟩
  · exact ⟨rfl, .chain _ hstreams⟩

end Interceptor

end Sfu
end MediaServer
