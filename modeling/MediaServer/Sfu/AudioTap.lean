import MediaServer.Sfu.MediaPaths

/-!
# What the audio channel gets over a run

The main loop of a media worker is modelled with packets that arrive at the gateway and an
audio channel that gets what the gateway taps of them.  Here both are those of the SFU.  An
RTP packet that the gateway reads is an arrival, and its endpoint is the one whose transport
the server finds at that moment (`arrivalOf`).  Over a run the channel gets what the worker
expects of the arrivals, in their order and nothing else, and without a channel nothing is
tapped (`audioTx_of_run`).
-/

namespace MediaServer
namespace Sfu

open Foundation Transcription

/-- The RTP packet that a call reads, with the endpoint of its transport. -/
def arrivalOf (move : SfuMove) : Option Signal.RtpArrival :=
  match move.input.2 with
  | .read msg =>
      match msg.message with
      | .rtp (.rtp packet) => some
          { endpoint := (move.pre.serverStates.getMutTransport
              msg.transport.fourTuple).toOption.map Prod.fst
            packet := Signal.packetParts packet }
      | _ => none
  | _ => none

namespace GatewayHandler

variable {lib : Libraries} {moment : Moment} {msg : TaggedMessageEvent}

/-- Nothing but an RTP packet is tapped. -/
theorem within_audioTx_tryRead (hmsg : ∀ packet, msg.message ≠ .rtp (.rtp packet)) :
    Fallible.Within (Frame.fixing GatewayHandler.audioTx) (tryRead lib moment msg) := by
  unfold tryRead
  split
  · exact within_fixing_onStates (fun _ _ => rfl) _
  · exact within_fixing_onStates (fun _ _ => rfl) _
  · rename_i packet hpacket
    exact absurd hpacket (hmsg packet)
  · apply Fallible.Within.bind (within_fixing_onStates (fun _ _ => rfl) _)
    intro _
    exact within_fixing_forward _ _ _ _
  · exact Fallible.Within.pure _

/-- An RTP packet is tapped when its transport is found, whether or not it is passed on. -/
theorem audioTx_tryRead_packet {packet : Rtp.Packet} (hmsg : msg.message = .rtp (.rtp packet))
    (gateway : GatewayHandler) :
    ((tryRead lib moment msg).after gateway).audioTx =
      gateway.audioTx.map (· ++ (Signal.tapAudio
        ⟨(gateway.serverStates.getMutTransport msg.transport.fourTuple).toOption.map Prod.fst,
          Signal.packetParts packet⟩).toList) := by
  rw [Fallible.after, outcome_tryRead_media lib moment hmsg (Or.inl ⟨packet, hmsg⟩)]
  cases gateway.serverStates.getMutTransport msg.transport.fourTuple with
  | error error => simp [Except.toOption, Signal.tapAudio]
  | ok found => rfl

end GatewayHandler

variable {lib : Libraries}

/-- One call sends the channel what is tapped of the packet it reads. -/
theorem audioTx_of_fires {move : SfuMove} (hfires : (sfu lib).Fires move) :
    move.post.audioTx =
      move.pre.audioTx.map (· ++ (arrivalOf move).toList.filterMap Signal.tapAudio) := by
  obtain ⟨gateway, ⟨moment, event⟩, post, outputs⟩ := move
  have hpost := post_of_fires hfires
  dsimp only at hpost
  subst hpost
  cases event with
  | read msg =>
      have hafter : (sfuStep lib gateway (moment, .read msg)).1.audioTx =
          ((GatewayHandler.tryRead lib moment msg).after gateway).audioTx := by
        simp only [sfuStep, GatewayHandler.handleRead, Fallible.after]
        cases (GatewayHandler.tryRead lib moment msg).outcome gateway with
        | mk answer next => cases answer <;> rfl
      show (sfuStep lib gateway (moment, .read msg)).1.audioTx = _
      rw [hafter]
      -- RTCP keeps a transport alive too, but is never tapped
      by_cases hmsg : ∃ packet, msg.message = .rtp (.rtp packet)
      · obtain ⟨packet, hmsg⟩ := hmsg
        rw [GatewayHandler.audioTx_tryRead_packet hmsg]
        simp only [arrivalOf, hmsg, Option.toList_some, List.filterMap_cons, List.filterMap_nil]
        cases Signal.tapAudio _ <;> rfl
      · have hnone : arrivalOf ⟨gateway, (moment, .read msg),
            (sfuStep lib gateway (moment, .read msg)).1, outputs⟩ = none := by
          simp only [arrivalOf]
          split
          · rename_i packet hpacket
            exact absurd ⟨packet, hpacket⟩ hmsg
          · rfl
        have hsame : ((GatewayHandler.tryRead lib moment msg).after gateway).audioTx =
            gateway.audioTx :=
          GatewayHandler.within_audioTx_tryRead (fun packet hpacket => hmsg ⟨packet, hpacket⟩)
            gateway
        rw [hsame, hnone]
        simp
  | offer sessionId endpointId offer =>
      simp only [sfuStep, arrivalOf]
      split <;> simp
  | dtls transport read =>
      simp only [sfuStep, arrivalOf]
      split <;> simp
  | timeout now =>
      have hsame : (gateway.handleTimeout moment.orders now).audioTx = gateway.audioTx := by
        unfold GatewayHandler.handleTimeout
        split <;> rfl
      simp [sfuStep, arrivalOf, hsame]
  | pollWrite =>
      have hsame : gateway.pollWrite.2.audioTx = gateway.audioTx := by
        unfold GatewayHandler.pollWrite
        split <;> rfl
      simp only [sfuStep, arrivalOf]
      split
      · rename_i hpoll
        rw [hpoll] at hsame
        simpa using hsame
      · rename_i hpoll
        rw [hpoll] at hsame
        simpa using hsame

/-- A peer connects, and two packets come, one of them from elsewhere. -/
noncomputable def packetsRead : List (Moment × SfuEvent) :=
  arrival ++ [(momentWith 3 "", .read ⟨3, contextAt 5001, .rtp (.rtp (packetFrom 1))⟩),
    (momentWith 3 "", .read ⟨3, contextAt 5002, .rtp (.rtp (packetFrom 2))⟩)]

section Runs

variable {start final : GatewayHandler} {moves : List SfuMove}

/-- The channel gets what is tapped of the packets that arrive, in their order. -/
theorem audioTx_of_run (hrun : (sfu lib).Run start moves final) :
    final.audioTx =
      start.audioTx.map (· ++ (moves.filterMap arrivalOf).filterMap Signal.tapAudio) := by
  induction hrun with
  | nil state => simp
  | @cons move moves final hfires _ ih =>
      rw [ih, audioTx_of_fires hfires, Option.map_map]
      congr 1
      funext sent
      cases harrival : arrivalOf move with
      | none => simp [harrival]
      | some arrival => cases htap : Signal.tapAudio arrival <;> simp [harrival, htap]

theorem audioTx_of_run_packetsRead :
    (sfuAfter plainLibraries tappedGateway packetsRead).audioTx = some [⟨1, 1, 1, 111, [7]⟩] := by
  rw [audioTx_of_run (run_sfuMoves plainLibraries tappedGateway packetsRead)]
  decide +kernel

end Runs

end Sfu
end MediaServer
