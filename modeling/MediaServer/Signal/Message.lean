import MediaServer.Transcription.Extractor

/-!
# Signaling messages and their handlers

The media worker's side of `signal/mod.rs`.  The WebRTC stack behind an offer
(JSON parsing, `ServerStates::accept_offer`, JSON rendering) enters as the
parameter `acceptOffer`: from the server states and an offer it yields new
server states and either the answer or the text of the error.

Every payload of a message is built from a string, so `offer_sdp`,
`answer_sdp` and `reason` are kept as the strings whose bytes they are; reading
them back with `String::from_utf8` cannot fail.
-/

namespace MediaServer
namespace Signal

open Transcription

inductive SignalingProtocolMessage
  | ok (sessionId endpointId : UInt64)
  | err (sessionId endpointId : UInt64) (reason : String)
  | offer (sessionId endpointId : UInt64) (offerSdp : String)
  | answer (sessionId endpointId : UInt64) (answerSdp : String)
  | leave (sessionId endpointId : UInt64)
  /-- register an SSRC for transcription -/
  | registerSsrc (ssrc : UInt32) (sessionId endpointId : UInt64)
  /-- enable transcription for a session (used internally) -/
  | enableTranscription (sessionId endpointId : UInt64)
  /-- disable transcription for a session (used internally) -/
  | disableTranscription (sessionId endpointId : UInt64)
  deriving DecidableEq

/-- The session and endpoint a message names. -/
def SignalingProtocolMessage.key : SignalingProtocolMessage → SessionKey
  | .ok sessionId endpointId | .err sessionId endpointId _ => (sessionId, endpointId)
  | .offer sessionId endpointId _ | .answer sessionId endpointId _ => (sessionId, endpointId)
  | .leave sessionId endpointId | .registerSsrc _ sessionId endpointId => (sessionId, endpointId)
  | .enableTranscription sessionId endpointId => (sessionId, endpointId)
  | .disableTranscription sessionId endpointId => (sessionId, endpointId)

/-- `accept_offer` with the JSON conversions around it. -/
abbrev AcceptOffer (σ : Type) := σ → UInt64 → UInt64 → String → σ × Except String String

/-- What a handler leaves behind: the server states, the extractor it was lent
and the message it sends on the request's response channel, if it sends one. -/
structure Handled (σ : Type) where
  serverStates : σ
  audioExtractor : Option RtpAudioExtractor
  reply : Option SignalingProtocolMessage

variable {σ : Type}

def handleOfferMessage (acceptOffer : AcceptOffer σ) (serverStates : σ)
    (sessionId endpointId : UInt64) (offer : String) : σ × SignalingProtocolMessage :=
  match acceptOffer serverStates sessionId endpointId offer with
  | (states, .ok answerSdp) => (states, .answer sessionId endpointId answerSdp)
  | (states, .error reason) => (states, .err sessionId endpointId reason)

/-- The handler of a leave only logs: its `try_handle` is always `Ok`. -/
def handleLeaveMessage (sessionId endpointId : UInt64) : SignalingProtocolMessage :=
  let tryHandle : Except String Unit := .ok ()
  match tryHandle with
  | .ok () => .ok sessionId endpointId
  | .error reason => .err sessionId endpointId reason

/-- Handle signaling with optional audio extractor for SSRC registration. -/
def handleSignalingMessageWithExtractor (acceptOffer : AcceptOffer σ) (serverStates : σ)
    (request : SignalingProtocolMessage) (audioExtractor : Option RtpAudioExtractor) :
    Handled σ :=
  match request with
  | .offer sessionId endpointId offerSdp =>
      let (states, reply) :=
        handleOfferMessage acceptOffer serverStates sessionId endpointId offerSdp
      ⟨states, audioExtractor, some reply⟩
  | .leave sessionId endpointId =>
      ⟨serverStates, audioExtractor, some (handleLeaveMessage sessionId endpointId)⟩
  | .registerSsrc ssrc sessionId endpointId =>
      ⟨serverStates, audioExtractor.map (·.registerSsrc ssrc sessionId endpointId), none⟩
  | .enableTranscription sessionId endpointId =>
      ⟨serverStates,
        audioExtractor.map (·.enableTranscriptionForSession sessionId endpointId), none⟩
  | .disableTranscription sessionId endpointId =>
      ⟨serverStates,
        audioExtractor.map (·.disableTranscriptionForSession sessionId endpointId), none⟩
  | .ok sessionId endpointId | .err sessionId endpointId _ | .answer sessionId endpointId _ =>
      ⟨serverStates, audioExtractor, some (.err sessionId endpointId "Invalid Request")⟩

/-- What a message does to the extractor of the worker that handles it. -/
def updateExtractor (extractor : RtpAudioExtractor) : SignalingProtocolMessage → RtpAudioExtractor
  | .registerSsrc ssrc sessionId endpointId => extractor.registerSsrc ssrc sessionId endpointId
  | .enableTranscription sessionId endpointId =>
      extractor.enableTranscriptionForSession sessionId endpointId
  | .disableTranscription sessionId endpointId =>
      extractor.disableTranscriptionForSession sessionId endpointId
  | _ => extractor

/-- A handler that is lent an extractor gives it back updated. -/
theorem handled_audioExtractor (acceptOffer : AcceptOffer σ) (serverStates : σ)
    (request : SignalingProtocolMessage) (extractor : RtpAudioExtractor) :
    (handleSignalingMessageWithExtractor acceptOffer serverStates request
      (some extractor)).audioExtractor = some (updateExtractor extractor request) := by
  cases request <;> rfl

/-- Only three kinds of message touch the extractor. -/
theorem updateExtractor_offer (extractor : RtpAudioExtractor) (sessionId endpointId : UInt64)
    (offerSdp : String) :
    updateExtractor extractor (.offer sessionId endpointId offerSdp) = extractor := rfl

/-- No message but a registration of the SSRC itself changes its entry. -/
theorem ssrcMap_updateExtractor_of_ne {extractor : RtpAudioExtractor}
    {request : SignalingProtocolMessage} {ssrc : UInt32}
    (hother : ∀ sessionId endpointId, request ≠ .registerSsrc ssrc sessionId endpointId) :
    (updateExtractor extractor request).ssrcMap.get ssrc = extractor.ssrcMap.get ssrc := by
  cases request with
  | registerSsrc registered sessionId endpointId =>
      have hne : ssrc ≠ registered := by
        rintro rfl
        exact hother sessionId endpointId rfl
      simp [updateExtractor, hne]
  | ok _ _ | err _ _ _ | offer _ _ _ | answer _ _ _ | leave _ _ => rfl
  | enableTranscription _ _ => rfl
  | disableTranscription _ _ => rfl

end Signal
end MediaServer
