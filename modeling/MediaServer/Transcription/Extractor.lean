import MediaServer.Foundation.HashMap
import MediaServer.Transcription.Command

/-!
# The state of `RtpAudioExtractor`

The extractor of a media worker remembers which SSRC speaks for which endpoint,
which endpoint new SSRCs are credited to, and for which endpoints transcription
is enabled.  Its operations touch these three pieces of state independently,
and the lemmas below say for each operation what it does to each piece.
-/

namespace MediaServer
namespace Transcription

open Foundation

/-- RTP packet parser state for extracting audio. -/
structure RtpAudioExtractor where
  /-- SSRC to `(session_id, endpoint_id)` mapping -/
  ssrcMap : HashMap UInt32 SessionKey
  /-- audio payload types to intercept -/
  audioPayloadTypes : List UInt8
  /-- default session/endpoint for auto-learning (if set) -/
  defaultSession : Option SessionKey
  /-- auto-learn SSRCs from the first audio packets -/
  autoLearn : Bool
  /-- sessions that have transcription enabled -/
  transcriptionSessions : HashMap SessionKey Bool

namespace RtpAudioExtractor

/-- `RtpAudioExtractor::new` -/
def new : RtpAudioExtractor where
  ssrcMap := HashMap.empty
  audioPayloadTypes := [111, 109]
  defaultSession := none
  autoLearn := false
  transcriptionSessions := HashMap.empty

/-- An extractor that auto-learns SSRCs. -/
def withAutoLearn (defaultSessionId defaultEndpointId : UInt64) : RtpAudioExtractor where
  ssrcMap := HashMap.empty
  audioPayloadTypes := [111, 109]
  defaultSession := some (defaultSessionId, defaultEndpointId)
  autoLearn := true
  transcriptionSessions := HashMap.empty

/-- Enable auto-learning with a default session. -/
def setAutoLearn (extractor : RtpAudioExtractor) (sessionId endpointId : UInt64) :
    RtpAudioExtractor :=
  { extractor with defaultSession := some (sessionId, endpointId), autoLearn := true }

/-- Mark a session as having transcription enabled. -/
def enableTranscriptionForSession (extractor : RtpAudioExtractor)
    (sessionId endpointId : UInt64) : RtpAudioExtractor :=
  { extractor with
    transcriptionSessions :=
      extractor.transcriptionSessions.insert (sessionId, endpointId) true
    -- also set as default for auto-learning
    defaultSession := some (sessionId, endpointId)
    autoLearn := true }

/-- Disable transcription for a session. -/
def disableTranscriptionForSession (extractor : RtpAudioExtractor)
    (sessionId endpointId : UInt64) : RtpAudioExtractor :=
  { extractor with
    transcriptionSessions := extractor.transcriptionSessions.remove (sessionId, endpointId) }

/-- Check if a session has transcription enabled. -/
def isTranscriptionEnabled (extractor : RtpAudioExtractor) (sessionId endpointId : UInt64) :
    Bool :=
  (extractor.transcriptionSessions.get (sessionId, endpointId)).getD false

/-- Register an SSRC for a session/endpoint. -/
def registerSsrc (extractor : RtpAudioExtractor) (ssrc : UInt32)
    (sessionId endpointId : UInt64) : RtpAudioExtractor :=
  { extractor with ssrcMap := extractor.ssrcMap.insert ssrc (sessionId, endpointId) }

/-- Unregister an SSRC. -/
def unregisterSsrc (extractor : RtpAudioExtractor) (ssrc : UInt32) : RtpAudioExtractor :=
  { extractor with ssrcMap := extractor.ssrcMap.remove ssrc }

section Lookups

variable (extractor : RtpAudioExtractor) (sessionId endpointId : UInt64) (ssrc : UInt32)

@[simp] theorem ssrcMap_new : new.ssrcMap = HashMap.empty := rfl

@[simp] theorem defaultSession_new : new.defaultSession = none := rfl

@[simp] theorem isTranscriptionEnabled_new :
    new.isTranscriptionEnabled sessionId endpointId = false := by
  simp [isTranscriptionEnabled, new]

@[simp] theorem ssrcMap_enable :
    (extractor.enableTranscriptionForSession sessionId endpointId).ssrcMap =
      extractor.ssrcMap := rfl

@[simp] theorem defaultSession_enable :
    (extractor.enableTranscriptionForSession sessionId endpointId).defaultSession =
      some (sessionId, endpointId) := rfl

@[simp] theorem isTranscriptionEnabled_enable (session endpoint : UInt64) :
    (extractor.enableTranscriptionForSession sessionId endpointId).isTranscriptionEnabled
        session endpoint =
      (decide ((session, endpoint) = (sessionId, endpointId)) ||
        extractor.isTranscriptionEnabled session endpoint) := by
  by_cases hkey : (session, endpoint) = (sessionId, endpointId) <;>
    simp [isTranscriptionEnabled, enableTranscriptionForSession, hkey]

@[simp] theorem ssrcMap_disable :
    (extractor.disableTranscriptionForSession sessionId endpointId).ssrcMap =
      extractor.ssrcMap := rfl

@[simp] theorem defaultSession_disable :
    (extractor.disableTranscriptionForSession sessionId endpointId).defaultSession =
      extractor.defaultSession := rfl

@[simp] theorem isTranscriptionEnabled_disable (session endpoint : UInt64) :
    (extractor.disableTranscriptionForSession sessionId endpointId).isTranscriptionEnabled
        session endpoint =
      (!decide ((session, endpoint) = (sessionId, endpointId)) &&
        extractor.isTranscriptionEnabled session endpoint) := by
  by_cases hkey : (session, endpoint) = (sessionId, endpointId) <;>
    simp [isTranscriptionEnabled, disableTranscriptionForSession, hkey]

@[simp] theorem ssrcMap_registerSsrc :
    (extractor.registerSsrc ssrc sessionId endpointId).ssrcMap =
      extractor.ssrcMap.insert ssrc (sessionId, endpointId) := rfl

@[simp] theorem defaultSession_registerSsrc :
    (extractor.registerSsrc ssrc sessionId endpointId).defaultSession =
      extractor.defaultSession := rfl

@[simp] theorem isTranscriptionEnabled_registerSsrc (session endpoint : UInt64) :
    (extractor.registerSsrc ssrc sessionId endpointId).isTranscriptionEnabled session endpoint =
      extractor.isTranscriptionEnabled session endpoint := rfl

end Lookups

end RtpAudioExtractor
end Transcription
end MediaServer
