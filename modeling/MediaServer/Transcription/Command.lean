import Mathlib.Data.List.Basic

/-!
# Data of the transcription subsystem

The records exchanged between the media workers, the transcription worker and
the backends, as `transcription/mod.rs`, `transcription/handler.rs` and
`transcription/manager.rs` declare them.  The fields `auto_reconnect` and
`max_reconnect_attempts` of `TranscriptionConfig` are not kept: no function of
the server reads them.
-/

namespace MediaServer
namespace Transcription

/-- `(session_id, endpoint_id)`, the key of every map of the subsystem. -/
abbrev SessionKey := UInt64 × UInt64

/-- `Vec<u8>` -/
abbrev Bytes := List UInt8

/-- `Vec<i16>`, PCM samples. -/
abbrev Pcm := List Int16

inductive TranscriptionBackendConfig
  | none
  | simulStreaming (addresses : List String)
  | openAi (apiKey : String) (baseUrl model : Option String)
  deriving DecidableEq

/-- Configuration for the transcription manager; the timeout is in seconds. -/
structure TranscriptionConfig where
  backend : TranscriptionBackendConfig
  connectTimeout : Nat
  deriving DecidableEq

namespace TranscriptionConfig

def default : TranscriptionConfig := ⟨.none, 10⟩

/-- Multiple server addresses for load balancing. -/
def withServers (serverAddresses : List String) : TranscriptionConfig :=
  { default with backend := .simulStreaming serverAddresses }

/-- A single server address (shim for compatibility). -/
def new (serverAddr : String) : TranscriptionConfig := withServers [serverAddr]

def withOpenai (apiKey : String) (baseUrl model : Option String) : TranscriptionConfig :=
  { default with backend := .openAi apiKey baseUrl model }

/-- No backend. -/
def none : TranscriptionConfig := { default with backend := .none }

end TranscriptionConfig

/-- Transcription result from SimulStreaming or OpenAI; times in milliseconds. -/
structure TranscriptionSegment where
  startMs : UInt64
  endMs : UInt64
  text : String
  deriving DecidableEq

/-- What `poll_results` yields for a segment: session, endpoint and the segment. -/
abbrev PolledResult := UInt64 × UInt64 × TranscriptionSegment

/-- Audio data to be sent to the transcription worker thread. -/
structure AudioPacket where
  sessionId : UInt64
  endpointId : UInt64
  opusData : Bytes
  timestamp : UInt32
  ssrc : UInt32
  deriving DecidableEq

/-- The pair a packet is labelled with. -/
def AudioPacket.key (packet : AudioPacket) : SessionKey := (packet.sessionId, packet.endpointId)

/-- Command to control the transcription worker. -/
inductive TranscriptionCommand
  | startSession (sessionId endpointId : UInt64) (config : Option TranscriptionConfig)
  | stopSession (sessionId endpointId : UInt64)
  | audio (packet : AudioPacket)
  | shutdown
  deriving DecidableEq

/-- The pair a command names. -/
def TranscriptionCommand.key : TranscriptionCommand → Option SessionKey
  | .startSession sessionId endpointId _ => some (sessionId, endpointId)
  | .stopSession sessionId endpointId => some (sessionId, endpointId)
  | .audio packet => some packet.key
  | .shutdown => none

end Transcription
end MediaServer
