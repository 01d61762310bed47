import MediaServer.Foundation.Machine
import MediaServer.Sfu.Gateway

/-!
# The SFU as a machine

The handlers of the pipeline share the server states.  Between two of their calls
nothing else runs, so a run of the SFU is a sequence of calls: an offer from the signaling
thread, a DTLS record, a message that reaches the gateway, a timeout, a poll for output.
What the DTLS library makes of a record comes with the event.
-/

namespace MediaServer
namespace Sfu

open Foundation Transcription

/-! ## DTLS -/

/-- `dtls::extension::extension_use_srtp::SrtpProtectionProfile` -/
inductive SrtpProtectionProfile
  | aes128CmHmacSha1_80
  | aeadAes128Gcm
  | unsupported
  deriving DecidableEq

structure SessionKeys where
  localMasterKey : Bytes
  localMasterSalt : Bytes
  remoteMasterKey : Bytes
  remoteMasterSalt : Bytes
  deriving DecidableEq

/-- The state of a DTLS connection after its handshake. -/
structure DtlsState where
  srtpProtectionProfile : SrtpProtectionProfile
  /-- `extract_session_keys_from_dtls` -/
  sessionKeys : Except String SessionKeys

/-- `dtls::endpoint::EndpointEvent`; a completed handshake comes with its connection state,
if that is found. -/
inductive DtlsEvent
  | handshakeComplete (state : Option DtlsState)
  | applicationData (message : Bytes)

namespace DtlsHandler

/-- `DEFAULT_SESSION_SRTP_REPLAY_PROTECTION_WINDOW` and the same for SRTCP. -/
def defaultReplayProtection : Nat × Nat := (64, 64)

/-- The SRTP contexts of a finished handshake; only the remote one protects from replays. -/
def updateSrtpContexts (state : DtlsState) : Except Error (SrtpContext × SrtpContext) := do
  let profile ← match state.srtpProtectionProfile with
    | .aes128CmHmacSha1_80 => pure ProtectionProfile.aes128CmHmacSha1_80
    | .aeadAes128Gcm => pure ProtectionProfile.aeadAes128Gcm
    | .unsupported => throw .errNoSuchSrtpProfile
  let keys ← state.sessionKeys.mapError .library
  return (⟨keys.localMasterKey, keys.localMasterSalt, profile, none⟩,
    ⟨keys.remoteMasterKey, keys.remoteMasterSalt, profile, some defaultReplayProtection⟩)

/-- The contexts and the application data of the events of a record. -/
def collect : List DtlsEvent → Except Error (List (SrtpContext × SrtpContext) × List Bytes)
  | [] => .ok ([], [])
  | .handshakeComplete (some state) :: events => do
      let contexts ← updateSrtpContexts state
      let (rest, messages) ← collect events
      return (contexts :: rest, messages)
  | .handshakeComplete none :: events => collect events
  | .applicationData message :: events => do
      let (contexts, messages) ← collect events
      return (contexts, message :: messages)

/-- The closure `try_read` of `handle_read`. -/
def tryRead (fourTuple : FourTuple) (read : Except Error (List DtlsEvent)) :
    Fallible Error ServerStates (List Bytes) := do
  let states ← get
  let (ids, _) ← Fallible.ofExcept (states.getMutTransport fourTuple)
  let events ← Fallible.ofExcept read
  let (contexts, messages) ← Fallible.ofExcept (collect events)
  contexts.forM fun (localContext, remoteContext) =>
    modify (·.modifyTransport ids fourTuple (·.setSrtpContexts localContext remoteContext))
  return messages

/-- Application data is passed on; a fatal alert removes the transport; every other error is
an exception. -/
def handleRead (fourTuple : FourTuple) (read : Except Error (List DtlsEvent))
    (states : ServerStates) : ServerStates × Except Error (List Bytes) :=
  match (tryRead fourTuple read).outcome states with
  | (.ok messages, states) => (states, .ok messages)
  | (.error .errAlertFatalOrClose, states) => (states.removeTransport fourTuple, .ok [])
  | (.error error, states) => (states, .error error)

end DtlsHandler

/-! ## The machine -/

/-- One call. -/
inductive SfuEvent
  /-- an offer from the signaling thread -/
  | offer (sessionId : SessionId) (endpointId : EndpointId) (offer : RTCSessionDescription)
  /-- a DTLS record, and what the library makes of it -/
  | dtls (transport : TransportContext) (read : Except Error (List DtlsEvent))
  /-- a message reaches the gateway -/
  | read (msg : TaggedMessageEvent)
  | timeout (now : Instant)
  | pollWrite

/-- What a call hands out. -/
inductive SfuOutput
  | answered (answer : RTCSessionDescription)
  | decrypted (message : Bytes)
  | exception (error : Error)
  | written (message : TaggedMessageEvent)

/-- One call on the gateway and the states behind it. -/
def sfuStep (lib : Libraries) (gateway : GatewayHandler) :
    Moment × SfuEvent → GatewayHandler × List SfuOutput
  | (moment, .offer sessionId endpointId offer) =>
      match (ServerStates.acceptOffer lib moment.orders moment.clock moment.fresh
          (sessionId, endpointId) none offer).outcome gateway.serverStates with
      | (.ok answer, states) => ({ gateway with serverStates := states }, [.answered answer])
      | (.error error, states) => ({ gateway with serverStates := states }, [.exception error])
  | (_, .dtls transport read) =>
      match DtlsHandler.handleRead transport.fourTuple read gateway.serverStates with
      | (states, .ok messages) =>
          ({ gateway with serverStates := states }, messages.map .decrypted)
      | (states, .error error) => ({ gateway with serverStates := states }, [.exception error])
  | (moment, .read msg) =>
      match gateway.handleRead lib moment msg with
      | (gateway, none) => (gateway, [])
      | (gateway, some error) => (gateway, [.exception error])
  | (moment, .timeout now) => (gateway.handleTimeout moment.orders now, [])
  | (_, .pollWrite) =>
      match gateway.pollWrite with
      | (none, gateway) => (gateway, [])
      | (some message, gateway) => (gateway, [.written message])

/-- The SFU: every call is taken in every state. -/
def sfu (lib : Libraries) : Machine GatewayHandler (Moment × SfuEvent) SfuOutput where
  step gateway input := some (sfuStep lib gateway input)

abbrev SfuMove := Transition GatewayHandler (Moment × SfuEvent) SfuOutput

variable {lib : Libraries} {move : SfuMove}

theorem fires_iff :
    (sfu lib).Fires move ↔ sfuStep lib move.pre move.input = (move.post, move.outputs) := by
  simp [Machine.Fires, sfu]

/-- The states after a call. -/
theorem post_of_fires (hfires : (sfu lib).Fires move) :
    move.post = (sfuStep lib move.pre move.input).1 := by
  rw [fires_iff.mp hfires]

/-- The calls of a list, one after the other. -/
def sfuMoves (lib : Libraries) : GatewayHandler → List (Moment × SfuEvent) → List SfuMove
  | _, [] => []
  | gateway, input :: inputs =>
      ⟨gateway, input, (sfuStep lib gateway input).1, (sfuStep lib gateway input).2⟩ ::
        sfuMoves lib (sfuStep lib gateway input).1 inputs

def sfuAfter (lib : Libraries) (gateway : GatewayHandler) (inputs : List (Moment × SfuEvent)) :
    GatewayHandler :=
  inputs.foldl (fun gateway input => (sfuStep lib gateway input).1) gateway

/-- Every list of calls is taken. -/
theorem run_sfuMoves (lib : Libraries) (gateway : GatewayHandler)
    (inputs : List (Moment × SfuEvent)) :
    (sfu lib).Run gateway (sfuMoves lib gateway inputs) (sfuAfter lib gateway inputs) := by
  induction inputs generalizing gateway with
  | nil => exact .nil gateway
  | cons input inputs ih =>
      have hfires : (sfu lib).Fires ⟨gateway, input, (sfuStep lib gateway input).1,
          (sfuStep lib gateway input).2⟩ := fires_iff.mpr rfl
      exact .cons hfires (ih (sfuStep lib gateway input).1)

section Step

variable (lib) (gateway : GatewayHandler) (moment : Moment)

theorem serverStates_offer (sessionId : SessionId) (endpointId : EndpointId)
    (offer : RTCSessionDescription) :
    (sfuStep lib gateway (moment, .offer sessionId endpointId offer)).1.serverStates =
      (ServerStates.acceptOffer lib moment.orders moment.clock moment.fresh
        (sessionId, endpointId) none offer).after gateway.serverStates := by
  simp only [sfuStep, Fallible.after]
  split
  · rename_i houtcome
    simp [houtcome]
  · rename_i houtcome
    simp [houtcome]

theorem serverStates_dtls (transport : TransportContext)
    (read : Except Error (List DtlsEvent)) :
    (sfuStep lib gateway (moment, .dtls transport read)).1.serverStates =
      (DtlsHandler.handleRead transport.fourTuple read gateway.serverStates).1 := by
  simp only [sfuStep]
  split
  · rename_i hread
    simp [hread]
  · rename_i hread
    simp [hread]

/-- Reading changes the states as the closure of the handler does. -/
theorem serverStates_read (msg : TaggedMessageEvent) :
    (sfuStep lib gateway (moment, .read msg)).1.serverStates =
      ((GatewayHandler.tryRead lib moment msg).after gateway).serverStates := by
  simp only [sfuStep, GatewayHandler.handleRead, Fallible.after]
  cases (GatewayHandler.tryRead lib moment msg).outcome gateway with
  | mk answer next => cases answer <;> rfl

end Step

end Sfu
end MediaServer
