import MediaServer.Sfu.Session

/-!
# The states of the SFU

`server/states.rs`: the sessions, the candidates that wait to be claimed by their user
names, and the index `endpoints` from four tuples to endpoints, through which every packet
finds its transport.
-/

namespace MediaServer
namespace Sfu

open Foundation Transcription

structure ServerStates where
  serverConfig : ServerConfig
  localAddr : SocketAddr
  sessions : HashMap SessionId Session
  candidates : HashMap UserName Candidate
  endpoints : HashMap FourTuple (SessionId × EndpointId)

namespace ServerStates

/-- A server needs a certificate with a fingerprint. -/
def new (serverConfig : ServerConfig) (localAddr : SocketAddr) : Except Error ServerStates :=
  match serverConfig.certificates with
  | (_ :: _) :: _ => .ok ⟨serverConfig, localAddr, HashMap.empty, HashMap.empty, HashMap.empty⟩
  | _ => .error .errInvalidCertificate

/-- `certificates.first().unwrap().get_fingerprints()` -/
def fingerprints (states : ServerStates) : List RTCDtlsFingerprint :=
  states.serverConfig.certificates.headD []

def modifySession (sessionId : SessionId) (f : Session → Session) (states : ServerStates) :
    ServerStates :=
  { states with sessions := states.sessions.modify sessionId f }

def modifyEndpoint (ids : SessionId × EndpointId) (f : Endpoint → Endpoint)
    (states : ServerStates) : ServerStates :=
  states.modifySession ids.1 (·.modifyEndpoint ids.2 f)

def modifyTransport (ids : SessionId × EndpointId) (fourTuple : FourTuple)
    (f : Transport → Transport) (states : ServerStates) : ServerStates :=
  states.modifyEndpoint ids (·.modifyTransport fourTuple f)

/-- The session of an identifier, created if it is not there. -/
def createOrGetMutSession (sessionId : SessionId) (states : ServerStates) : ServerStates :=
  match states.sessions.get sessionId with
  | some _ => states
  | none =>
      { states with
        sessions := states.sessions.insert sessionId
          (Session.new ⟨states.serverConfig, states.localAddr⟩ sessionId) }

def addCandidate (candidate : Candidate) (states : ServerStates) : ServerStates :=
  { states with candidates := states.candidates.insert candidate.username candidate }

def removeCandidate (username : UserName) (states : ServerStates) : ServerStates :=
  { states with candidates := states.candidates.remove username }

def addEndpoint (fourTuple : FourTuple) (ids : SessionId × EndpointId) (states : ServerStates) :
    ServerStates :=
  { states with endpoints := states.endpoints.insert fourTuple ids }

def removeEndpoint (fourTuple : FourTuple) (states : ServerStates) : ServerStates :=
  { states with endpoints := states.endpoints.remove fourTuple }

def removeSession (sessionId : SessionId) (states : ServerStates) : ServerStates :=
  { states with sessions := states.sessions.remove sessionId }

def findEndpoint (fourTuple : FourTuple) (states : ServerStates) :
    Option (SessionId × EndpointId) :=
  states.endpoints.get fourTuple

/-- The endpoint with given identifiers. -/
def endpointAt (states : ServerStates) (ids : SessionId × EndpointId) : Option Endpoint :=
  (states.sessions.get ids.1).bind (·.endpoints.get ids.2)

/-- The transport that an endpoint has under a four tuple. -/
def transportAt (states : ServerStates) (ids : SessionId × EndpointId) (fourTuple : FourTuple) :
    Option Transport :=
  (states.endpointAt ids).bind (·.transports.get fourTuple)

/-- `get_mut_endpoint`: the endpoint of a four tuple and where it is. -/
def getMutEndpoint (fourTuple : FourTuple) (states : ServerStates) :
    Except Error ((SessionId × EndpointId) × Endpoint) :=
  match states.findEndpoint fourTuple with
  | none => .error (.noEndpointWithFourTuple fourTuple)
  | some ids =>
      match states.sessions.get ids.1 with
      | none => .error (noSession ids.1)
      | some session =>
          match session.endpoints.get ids.2 with
          | none => .error (noEndpoint ids.2)
          | some endpoint => .ok (ids, endpoint)

/-- `get_mut_transport`: the transport of a four tuple and where it is. -/
def getMutTransport (fourTuple : FourTuple) (states : ServerStates) :
    Except Error ((SessionId × EndpointId) × Transport) :=
  match states.getMutEndpoint fourTuple with
  | .error error => .error error
  | .ok (ids, endpoint) =>
      match endpoint.transports.get fourTuple with
      | none => .error (.noTransportWithFourTuple fourTuple ids.2)
      | some transport => .ok (ids, transport)

/-- `get_mut_transport(&four_tuple)?` and a change of the transport. -/
def updateTransport (fourTuple : FourTuple) (f : Transport → Transport) :
    Fallible Error ServerStates Unit := do
  let states ← get
  let (ids, _) ← Fallible.ofExcept (states.getMutTransport fourTuple)
  modify (·.modifyTransport ids fourTuple f)

/-- Take a transport from an endpoint, an endpoint without transports from its session, and
a session without endpoints from the server.  The index forgets the four tuple only with the
endpoint. -/
def takeTransport (fourTuple : FourTuple) (ids : SessionId × EndpointId) (session : Session)
    (endpoint : Endpoint) (states : ServerStates) : ServerStates :=
  let transport := endpoint.transports.get fourTuple
  let endpoint := endpoint.removeTransport fourTuple
  let states :=
    if endpoint.transports.isEmpty then
      let session := session.removeEndpoint ids.2
      let states :=
        if session.endpoints.isEmpty then states.removeSession ids.1
        else states.modifySession ids.1 fun _ => session
      states.removeEndpoint fourTuple
    else states.modifyEndpoint ids fun _ => endpoint
  match transport with
  | some transport => states.removeCandidate transport.candidate.username
  | none => states

/-- Remove the transport that the index names for a four tuple. -/
def removeTransport (fourTuple : FourTuple) (states : ServerStates) : ServerStates :=
  match states.findEndpoint fourTuple with
  | none => states
  | some ids =>
      match states.sessions.get ids.1 with
      | none => states
      | some session =>
          match session.endpoints.get ids.2 with
          | none => states
          | some endpoint => states.takeTransport fourTuple ids session endpoint

/-- A computation on a session that is there. -/
def onSession {α : Type} (sessionId : SessionId) (absent : Error)
    (m : Fallible Error Session α) : Fallible Error ServerStates α := do
  let states ← get
  match states.sessions.get sessionId with
  | none => throw absent
  | some session =>
      set (states.modifySession sessionId fun _ => m.after session)
      Fallible.ofExcept (m.result session)

/-- `session.create_answer(..)?` -/
def answerOn (lib : Libraries) (orders : Orders) (ids : SessionId × EndpointId)
    (offer : RTCSessionDescription) (localConnCred : ConnectionCredentials) :
    Fallible Error ServerStates RTCSessionDescription := do
  let states ← get
  let session ← Fallible.okOr (states.sessions.get ids.1) (noSession ids.1)
  Fallible.ofExcept (session.createAnswer lib orders ids.2 offer localConnCred.iceParams)

/-- An offer of an endpoint that is there: its new transceivers, and the credentials of the
transport the offer came on. -/
def renegotiate (lib : Libraries) (orders : Orders) (ids : SessionId × EndpointId)
    (fourTuple : Option FourTuple) (offer : RTCSessionDescription) :
    Fallible Error ServerStates ConnectionCredentials := do
  onSession ids.1 (noSession ids.1) (Session.setRemoteDescription lib orders ids.2 offer)
  let states ← get
  let endpoint ← Fallible.okOr (states.endpointAt ids) (noEndpoint ids.2)
  let fourTuple ← Fallible.okOr fourTuple (.other "missing FourTuple")
  let transport ← Fallible.okOr (endpoint.transports.get fourTuple)
    (.noTransportForEndpoint ids.2 fourTuple)
  return transport.candidate.localConnCred

/-- Accept an offer and return an answer.  `fresh` are the random credentials of an endpoint
that is not there yet. -/
def acceptOffer (lib : Libraries) (orders : Orders) (clock : Instant)
    (fresh : RTCIceParameters) (ids : SessionId × EndpointId)
    (fourTuple : Option FourTuple) (offer : RTCSessionDescription) :
    Fallible Error ServerStates RTCSessionDescription := do
  let parsed ← Fallible.ofExcept ((lib.unmarshal offer.sdp).mapError .other)
  let remoteConnCred ← Fallible.ofExcept (ConnectionCredentials.fromSdp parsed)
  let offer := { offer with parsed := some parsed }
  modify (createOrGetMutSession ids.1)
  let states ← get
  if (states.endpointAt ids).isSome then
    let localConnCred ← renegotiate lib orders ids fourTuple offer
    let answer ← answerOn lib orders ids offer localConnCred
    onSession ids.1 (noSession ids.1) (Session.setLocalDescription ids.2 answer)
    return answer
  else
    let localConnCred := ConnectionCredentials.new fresh states.fingerprints
      remoteConnCred.dtlsParams.role
    let answer ← answerOn lib orders ids offer localConnCred
    modify (addCandidate {
      sessionId := ids.1
      endpointId := ids.2
      remoteConnCred := remoteConnCred
      localConnCred := localConnCred
      remoteDescription := offer
      localDescription := answer
      expiredTime := clock + states.serverConfig.idleTimeout })
    return answer

def acceptAnswer (lib : Libraries) (orders : Orders) (ids : SessionId × EndpointId)
    (answer : RTCSessionDescription) : Fallible Error ServerStates Unit := do
  let parsed ← Fallible.ofExcept ((lib.unmarshal answer.sdp).mapError .other)
  let answer := { answer with parsed := some parsed }
  modify (createOrGetMutSession ids.1)
  let states ← get
  if (states.endpointAt ids).isSome then
    onSession ids.1 (noSession ids.1) (Session.setRemoteDescription lib orders ids.2 answer)

/-! ## Endpoints after a change -/

section EndpointAt

variable (states : ServerStates) (ids : SessionId × EndpointId)

@[simp] theorem endpoints_modifySession (sessionId : SessionId) (f : Session → Session) :
    (states.modifySession sessionId f).endpoints = states.endpoints := rfl

@[simp] theorem endpoints_modifyEndpoint (f : Endpoint → Endpoint) :
    (states.modifyEndpoint ids f).endpoints = states.endpoints := rfl

@[simp] theorem endpoints_modifyTransport (fourTuple : FourTuple) (f : Transport → Transport) :
    (states.modifyTransport ids fourTuple f).endpoints = states.endpoints := rfl

@[simp] theorem endpointAt_addEndpoint (fourTuple : FourTuple)
    (named : SessionId × EndpointId) :
    (states.addEndpoint fourTuple named).endpointAt ids = states.endpointAt ids := rfl

@[simp] theorem endpointAt_removeEndpoint (fourTuple : FourTuple) :
    (states.removeEndpoint fourTuple).endpointAt ids = states.endpointAt ids := rfl

@[simp] theorem endpointAt_removeCandidate (username : UserName) :
    (states.removeCandidate username).endpointAt ids = states.endpointAt ids := rfl

@[simp] theorem endpointAt_addCandidate (candidate : Candidate) :
    (states.addCandidate candidate).endpointAt ids = states.endpointAt ids := rfl

theorem endpointAt_modifySession (sessionId : SessionId) (f : Session → Session) :
    (states.modifySession sessionId f).endpointAt ids =
      if ids.1 = sessionId then
        ((states.sessions.get sessionId).map f).bind (·.endpoints.get ids.2)
      else states.endpointAt ids := by
  simp only [endpointAt, modifySession, HashMap.get_modify]
  by_cases hsession : ids.1 = sessionId
  · simp [hsession]
  · simp [hsession]

theorem endpointAt_modifyEndpoint (changed : SessionId × EndpointId)
    (f : Endpoint → Endpoint) :
    (states.modifyEndpoint changed f).endpointAt ids =
      if ids = changed then (states.endpointAt ids).map f else states.endpointAt ids := by
  obtain ⟨sessionId, endpointId⟩ := changed
  simp only [modifyEndpoint, endpointAt_modifySession, Prod.ext_iff]
  by_cases hsession : ids.1 = sessionId
  · subst hsession
    cases hsession : states.sessions.get ids.1 with
    | none => simp [endpointAt, hsession]
    | some session => simp [endpointAt, hsession, Session.modifyEndpoint]
  · simp [hsession]

@[simp] theorem endpointAt_createOrGetMutSession (sessionId : SessionId) :
    (states.createOrGetMutSession sessionId).endpointAt ids = states.endpointAt ids := by
  unfold createOrGetMutSession
  split
  · rfl
  · rename_i hnone
    by_cases hsession : ids.1 = sessionId
    · simp [endpointAt, hsession, hnone, Session.new]
    · simp [endpointAt, hsession]

@[simp] theorem endpoints_createOrGetMutSession (sessionId : SessionId) :
    (states.createOrGetMutSession sessionId).endpoints = states.endpoints := by
  unfold createOrGetMutSession
  split <;> rfl

theorem getMutEndpoint_eq_ok_iff {fourTuple : FourTuple} {endpoint : Endpoint} :
    states.getMutEndpoint fourTuple = .ok (ids, endpoint) ↔
      states.endpoints.get fourTuple = some ids ∧ states.endpointAt ids = some endpoint := by
  unfold getMutEndpoint findEndpoint endpointAt
  constructor
  · intro hlookup
    split at hlookup
    · contradiction
    · rename_i named hindex
      split at hlookup
      · contradiction
      · rename_i session hsession
        split at hlookup
        · contradiction
        · rename_i found hfound
          obtain ⟨rfl, rfl⟩ := Prod.mk.inj (Except.ok.inj hlookup)
          exact ⟨hindex, by simp [hsession, hfound]⟩
  · rintro ⟨hindex, hendpoint⟩
    obtain ⟨session, hsession, hfound⟩ := Option.bind_eq_some_iff.mp hendpoint
    simp [hindex, hsession, hfound]

theorem getMutTransport_eq_ok_iff {fourTuple : FourTuple} {transport : Transport} :
    states.getMutTransport fourTuple = .ok (ids, transport) ↔
      states.endpoints.get fourTuple = some ids ∧
        states.transportAt ids fourTuple = some transport := by
  unfold getMutTransport
  constructor
  · intro hlookup
    split at hlookup
    · contradiction
    · rename_i named endpoint hfound
      split at hlookup
      · contradiction
      · rename_i held hheld
        obtain ⟨rfl, rfl⟩ := Prod.mk.inj (Except.ok.inj hlookup)
        obtain ⟨hindex, hendpoint⟩ := (states.getMutEndpoint_eq_ok_iff named).mp hfound
        exact ⟨hindex, by simp [transportAt, hendpoint, hheld]⟩
  · rintro ⟨hindex, htransport⟩
    obtain ⟨endpoint, hendpoint, hheld⟩ := Option.bind_eq_some_iff.mp htransport
    simp [(states.getMutEndpoint_eq_ok_iff ids).mpr ⟨hindex, hendpoint⟩, hheld]

end EndpointAt

end ServerStates

end Sfu
end MediaServer
