import MediaServer.Sfu.Mids
import MediaServer.Sfu.SfuMachine

/-!
# What a call may write

Only two things make or remove endpoints and transports: a nominated binding request, and
the removal of a transport.  All that the other handlers do is to write into endpoints
that are there, to create an empty session, and to leave a candidate.  `EndpointWrite`
lists the writes, `ServerStates.Written` says what a call may do to the states with a
given `Permit`, and every such handler is shown once to stay within it.  The invariants of
later files check the writes and never open a handler again.
-/

namespace MediaServer
namespace Sfu

open Foundation Transcription

/-- What a call may do to endpoints beyond what every call may. -/
structure Edits where
  /-- four tuples that were heard, and when -/
  heard : Set (FourTuple × Instant)
  /-- four tuples whose data channel opened -/
  opened : Set FourTuple
  /-- SRTP contexts, local and remote, for four tuples -/
  keyed : Set (FourTuple × SrtpContext × SrtpContext)
  /-- whether it may list a mid that is listed already -/
  relists : Prop

/-- What a call may write. -/
structure Permit where
  /-- sessions it may change -/
  sessions : Set SessionId
  /-- four tuples whose sessions it may change, found through the index -/
  via : Set FourTuple
  /-- candidates it may leave -/
  candidates : Set Candidate
  edits : Edits

/-- A write to the transport of a four tuple. -/
inductive TransportWrite (edits : Edits) (fourTuple : FourTuple) :
    Transport → Transport → Prop
  | heard (transport : Transport) (clock : Instant) (hheard : (fourTuple, clock) ∈ edits.heard) :
      TransportWrite edits fourTuple transport (transport.keepAlive clock)
  | opened (transport : Transport) (associationHandle : Nat) (streamId : UInt16)
      (hopened : fourTuple ∈ edits.opened) :
      TransportWrite edits fourTuple transport
        (transport.setAssociationHandleAndStreamId associationHandle streamId)
  | keyed (transport : Transport) (localContext remoteContext : SrtpContext)
      (hkeyed : (fourTuple, localContext, remoteContext) ∈ edits.keyed) :
      TransportWrite edits fourTuple transport
        (transport.setSrtpContexts localContext remoteContext)

/-- A write to an endpoint. -/
inductive EndpointWrite (edits : Edits) : Endpoint → Endpoint → Prop
  | flagged (endpoint : Endpoint) (needed : Bool) :
      EndpointWrite edits endpoint (endpoint.setRenegotiationNeeded needed)
  | added (endpoint : Endpoint) (mid : Mid) (transceiver : RTCRtpTransceiver)
      (hmid : transceiver.mid = mid)
      (hnew : endpoint.transceivers.get mid = none ∨ edits.relists) :
      EndpointWrite edits endpoint (endpoint.addTransceiver mid transceiver)
  | turned (endpoint : Endpoint) (mid : Mid) (f : RTCRtpTransceiver → RTCRtpTransceiver)
      (hf : ∀ transceiver, ∃ direction currentDirection,
        f transceiver = { transceiver with direction, currentDirection }) :
      EndpointWrite edits endpoint (endpoint.modifyTransceiver mid f)
  | transport (endpoint : Endpoint) (fourTuple : FourTuple) (f : Transport → Transport)
      (hf : ∀ transport, TransportWrite edits fourTuple transport (f transport)) :
      EndpointWrite edits endpoint (endpoint.modifyTransport fourTuple f)

/-- What writes make of an endpoint. -/
def Endpoint.written (edits : Edits) : Frame Endpoint := Frame.star (EndpointWrite edits)

/-- What writes make of a session. -/
def Session.written (edits : Edits) : Frame Session where
  rel before after :=
    (after.sessionConfig = before.sessionConfig ∧ after.sessionId = before.sessionId) ∧
      (Frame.pointwise (Endpoint.written edits)).rel before.endpoints.get after.endpoints.get
  refl _ := ⟨⟨rfl, rfl⟩, (Frame.pointwise _).refl _⟩
  trans hfirst hsecond :=
    ⟨⟨hsecond.1.1.trans hfirst.1.1, hsecond.1.2.trans hfirst.1.2⟩,
      (Frame.pointwise _).trans hfirst.2 hsecond.2⟩

namespace ServerStates

/-- The session of an identifier, or the one that would be created for it. -/
def sessionAt (states : ServerStates) (sessionId : SessionId) : Session :=
  (states.sessions.get sessionId).getD
    (Session.new ⟨states.serverConfig, states.localAddr⟩ sessionId)

/-- What a call with a permit may make of the states. -/
structure Written (permit : Permit) (before after : ServerStates) : Prop where
  serverConfig : after.serverConfig = before.serverConfig
  localAddr : after.localAddr = before.localAddr
  endpoints : after.endpoints = before.endpoints
  others : ∀ sessionId ∉ permit.sessions,
    (∀ fourTuple ∈ permit.via, ∀ ids, before.endpoints.get fourTuple = some ids →
      ids.1 ≠ sessionId) →
    after.sessions.get sessionId = before.sessions.get sessionId
  sessionAt : ∀ sessionId,
    (Session.written permit.edits).rel (before.sessionAt sessionId) (after.sessionAt sessionId)
  candidates : ∀ username candidate, after.candidates.get username = some candidate →
    before.candidates.get username = some candidate ∨
      (candidate ∈ permit.candidates ∧ candidate.username = username)

/-- The frame of a call with a permit. -/
def written (permit : Permit) : Frame ServerStates where
  rel := Written permit
  refl states :=
    { serverConfig := rfl
      localAddr := rfl
      endpoints := rfl
      others := fun _ _ _ => rfl
      sessionAt := fun _ => (Session.written _).refl _
      candidates := fun _ _ hheld => Or.inl hheld }
  trans {first second third} hfirst hsecond :=
    { serverConfig := hsecond.serverConfig.trans hfirst.serverConfig
      localAddr := hsecond.localAddr.trans hfirst.localAddr
      endpoints := hsecond.endpoints.trans hfirst.endpoints
      others := by
        intro sessionId hsession hvia
        rw [hsecond.others sessionId hsession (by rwa [hfirst.endpoints]),
          hfirst.others sessionId hsession hvia]
      sessionAt := fun sessionId =>
        (Session.written _).trans (hfirst.sessionAt sessionId) (hsecond.sessionAt sessionId)
      candidates := by
        intro username candidate hheld
        rcases hsecond.candidates username candidate hheld with hearlier | hleft
        · exact hfirst.candidates username candidate hearlier
        · exact Or.inr hleft }

end ServerStates

/-! ## Endpoints and sessions -/

namespace Endpoint

variable {edits : Edits}

/-- Handing over a transceiver lists a mid that is not there, or turns a transceiver. -/
theorem written_receiveTransceiver (direction : RTCRtpTransceiverDirection) (mid : Mid)
    (transceiver : RTCRtpTransceiver) (endpoint : Endpoint) :
    (written edits).rel endpoint (endpoint.receiveTransceiver direction mid transceiver) := by
  unfold receiveTransceiver
  split
  · split
    · apply Relation.ReflTransGen.tail _ (.flagged _ true)
      exact .single (.turned _ _ _ fun held => ⟨direction, held.currentDirection, rfl⟩)
    · exact .refl
  · rename_i hnone
    split
    · apply Relation.ReflTransGen.tail _ (.flagged _ true)
      exact .single (.added _ _ _ rfl (Or.inl hnone))
    · exact .refl

/-- A data channel that opens lists mids whether or not they are listed. -/
theorem written_addTransceivers {added : List RTCRtpTransceiver} {endpoint : Endpoint}
    (hnew : edits.relists ∨ (added.map RTCRtpTransceiver.mid).Nodup ∧
      ∀ handed ∈ added, endpoint.transceivers.containsKey handed.mid = false) :
    (written edits).rel endpoint (GatewayHandler.addTransceivers added endpoint) := by
  unfold GatewayHandler.addTransceivers
  induction added generalizing endpoint with
  | nil => exact .refl
  | cons first rest ih =>
      rw [List.foldl_cons]
      rcases hnew with hrelists | ⟨hnodup, hnew⟩
      · exact .head (.added _ _ _ rfl (Or.inr hrelists)) (ih (Or.inl hrelists))
      · obtain ⟨hfirst, hrest⟩ := List.forall_mem_cons.mp hnew
        obtain ⟨hother, hnodup⟩ := List.nodup_cons.mp hnodup
        refine .head (.added _ _ _ rfl (Or.inl ?_)) (ih (Or.inr ⟨hnodup, ?_⟩))
        · simpa [HashMap.containsKey] using hfirst
        · intro handed hmem
          have hne : handed.mid ≠ first.mid := fun heq => hother (heq ▸ List.mem_map_of_mem hmem)
          simpa [Endpoint.addTransceiver, hne] using hrest handed hmem

end Endpoint

namespace Session

variable {edits : Edits}

/-- A written endpoint, in its session. -/
theorem written_modifyEndpoint (session : Session) (endpointId : EndpointId)
    {f : Endpoint → Endpoint}
    (hf : ∀ endpoint, session.endpoints.get endpointId = some endpoint →
      (Endpoint.written edits).rel endpoint (f endpoint)) :
    (written edits).rel session (session.modifyEndpoint endpointId f) :=
  ⟨⟨rfl, rfl⟩, HashMap.pointwise_modify hf⟩

/-- An offered transceiver is filed under the mid it was offered with. -/
theorem mid_of_offeredTransceiver {lib : Libraries} {media : MediaDescription}
    {kind : RTPCodecType} {direction : RTCRtpTransceiverDirection} {midValue : Mid}
    {transceiver : RTCRtpTransceiver}
    (hoffered : offeredTransceiver lib media kind direction midValue = .ok transceiver) :
    transceiver.mid = midValue := by
  unfold offeredTransceiver at hoffered
  simp only [bind, Except.bind, pure, Except.pure] at hoffered
  repeat' split at hoffered
  all_goals first
    | contradiction
    | exact (congrArg RTCRtpTransceiver.mid (Except.ok.inj hoffered)).symm

/-- A section that the endpoint has no transceiver for is listed at the endpoint, and handed
to the others. -/
theorem rel_applyOffered (lib : Libraries) (orders : Orders) (endpointId : EndpointId)
    (media : MediaDescription) (kind : RTPCodecType) (direction : RTCRtpTransceiverDirection)
    (midValue : Mid) {session : Session}
    (hnew : ∀ endpoint, session.endpoints.get endpointId = some endpoint →
      endpoint.transceivers.get midValue = none) :
    (written edits).rel session
      ((applyOffered lib orders endpointId media kind direction midValue).after session) := by
  unfold applyOffered Fallible.after
  rw [Fallible.outcome_bind, Fallible.outcome_ofExcept]
  cases hoffered : offeredTransceiver lib media kind direction midValue with
  | error error => exact (written edits).refl session
  | ok transceiver =>
      have hlisted : (written edits).rel session
          (session.modifyEndpoint endpointId (·.addTransceiver midValue transceiver)) :=
        session.written_modifyEndpoint endpointId fun endpoint hendpoint =>
          .single (.added _ _ _ (mid_of_offeredTransceiver hoffered)
            (Or.inl (hnew endpoint hendpoint)))
      apply (written edits).trans hlisted
      refine ⟨⟨rfl, rfl⟩, HashMap.pointwise_forEachMut _ _ fun otherEndpointId other => ?_⟩
      split
      · exact Endpoint.written_receiveTransceiver _ _ _ _
      · exact .refl

theorem within_applyRemoteMedia (lib : Libraries) (orders : Orders) (endpointId : EndpointId)
    (weOffer : Bool) (media : MediaDescription) :
    Fallible.Within (written edits)
      (applyRemoteMedia lib orders endpointId weOffer media) := by
  unfold applyRemoteMedia
  split
  · exact Fallible.Within.pure _
  · rename_i kind direction midValue hmedia
    apply Fallible.Within.ite
    · intro _
      exact Fallible.Within.throw _
    · intro _
      apply Fallible.Within.ite
      · intro _
        apply Fallible.Within.modify
        intro session
        exact session.written_modifyEndpoint endpointId fun endpoint _ =>
          .single (.turned _ _ _ fun held => ⟨held.direction, direction.reverse, rfl⟩)
      · intro _
        apply Fallible.Within.get_bind
        intro session
        dsimp only
        split
        · exact (written edits).refl session
        · rename_i hmid
          apply rel_applyOffered
          intro endpoint hendpoint
          simpa [hendpoint, HashMap.containsKey] using hmid

theorem within_setRemoteDescription (lib : Libraries) (orders : Orders)
    (endpointId : EndpointId) (remoteDescription : RTCSessionDescription) :
    Fallible.Within (written edits)
      (setRemoteDescription lib orders endpointId remoteDescription) := by
  apply Fallible.Within.bind Fallible.Within.get
  intro session
  apply Fallible.Within.ite
  · intro _
    apply Fallible.Within.bind (Fallible.Within.okOr _ _)
    intro parsed
    exact Fallible.Within.forM (within_applyRemoteMedia lib orders endpointId _) _
  · intro _
    exact Fallible.Within.throw _

theorem within_applyLocalMedia (endpointId : EndpointId) (media : MediaDescription) :
    Fallible.Within (written edits) (applyLocalMedia endpointId media) := by
  unfold applyLocalMedia
  split
  · exact Fallible.Within.pure _
  · rename_i direction midValue hmedia
    apply Fallible.Within.ite
    · intro _
      exact Fallible.Within.throw _
    · intro _
      apply Fallible.Within.modify
      intro session
      exact session.written_modifyEndpoint endpointId fun endpoint _ =>
        .single (.turned _ _ _ fun held => ⟨held.direction, direction, rfl⟩)

theorem within_setLocalDescription (endpointId : EndpointId)
    (localDescription : RTCSessionDescription) :
    Fallible.Within (written edits) (setLocalDescription endpointId localDescription) := by
  apply Fallible.Within.bind (Fallible.Within.okOr _ _)
  intro parsed
  apply Fallible.Within.bind Fallible.Within.get
  intro session
  apply Fallible.Within.ite
  · intro _
    apply Fallible.Within.ite
    · intro _
      exact Fallible.Within.forM (within_applyLocalMedia endpointId) _
    · intro _
      exact Fallible.Within.pure _
  · intro _
    exact Fallible.Within.throw _

end Session

/-! ## The server states -/

namespace ServerStates

variable {permit : Permit} (states : ServerStates)

/-- An endpoint, in its session. -/
theorem endpointAt_eq (ids : SessionId × EndpointId) :
    states.endpointAt ids = (states.sessionAt ids.1).endpoints.get ids.2 := by
  unfold endpointAt sessionAt
  cases states.sessions.get ids.1 with
  | none => simp [Session.new]
  | some session => rfl

/-- A session in the place of the one it was written from. -/
theorem written_putSession {sessionId : SessionId} (hpermit : sessionId ∈ permit.sessions)
    {f : Session → Session}
    (hf : ∀ session, states.sessions.get sessionId = some session →
      (Session.written permit.edits).rel session (f session)) :
    (written permit).rel states (states.modifySession sessionId f) where
  serverConfig := rfl
  localAddr := rfl
  endpoints := rfl
  others other hother _ := by
    have hne : other ≠ sessionId := fun heq => hother (heq ▸ hpermit)
    rw [modifySession, HashMap.get_modify, if_neg hne]
  sessionAt other := by
    simp only [sessionAt, modifySession, HashMap.get_modify]
    split
    · rename_i heq
      subst heq
      cases hsession : states.sessions.get other with
      | none => exact (Session.written _).refl _
      | some session => exact hf session hsession
    · exact (Session.written _).refl _
  candidates _ _ hheld := Or.inl hheld

/-- A written endpoint. -/
theorem written_modifyEndpoint {ids : SessionId × EndpointId} (hpermit : ids.1 ∈ permit.sessions)
    {f : Endpoint → Endpoint}
    (hf : ∀ endpoint, states.endpointAt ids = some endpoint →
      (Endpoint.written permit.edits).rel endpoint (f endpoint)) :
    (written permit).rel states (states.modifyEndpoint ids f) := by
  apply states.written_putSession hpermit
  intro session hsession
  apply session.written_modifyEndpoint
  intro endpoint hendpoint
  apply hf
  rw [endpointAt, hsession]
  exact hendpoint

/-- A written transport. -/
theorem written_modifyTransport {ids : SessionId × EndpointId}
    (hpermit : ids.1 ∈ permit.sessions) (fourTuple : FourTuple) {f : Transport → Transport}
    (hf : ∀ transport, TransportWrite permit.edits fourTuple transport (f transport)) :
    (written permit).rel states (states.modifyTransport ids fourTuple f) :=
  states.written_modifyEndpoint hpermit fun endpoint _ =>
    .single (.transport endpoint fourTuple f hf)

/-- A new session is the one that would be created. -/
theorem sessionAt_insert_new {sessionId : SessionId}
    (hnone : states.sessions.get sessionId = none) (other : SessionId) :
    sessionAt { states with
      sessions := states.sessions.insert sessionId
        (Session.new ⟨states.serverConfig, states.localAddr⟩ sessionId) } other =
      states.sessionAt other := by
  simp only [sessionAt, HashMap.get_insert]
  split
  · rename_i heq
    rw [heq, hnone]
    rfl
  · rfl

/-- Creating a session shows only to those who ask whether it is there. -/
theorem written_createOrGetMutSession {sessionId : SessionId}
    (hpermit : sessionId ∈ permit.sessions) :
    (written permit).rel states (states.createOrGetMutSession sessionId) := by
  unfold createOrGetMutSession
  split
  · exact (written permit).refl states
  · rename_i hnone
    exact {
      serverConfig := rfl
      localAddr := rfl
      endpoints := rfl
      others := by
        intro other hother _
        have hne : other ≠ sessionId := fun heq => hother (heq ▸ hpermit)
        rw [HashMap.get_insert, if_neg hne]
      sessionAt := by
        intro other
        rw [sessionAt_insert_new states hnone]
        exact (Session.written _).refl _
      candidates := fun _ _ hheld => Or.inl hheld }

/-- A candidate is left under its user name. -/
theorem written_addCandidate {candidate : Candidate} (hpermit : candidate ∈ permit.candidates) :
    (written permit).rel states (states.addCandidate candidate) where
  serverConfig := rfl
  localAddr := rfl
  endpoints := rfl
  others _ _ _ := rfl
  sessionAt _ := (Session.written _).refl _
  candidates username held hheld := by
    rw [addCandidate, HashMap.get_insert] at hheld
    split at hheld
    · rename_i heq
      obtain rfl := Option.some.inj hheld
      exact Or.inr ⟨hpermit, heq.symm⟩
    · exact Or.inl hheld

/-- What the index gives access to, a call that goes through the index may change. -/
theorem written_of_via {before after : ServerStates} {fourTuple : FourTuple}
    {ids : SessionId × EndpointId} (hvia : fourTuple ∈ permit.via)
    (hindex : before.endpoints.get fourTuple = some ids)
    (hwritten : (written { permit with sessions := insert ids.1 permit.sessions }).rel
      before after) :
    (written permit).rel before after :=
  { hwritten with
    others := by
      intro sessionId hsession hreached
      apply hwritten.others sessionId _ hreached
      rw [Set.mem_insert_iff, not_or]
      exact ⟨(hreached fourTuple hvia ids hindex).symm, hsession⟩ }

section Within

variable {lib : Libraries} {orders : Orders} {ids : SessionId × EndpointId}

theorem within_onSession {α : Type} {m : Fallible Error Session α} {sessionId : SessionId}
    (absent : Error) (hpermit : sessionId ∈ permit.sessions)
    (hm : Fallible.Within (Session.written permit.edits) m) :
    Fallible.Within (written permit) (onSession sessionId absent m) := by
  apply Fallible.Within.get_bind
  intro states
  cases hsession : states.sessions.get sessionId with
  | none => exact (written permit).refl states
  | some session =>
      show (written permit).rel states (Fallible.outcome _ states).2
      rw [Fallible.outcome_bind_ok (Fallible.outcome_set _ states), Fallible.outcome_ofExcept]
      apply states.written_putSession hpermit
      intro held hheld
      obtain rfl := Option.some.inj (hheld.symm.trans hsession)
      exact hm held

theorem within_answerOn (offer : RTCSessionDescription) (localConnCred : ConnectionCredentials) :
    Fallible.Within (written permit) (answerOn lib orders ids offer localConnCred) := by
  apply Fallible.Within.bind Fallible.Within.get
  intro states
  apply Fallible.Within.bind (Fallible.Within.okOr _ _)
  intro session
  exact Fallible.Within.ofExcept _

theorem within_renegotiate (hpermit : ids.1 ∈ permit.sessions) (fourTuple : Option FourTuple)
    (offer : RTCSessionDescription) :
    Fallible.Within (written permit) (renegotiate lib orders ids fourTuple offer) := by
  apply Fallible.Within.bind
  · exact within_onSession _ hpermit (Session.within_setRemoteDescription lib orders _ _)
  intro _
  apply Fallible.Within.bind Fallible.Within.get
  intro states
  apply Fallible.Within.bind (Fallible.Within.okOr _ _)
  intro endpoint
  apply Fallible.Within.bind (Fallible.Within.okOr _ _)
  intro fourTuple
  apply Fallible.Within.bind (Fallible.Within.okOr _ _)
  intro transport
  exact Fallible.Within.pure _

theorem after_answerOn (offer : RTCSessionDescription) (localConnCred : ConnectionCredentials)
    (states : ServerStates) :
    (answerOn lib orders ids offer localConnCred).after states = states := by
  have hstays : Fallible.Within (Frame.fixing fun states : ServerStates => states)
      (answerOn lib orders ids offer localConnCred) := by
    apply Fallible.Within.bind Fallible.Within.get
    intro states
    apply Fallible.Within.bind (Fallible.Within.okOr _ _)
    intro session
    exact Fallible.Within.ofExcept _
  exact hstays states

section AcceptOffer

variable {clock : Instant} {fresh : RTCIceParameters} {fourTuple : Option FourTuple}
  {offer : RTCSessionDescription} {states : ServerStates} {parsed : SessionDescription}
  {remoteConnCred : ConnectionCredentials}

theorem outcome_unmarshal (hparsed : lib.unmarshal offer.sdp = .ok parsed) :
    (Fallible.ofExcept ((lib.unmarshal offer.sdp).mapError Error.other)).outcome states =
      (.ok parsed, states) := by
  rw [Fallible.outcome_ofExcept, hparsed]
  rfl

/-- An offer that is read, for an endpoint that is there. -/
theorem outcome_acceptOffer_of_present (hparsed : lib.unmarshal offer.sdp = .ok parsed)
    (hcred : ConnectionCredentials.fromSdp parsed = .ok remoteConnCred)
    (hpresent : (states.endpointAt ids).isSome = true) :
    (acceptOffer lib orders clock fresh ids fourTuple offer).outcome states =
      Fallible.outcome (do
        let localConnCred ← renegotiate lib orders ids fourTuple
          { offer with parsed := some parsed }
        let answer ← answerOn lib orders ids { offer with parsed := some parsed } localConnCred
        onSession ids.1 (noSession ids.1) (Session.setLocalDescription ids.2 answer)
        return answer) (states.createOrGetMutSession ids.1) := by
  rw [acceptOffer, Fallible.outcome_bind_ok (outcome_unmarshal hparsed),
    Fallible.outcome_bind_ok (by rw [Fallible.outcome_ofExcept, hcred]),
    Fallible.outcome_bind_ok (Fallible.outcome_modify _ states),
    Fallible.outcome_bind_ok (Fallible.outcome_get _), endpointAt_createOrGetMutSession,
    if_pos hpresent]

/-- An offer that is read, for an endpoint that is not there. -/
theorem outcome_acceptOffer_of_absent (hparsed : lib.unmarshal offer.sdp = .ok parsed)
    (hcred : ConnectionCredentials.fromSdp parsed = .ok remoteConnCred)
    (habsent : (states.endpointAt ids).isSome = false) :
    (acceptOffer lib orders clock fresh ids fourTuple offer).outcome states =
      match (answerOn lib orders ids { offer with parsed := some parsed }
          (ConnectionCredentials.new fresh (states.createOrGetMutSession ids.1).fingerprints
            remoteConnCred.dtlsParams.role)).result (states.createOrGetMutSession ids.1) with
      | .ok answer => (.ok answer, (states.createOrGetMutSession ids.1).addCandidate
          { sessionId := ids.1
            endpointId := ids.2
            remoteConnCred := remoteConnCred
            localConnCred := ConnectionCredentials.new fresh
              (states.createOrGetMutSession ids.1).fingerprints remoteConnCred.dtlsParams.role
            remoteDescription := { offer with parsed := some parsed }
            localDescription := answer
            expiredTime := clock +
              (states.createOrGetMutSession ids.1).serverConfig.idleTimeout })
      | .error error => (.error error, states.createOrGetMutSession ids.1) := by
  rw [acceptOffer, Fallible.outcome_bind_ok (outcome_unmarshal hparsed),
    Fallible.outcome_bind_ok (by rw [Fallible.outcome_ofExcept, hcred]),
    Fallible.outcome_bind_ok (Fallible.outcome_modify _ states),
    Fallible.outcome_bind_ok (Fallible.outcome_get _), endpointAt_createOrGetMutSession, habsent,
    if_neg Bool.false_ne_true, Fallible.outcome_bind, Fallible.outcome_eq, after_answerOn]
  -- making the answer only reads, so the candidate is added to the states it was made from
  split
  · rename_i answer next hanswer
    obtain ⟨hresult, rfl⟩ := Prod.mk.inj hanswer
    rw [hresult]
    rfl
  · rename_i error next hanswer
    obtain ⟨hresult, rfl⟩ := Prod.mk.inj hanswer
    rw [hresult]

/-- Accepting an offer touches the session of the offer.  It leaves a candidate for its endpoint
at most, and only if it succeeds: with its answer, and the credentials made for it. -/
theorem rel_acceptOffer (hpermit : ids.1 ∈ permit.sessions)
    (hcandidate : ∀ candidate : Candidate, candidate.ids = ids →
      (acceptOffer lib orders clock fresh ids fourTuple offer).result states =
        .ok candidate.localDescription →
      candidate.remoteDescription.sdp = offer.sdp →
      candidate.localConnCred.iceParams = fresh → candidate ∈ permit.candidates) :
    (written permit).rel states
      ((acceptOffer lib orders clock fresh ids fourTuple offer).after states) := by
  have hcreated := states.written_createOrGetMutSession hpermit
  cases hparsed : lib.unmarshal offer.sdp with
  | error text =>
      have houtcome : (acceptOffer lib orders clock fresh ids fourTuple offer).outcome states =
          (.error (.other text), states) := by
        rw [acceptOffer, Fallible.outcome_bind, Fallible.outcome_ofExcept, hparsed]
        rfl
      rw [Fallible.after, houtcome]
      exact (written permit).refl states
  | ok parsed =>
      cases hcred : ConnectionCredentials.fromSdp parsed with
      | error error =>
          have houtcome : (acceptOffer lib orders clock fresh ids fourTuple offer).outcome states =
              (.error error, states) := by
            rw [acceptOffer, Fallible.outcome_bind, Fallible.outcome_ofExcept, hparsed]
            show Fallible.outcome (Fallible.ofExcept (ConnectionCredentials.fromSdp parsed) >>= _)
              states = _
            rw [Fallible.outcome_bind, Fallible.outcome_ofExcept, hcred]
          rw [Fallible.after, houtcome]
          exact (written permit).refl states
      | ok remoteConnCred =>
          cases hpresent : (states.endpointAt ids).isSome with
          | true =>
              -- a renegotiation writes into the endpoint and leaves no candidate
              rw [Fallible.after, outcome_acceptOffer_of_present hparsed hcred hpresent]
              apply (written permit).trans hcreated
              apply Fallible.Within.bind (within_renegotiate hpermit fourTuple _)
              intro localConnCred
              apply Fallible.Within.bind (within_answerOn _ localConnCred)
              intro answer
              apply Fallible.Within.bind
              · exact within_onSession _ hpermit (Session.within_setLocalDescription _ _)
              intro _
              exact Fallible.Within.pure _
          | false =>
              have houtcome : (acceptOffer lib orders clock fresh ids fourTuple offer).outcome
                  states = _ := outcome_acceptOffer_of_absent hparsed hcred hpresent
              rw [Fallible.after, houtcome]
              rw [Fallible.result, houtcome] at hcandidate
              split
              · rename_i answer hanswer
                rw [hanswer] at hcandidate
                exact (written permit).trans hcreated
                  (written_addCandidate _ (hcandidate _ rfl rfl rfl rfl))
              · exact hcreated

end AcceptOffer

theorem within_acceptAnswer (hpermit : ids.1 ∈ permit.sessions)
    (answer : RTCSessionDescription) :
    Fallible.Within (written permit) (acceptAnswer lib orders ids answer) := by
  apply Fallible.Within.bind (Fallible.Within.ofExcept _)
  intro parsed
  apply Fallible.Within.bind
  · exact Fallible.Within.modify fun states => states.written_createOrGetMutSession hpermit
  intro _
  apply Fallible.Within.bind Fallible.Within.get
  intro states
  apply Fallible.Within.ite
  · intro _
    exact within_onSession _ hpermit (Session.within_setRemoteDescription lib orders _ _)
  · intro _
    exact Fallible.Within.pure _

/-- A transport is found through the index. -/
theorem within_updateTransport {fourTuple : FourTuple} (hvia : fourTuple ∈ permit.via)
    {f : Transport → Transport}
    (hf : ∀ transport, TransportWrite permit.edits fourTuple transport (f transport)) :
    Fallible.Within (written permit) (updateTransport fourTuple f) := by
  apply Fallible.Within.get_bind
  intro states
  cases hlookup : states.getMutTransport fourTuple with
  | error error => exact (written permit).refl states
  | ok found =>
      obtain ⟨ids, transport⟩ := found
      apply written_of_via hvia ((states.getMutTransport_eq_ok_iff ids).mp hlookup).1
      exact states.written_modifyTransport (Set.mem_insert ids.1 _) fourTuple hf

end Within

end ServerStates

end Sfu
end MediaServer
