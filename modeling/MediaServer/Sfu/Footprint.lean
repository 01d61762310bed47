import MediaServer.Sfu.Writes

/-!
# What the handlers leave alone

The writes of a call do not show in the `skeleton` of the states: the index, which
endpoints there are with their descriptions, which transports they have, and whose
candidate each transport is.  Each handler of the gateway, and that of DTLS, is shown to
do nothing but what a permit allows it.  A message may reach its own session through the
index, and, where the index names another session for the transports of its peers, those.
-/

namespace MediaServer
namespace Sfu

open Foundation Transcription

/-! ## Skeletons -/

/-- An endpoint without what calls and media change. -/
structure EndpointSkeleton where
  endpointId : EndpointId
  remoteDescription : Option RTCSessionDescription
  localDescription : Option RTCSessionDescription
  transports : FourTuple → Option (FourTuple × Candidate)

def Transport.skeleton (transport : Transport) : FourTuple × Candidate :=
  (transport.fourTuple, transport.candidate)

def Endpoint.skeleton (endpoint : Endpoint) : EndpointSkeleton where
  endpointId := endpoint.endpointId
  remoteDescription := endpoint.remoteDescription
  localDescription := endpoint.localDescription
  transports fourTuple := (endpoint.transports.get fourTuple).map Transport.skeleton

/-- The index and the skeletons of the endpoints. -/
def ServerStates.skeleton (states : ServerStates) :
    HashMap FourTuple (SessionId × EndpointId) ×
      (SessionId × EndpointId → Option EndpointSkeleton) :=
  (states.endpoints, fun ids => (states.endpointAt ids).map Endpoint.skeleton)

theorem TransportWrite.skeleton {edits : Edits} {fourTuple : FourTuple}
    {before after : Transport} (hwrite : TransportWrite edits fourTuple before after) :
    after.skeleton = before.skeleton := by
  cases hwrite <;> rfl

/-- No write shows in the skeleton. -/
theorem EndpointWrite.skeleton {edits : Edits} {before after : Endpoint}
    (hwrite : EndpointWrite edits before after) : after.skeleton = before.skeleton := by
  cases hwrite with
  | flagged needed => rfl
  | added mid transceiver hmid hnew => rfl
  | turned mid f hf => rfl
  | transport fourTuple f hf =>
      simp only [Endpoint.skeleton, Endpoint.modifyTransport, EndpointSkeleton.mk.injEq, true_and]
      funext other
      rw [HashMap.get_modify]
      split
      · cases before.transports.get other with
        | none => rfl
        | some transport => exact congrArg some (hf transport).skeleton
      · rfl

namespace ServerStates

variable {permit : Permit} {before after : ServerStates}

/-- A call with any permit leaves the skeleton as it is. -/
theorem Written.skeleton (hwritten : Written permit before after) :
    after.skeleton = before.skeleton := by
  rw [ServerStates.skeleton, ServerStates.skeleton, hwritten.endpoints, Prod.mk.injEq]
  refine ⟨rfl, ?_⟩
  funext ids
  rw [endpointAt_eq, endpointAt_eq]
  have hendpoints := (hwritten.sessionAt ids.1).2
  cases hbefore : (before.sessionAt ids.1).endpoints.get ids.2 with
  | none => rw [(Frame.pointwise_none hendpoints).mpr hbefore]
  | some endpoint =>
      obtain ⟨next, hnext, hrel⟩ := Frame.pointwise_some hendpoints hbefore
      rw [hnext]
      exact congrArg some (Frame.view_of_star Endpoint.skeleton (fun _ _ => EndpointWrite.skeleton)
        hrel)

theorem transportAt_of_skeleton (hskeleton : after.skeleton = before.skeleton)
    (ids : SessionId × EndpointId) (fourTuple : FourTuple) :
    (after.transportAt ids fourTuple).map Transport.skeleton =
      (before.transportAt ids fourTuple).map Transport.skeleton := by
  have hview : ∀ states : ServerStates, (states.transportAt ids fourTuple).map Transport.skeleton =
      (states.skeleton.2 ids).bind (·.transports fourTuple) := by
    intro states
    simp only [transportAt, ServerStates.skeleton]
    cases states.endpointAt ids <;> rfl
  rw [hview, hview, hskeleton]

/-- The same transports, as far as their being there goes. -/
theorem isSome_transportAt_of_skeleton (hskeleton : after.skeleton = before.skeleton)
    (ids : SessionId × EndpointId) (fourTuple : FourTuple) :
    (after.transportAt ids fourTuple).isSome = (before.transportAt ids fourTuple).isSome := by
  rw [← Option.isSome_map, transportAt_of_skeleton hskeleton, Option.isSome_map]

/-- The four tuples of the transports in a session. -/
def fourTuplesOf (states : ServerStates) (sessionId : SessionId) : Set FourTuple :=
  {fourTuple | ∃ endpointId, (states.transportAt (sessionId, endpointId) fourTuple).isSome}

theorem fourTuplesOf_of_skeleton (hskeleton : after.skeleton = before.skeleton)
    (sessionId : SessionId) : after.fourTuplesOf sessionId = before.fourTuplesOf sessionId := by
  ext fourTuple
  simp only [fourTuplesOf, Set.mem_ofPred_eq, isSome_transportAt_of_skeleton hskeleton]

end ServerStates

/-! ## The gateway and the DTLS handler -/

namespace GatewayHandler

open ServerStates (written)

variable {permit : Permit} {lib : Libraries} {orders : Orders} {now : Instant}
  {transportContext : TransportContext}

theorem senderOf_eq_ok_iff {states : ServerStates} {ids : SessionId × EndpointId}
    {session : Session} :
    senderOf states transportContext = .ok (ids, session) ↔
      states.endpoints.get transportContext.fourTuple = some ids ∧
        states.sessions.get ids.1 = some session := by
  unfold senderOf ServerStates.findEndpoint
  constructor
  · intro hsender
    split at hsender
    · contradiction
    · rename_i named hindex
      split at hsender
      · contradiction
      · rename_i held hsession
        obtain ⟨rfl, rfl⟩ := Prod.mk.inj (Except.ok.inj hsender)
        exact ⟨hindex, hsession⟩
  · rintro ⟨hindex, hsession⟩
    simp [hindex, hsession]

/-- A call that begins by looking up its sender may change the session of the sender. -/
theorem within_sender {α : Type} (hvia : transportContext.fourTuple ∈ permit.via)
    {f : ServerStates → (SessionId × EndpointId) × Session → Fallible Error ServerStates α}
    (hf : ∀ states ids session, senderOf states transportContext = .ok (ids, session) →
      Fallible.Within (written { permit with sessions := insert ids.1 permit.sessions })
        (f states (ids, session))) :
    Fallible.Within (written permit)
      (get >>= fun states => Fallible.ofExcept (senderOf states transportContext) >>= f states) := by
  apply Fallible.Within.get_bind
  intro states
  cases hsender : senderOf states transportContext with
  | error error => exact (written permit).refl states
  | ok sender =>
      obtain ⟨ids, session⟩ := sender
      apply ServerStates.written_of_via hvia (senderOf_eq_ok_iff.mp hsender).1
      exact hf states ids session hsender states

theorem within_createOfferMessageEvent (hvia : transportContext.fourTuple ∈ permit.via)
    (associationHandle : Nat) (streamId : UInt16) :
    Fallible.Within (written permit) (createOfferMessageEvent lib orders now transportContext
      associationHandle streamId) := by
  apply within_sender hvia
  intro states ids session _
  have hpermit : ids.1 ∈ insert ids.1 permit.sessions := Set.mem_insert _ _
  apply Fallible.Within.bind (Fallible.Within.okOr _ _)
  intro endpoint
  apply Fallible.Within.bind
  · exact Fallible.Within.modify fun states =>
      states.written_modifyEndpoint hpermit fun endpoint _ => .single (.flagged endpoint false)
  intro _
  apply Fallible.Within.bind (Fallible.Within.okOr _ _)
  intro remoteDescription
  apply Fallible.Within.bind (Fallible.Within.okOr _ _)
  intro transport
  apply Fallible.Within.bind (Fallible.Within.ofExcept _)
  intro offer
  apply Fallible.Within.bind
  · exact ServerStates.within_onSession _ hpermit (Session.within_setLocalDescription _ _)
  intro _
  apply Fallible.Within.bind (Fallible.Within.ofExcept _)
  intro offerStr
  exact Fallible.Within.pure _

theorem within_offerToPeers (peers : List DataChannelPeer)
    (hvia : ∀ peer ∈ peers, peer.transport.fourTuple ∈ permit.via) :
    Fallible.Within (written permit) (offerToPeers lib orders now peers) := by
  induction peers with
  | nil => exact Fallible.Within.pure _
  | cons peer peers ih =>
      obtain ⟨hfirst, hrest⟩ := List.forall_mem_cons.mp hvia
      rw [offerToPeers]
      apply Fallible.Within.ite
      · intro _
        apply Fallible.Within.bind (within_createOfferMessageEvent hfirst _ _)
        intro offer
        apply Fallible.Within.bind (ih hrest)
        intro offers
        exact Fallible.Within.pure _
      · intro _
        exact ih hrest

/-- The peers of a sender are transports of other endpoints of its session. -/
theorem mem_fourTuplesOf_of_peers {states : ServerStates} {peers : List DataChannelPeer}
    (hpeers : getOtherDatachannelTransportContexts orders states transportContext = .ok peers) :
    ∃ ids, states.endpoints.get transportContext.fourTuple = some ids ∧
      ∀ peer ∈ peers, peer.transport.fourTuple ∈ states.fourTuplesOf ids.1 := by
  unfold getOtherDatachannelTransportContexts at hpeers
  split at hpeers
  · contradiction
  · rename_i sessionId endpointId session hsender
    obtain ⟨hindex, hsession⟩ := senderOf_eq_ok_iff.mp hsender
    obtain rfl := Except.ok.inj hpeers
    refine ⟨_, hindex, ?_⟩
    intro peer hpeer
    obtain ⟨⟨other, fourTuple, transport⟩, hmem, hready⟩ := List.mem_filterMap.mp hpeer
    obtain ⟨⟨otherId, endpoint⟩, hendpoint, htransport⟩ := List.mem_flatMap.mp hmem
    rw [HashMap.mem_iter] at hendpoint
    dsimp only at htransport hready
    split at htransport
    · obtain ⟨⟨heldAt, held⟩, hheld, heq⟩ := List.mem_map.mp htransport
      rw [HashMap.mem_iter] at hheld
      obtain ⟨rfl, rfl, rfl⟩ := by simpa using heq
      split at hready
      · obtain rfl := Option.some.inj hready
        exact ⟨otherId, by simp [ServerStates.transportAt, ServerStates.endpointAt, hsession,
          hendpoint, contextOf, TransportContext.fourTuple, hheld]⟩
      · contradiction
    · simp at htransport

/-- The states once an endpoint with an open data channel was handed transceivers. -/
def opened (ids : SessionId × EndpointId) (fourTuple : FourTuple) (associationHandle : Nat)
    (streamId : UInt16) (added : List RTCRtpTransceiver) (states : ServerStates) : ServerStates :=
  ((states.modifyTransport ids fourTuple
    (·.setAssociationHandleAndStreamId associationHandle streamId)).modifyEndpoint ids
      (·.setRenegotiationNeeded !added.isEmpty)).modifyEndpoint ids (addTransceivers added)

/-- A data channel that opens at a transport hands transceivers to its endpoint; then there
may be an offer. -/
theorem after_handleDatachannelOpen {states : ServerStates} {ids : SessionId × EndpointId}
    {session : Session} {endpoint : Endpoint}
    (hsender : senderOf states transportContext = .ok (ids, session))
    (hendpoint : session.endpoints.get ids.2 = some endpoint)
    (htransport : endpoint.hasTransport transportContext.fourTuple = true)
    (associationHandle : Nat) (streamId : UInt16) :
    (handleDatachannelOpen lib orders now transportContext associationHandle streamId).after
        states =
      (if !(newTransceivers orders session ids.2).isEmpty then do
          let offer ← createOfferMessageEvent lib orders now transportContext associationHandle
            streamId
          return [offer]
        else return [] : Fallible Error ServerStates (List TaggedMessageEvent)).after
          (opened ids transportContext.fourTuple associationHandle streamId
            (newTransceivers orders session ids.2) states) := by
  obtain ⟨transport, htransport⟩ := Option.isSome_iff_exists.mp htransport
  unfold handleDatachannelOpen
  rw [Fallible.after_get_bind, hsender, Fallible.after_ofExcept_bind]
  dsimp only
  rw [hendpoint, Fallible.after_okOr_bind, htransport, Fallible.after_okOr_bind]
  rfl

/-- Without a transport there is nothing to do. -/
theorem after_handleDatachannelOpen_of_absent {states : ServerStates}
    (habsent : ¬∃ ids session endpoint,
      senderOf states transportContext = .ok (ids, session) ∧
        session.endpoints.get ids.2 = some endpoint ∧
        endpoint.hasTransport transportContext.fourTuple = true)
    (associationHandle : Nat) (streamId : UInt16) :
    (handleDatachannelOpen lib orders now transportContext associationHandle streamId).after
      states = states := by
  unfold handleDatachannelOpen
  rw [Fallible.after_get_bind]
  cases hsender : senderOf states transportContext with
  | error error => rfl
  | ok sender =>
      obtain ⟨ids, session⟩ := sender
      rw [Fallible.after_ofExcept_bind]
      dsimp only
      cases hendpoint : session.endpoints.get ids.2 with
      | none => rfl
      | some endpoint =>
          rw [Fallible.after_okOr_bind]
          cases htransport : endpoint.transports.get transportContext.fourTuple with
          | none => rfl
          | some transport =>
              exact absurd ⟨ids, session, endpoint, hsender, hendpoint,
                by simp [Endpoint.hasTransport, HashMap.containsKey, htransport]⟩ habsent

/-- An endpoint that was handed transceivers. -/
theorem endpointAt_opened {states : ServerStates} {ids : SessionId × EndpointId}
    {endpoint : Endpoint} (hendpoint : states.endpointAt ids = some endpoint)
    (fourTuple : FourTuple) (associationHandle : Nat) (streamId : UInt16)
    (added : List RTCRtpTransceiver) :
    (opened ids fourTuple associationHandle streamId added states).endpointAt ids =
      some (addTransceivers added ((endpoint.modifyTransport fourTuple
        (·.setAssociationHandleAndStreamId associationHandle streamId)).setRenegotiationNeeded
          !added.isEmpty)) := by
  rw [opened, ServerStates.endpointAt_modifyEndpoint, if_pos rfl,
    ServerStates.endpointAt_modifyEndpoint, if_pos rfl, ServerStates.modifyTransport,
    ServerStates.endpointAt_modifyEndpoint, if_pos rfl, hendpoint]
  rfl

/-- Handing over transceivers writes, and lists mids again only where it relists. -/
theorem written_opened {states : ServerStates} {ids : SessionId × EndpointId}
    {endpoint : Endpoint} (hpermit : ids.1 ∈ permit.sessions)
    (hendpoint : states.endpointAt ids = some endpoint) {fourTuple : FourTuple}
    (hopened : fourTuple ∈ permit.edits.opened) {added : List RTCRtpTransceiver}
    (hnodup : (added.map RTCRtpTransceiver.mid).Nodup)
    (hrelists : (∃ handed ∈ added, endpoint.transceivers.containsKey handed.mid = true) →
      permit.edits.relists) (associationHandle : Nat) (streamId : UInt16) :
    (written permit).rel states
      (opened ids fourTuple associationHandle streamId added states) := by
  have hfirst : (written permit).rel states (states.modifyTransport ids fourTuple
      (·.setAssociationHandleAndStreamId associationHandle streamId)) :=
    states.written_modifyTransport hpermit fourTuple fun transport =>
      .opened transport associationHandle streamId hopened
  have hflagged : (written permit).rel
      (states.modifyTransport ids fourTuple
        (·.setAssociationHandleAndStreamId associationHandle streamId))
      ((states.modifyTransport ids fourTuple
        (·.setAssociationHandleAndStreamId associationHandle streamId)).modifyEndpoint ids
          (·.setRenegotiationNeeded !added.isEmpty)) :=
    ServerStates.written_modifyEndpoint _ hpermit
      fun endpoint _ => .single (.flagged endpoint (!added.isEmpty))
  apply (written permit).trans ((written permit).trans hfirst hflagged)
  apply ServerStates.written_modifyEndpoint _ hpermit
  intro held hheld
  apply Endpoint.written_addTransceivers
  by_cases hlisted : ∃ handed ∈ added, endpoint.transceivers.containsKey handed.mid = true
  · exact Or.inl (hrelists hlisted)
  · refine Or.inr ⟨hnodup, ?_⟩
    intro handed hmem
    have hsame : held.transceivers = endpoint.transceivers := by
      rw [ServerStates.endpointAt_modifyEndpoint, if_pos rfl, ServerStates.modifyTransport,
        ServerStates.endpointAt_modifyEndpoint, if_pos rfl, hendpoint] at hheld
      obtain rfl := Option.some.inj hheld
      rfl
    rw [hsame]
    exact Bool.eq_false_iff.mpr fun hkey => hlisted ⟨handed, hmem, hkey⟩

theorem rel_handleDatachannelOpen {states : ServerStates}
    (hvia : transportContext.fourTuple ∈ permit.via)
    (hopened : transportContext.fourTuple ∈ permit.edits.opened)
    (hrelists : states.Relists orders transportContext → permit.edits.relists)
    (associationHandle : Nat) (streamId : UInt16) :
    (written permit).rel states ((handleDatachannelOpen lib orders now transportContext
      associationHandle streamId).after states) := by
  by_cases hfound : ∃ ids session endpoint,
      senderOf states transportContext = .ok (ids, session) ∧
        session.endpoints.get ids.2 = some endpoint ∧
        endpoint.hasTransport transportContext.fourTuple = true
  · obtain ⟨ids, session, endpoint, hsender, hendpoint, htransport⟩ := hfound
    obtain ⟨hindex, hsession⟩ := senderOf_eq_ok_iff.mp hsender
    rw [after_handleDatachannelOpen hsender hendpoint htransport]
    have hat : states.endpointAt ids = some endpoint := by
      simp [ServerStates.endpointAt, hsession, hendpoint]
    have hpermit : ids.1 ∈ insert ids.1 permit.sessions := Set.mem_insert _ _
    have hwritten : (written { permit with sessions := insert ids.1 permit.sessions }).rel states
        (opened ids transportContext.fourTuple associationHandle streamId
          (newTransceivers orders session ids.2) states) := by
      refine written_opened hpermit hat ?_ (nodup_newTransceivers _ _ _) ?_ _ _
      · exact hopened
      rintro ⟨handed, hmem, hlisted⟩
      exact hrelists ⟨ids, session, endpoint, hsender, hendpoint, htransport, handed, hmem,
        hlisted⟩
    apply ServerStates.written_of_via hvia hindex
    apply (written { permit with sessions := insert ids.1 permit.sessions }).trans hwritten
    apply Fallible.Within.ite
    · intro _
      apply Fallible.Within.bind
      · apply within_createOfferMessageEvent
        exact hvia
      intro offer
      exact Fallible.Within.pure _
    · intro _
      exact Fallible.Within.pure _
  · rw [after_handleDatachannelOpen_of_absent hfound]
    exact (written permit).refl states

/-- A message on a data channel may change the session of its sender, and the sessions that
the index names for the transports of that session. -/
theorem rel_handleDatachannelMessage {moment : Moment} {states : ServerStates} {payload : Bytes}
    (hself : transportContext.fourTuple ∈ permit.via)
    (hvia : ∀ ids, states.endpoints.get transportContext.fourTuple = some ids →
      states.fourTuplesOf ids.1 ⊆ permit.via)
    (hcandidate : ∀ (offer : RTCSessionDescription) (candidate : Candidate),
      lib.fromJson payload = .ok offer → offer.sdpType = .offer →
      states.endpoints.get transportContext.fourTuple = some candidate.ids →
      (ServerStates.acceptOffer lib moment.orders moment.clock moment.fresh candidate.ids
        (some transportContext.fourTuple) offer).result states = .ok candidate.localDescription →
      candidate.remoteDescription.sdp = offer.sdp →
      candidate.localConnCred.iceParams = moment.fresh → candidate ∈ permit.candidates)
    (associationHandle : Nat) (streamId : UInt16) :
    (written permit).rel states ((handleDatachannelMessage lib moment now transportContext
      associationHandle streamId payload).after states) := by
  unfold handleDatachannelMessage
  cases hjson : lib.fromJson payload with
  | error text => exact (written permit).refl states
  | ok requestSdp =>
      show (written permit).rel states ((Fallible.ofExcept (.ok requestSdp) >>= _).after states)
      rw [Fallible.after_ofExcept_bind, Fallible.after_get_bind]
      cases hindex : states.findEndpoint transportContext.fourTuple with
      | none => exact (written permit).refl states
      | some ids =>
          have hpermit : ids.1 ∈ insert ids.1 permit.sessions := Set.mem_insert _ _
          rw [Fallible.after_okOr_bind]
          apply ServerStates.written_of_via hself hindex
          split
          · rename_i htype
            apply Fallible.Within.rel_bind
            · apply ServerStates.rel_acceptOffer hpermit
              rintro candidate rfl haccepted
              exact hcandidate requestSdp candidate hjson htype hindex haccepted
            intro answer accepted haccepted
            apply Fallible.Within.rel_bind
            · exact Fallible.Within.ofExcept _ accepted
            intro answerStr accepted' haccepted'
            rw [Fallible.after_get_bind]
            refine Fallible.Within.ofExcept_bind ?_ accepted'
            intro peers hpeers
            -- the peers are looked up after the offer was accepted, which changed no transport
            have hskeleton : accepted'.skeleton = states.skeleton :=
              haccepted'.skeleton.trans haccepted.skeleton
            obtain ⟨named, hnamed, hpeers⟩ := mem_fourTuplesOf_of_peers hpeers
            have hids : named = ids := by
              have hendpoints : accepted'.endpoints = states.endpoints :=
                congrArg Prod.fst hskeleton
              rw [hendpoints] at hnamed
              exact Option.some.inj (hnamed.symm.trans hindex)
            subst hids
            apply Fallible.Within.bind
            · apply within_offerToPeers
              intro peer hpeer
              apply hvia named hindex
              rw [← ServerStates.fourTuplesOf_of_skeleton hskeleton]
              exact hpeers peer hpeer
            intro offers
            exact Fallible.Within.pure _
          · apply Fallible.Within.bind (ServerStates.within_acceptAnswer hpermit _)
            intro _
            exact Fallible.Within.pure _
          · exact Fallible.Within.throw _ states

end GatewayHandler

/-- What comes of a record, but for the removal of its transport. -/
theorem DtlsHandler.within_tryRead {permit : Permit} {fourTuple : FourTuple}
    {read : Except Error (List DtlsEvent)} (hvia : fourTuple ∈ permit.via)
    (hkeyed : ∀ events contexts messages, read = .ok events →
      collect events = .ok (contexts, messages) →
      ∀ context ∈ contexts, (fourTuple, context) ∈ permit.edits.keyed) :
    Fallible.Within (ServerStates.written permit) (tryRead fourTuple read) := by
  apply Fallible.Within.get_bind
  intro states
  cases hlookup : states.getMutTransport fourTuple with
  | error error => exact (ServerStates.written permit).refl states
  | ok found =>
      obtain ⟨ids, transport⟩ := found
      apply ServerStates.written_of_via hvia ((states.getMutTransport_eq_ok_iff ids).mp hlookup).1
      rw [Fallible.after_ofExcept_bind]
      refine Fallible.Within.ofExcept_bind ?_ states
      intro events hread
      apply Fallible.Within.ofExcept_bind
      rintro ⟨contexts, messages⟩ hcollected
      apply Fallible.Within.bind
      · apply Fallible.Within.forM_mem
        rintro ⟨localContext, remoteContext⟩ hmem
        exact Fallible.Within.modify fun states =>
          states.written_modifyTransport (Set.mem_insert ids.1 _) fourTuple fun transport =>
            .keyed transport localContext remoteContext
              (hkeyed events contexts messages hread hcollected _ hmem)
      intro _
      exact Fallible.Within.pure _

end Sfu
end MediaServer
