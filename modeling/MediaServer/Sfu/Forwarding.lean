import MediaServer.Sfu.Provenance
import MediaServer.Sfu.Registry
import MediaServer.Signal.AudioPaths

/-!
# Forwarding media

A media message whose transport is found is answered by one message for each transport of
the other endpoints of its session that has an SRTP context, and by nothing else
(`handleRead_media_of_ok`).  As long as nobody took over a four tuple, the index finds every
transport, and no address gets the message twice (`forwards_media`).  The audio channel gets
what the media worker is modelled to expect (`tapMedia`).
-/

namespace MediaServer
namespace Sfu

open Foundation Transcription

namespace ServerStates

variable (states : ServerStates)

/-- The transports after a change of one of them. -/
theorem transportAt_modifyTransport (ids other : SessionId × EndpointId)
    (fourTuple heldAt : FourTuple) (f : Transport → Transport) :
    (states.modifyTransport ids fourTuple f).transportAt other heldAt =
      if other = ids ∧ heldAt = fourTuple then (states.transportAt other heldAt).map f
      else states.transportAt other heldAt := by
  rw [transportAt, modifyTransport, endpointAt_modifyEndpoint, transportAt]
  by_cases hids : other = ids
  · cases states.endpointAt other with
    | none => simp
    | some endpoint =>
        by_cases hheldAt : heldAt = fourTuple <;>
          simp [hids, hheldAt, Endpoint.modifyTransport]
  · simp [hids]

/-- Changing a transport leaves it where it is. -/
theorem Registered.modifyTransport {states : ServerStates} (hregistered : states.Registered)
    (ids : SessionId × EndpointId) (fourTuple : FourTuple) (f : Transport → Transport) :
    (states.modifyTransport ids fourTuple f).Registered := by
  intro heldAt other hheld
  apply hregistered heldAt other
  rw [transportAt_modifyTransport] at hheld
  split at hheld
  · rwa [Option.isSome_map] at hheld
  · exact hheld

/-- A transport is changed where the index finds it. -/
theorem outcome_updateTransport (fourTuple : FourTuple) (f : Transport → Transport) :
    (updateTransport fourTuple f).outcome states =
      match states.getMutTransport fourTuple with
      | .error error => (.error error, states)
      | .ok (ids, _) => (.ok (), states.modifyTransport ids fourTuple f) := by
  rw [updateTransport, Fallible.outcome_bind_ok (Fallible.outcome_get states),
    Fallible.outcome_bind, Fallible.outcome_ofExcept]
  cases states.getMutTransport fourTuple <;> rfl

/-- A session that is there, and its endpoint, by the endpoint. -/
theorem endpointAt_of_session {sessionId : SessionId} {session : Session}
    (hsession : states.sessions.get sessionId = some session) (endpointId : EndpointId) :
    states.endpointAt (sessionId, endpointId) = session.endpoints.get endpointId := by
  simp [endpointAt, hsession]

end ServerStates

namespace GatewayHandler

variable {states : ServerStates} {orders : Orders} {transportContext : TransportContext}
  {ids : SessionId × EndpointId} {contexts : List TransportContext}

theorem mem_otherTransports_iff {session : Session} {endpointId : EndpointId}
    {endpoint : Endpoint} {fourTuple : FourTuple} {transport : Transport} :
    (endpoint, fourTuple, transport) ∈ otherTransports orders session endpointId ↔
      ∃ other, other ≠ endpointId ∧ session.endpoints.get other = some endpoint ∧
        endpoint.transports.get fourTuple = some transport := by
  simp only [otherTransports, List.mem_flatMap, Prod.exists, HashMap.mem_iter]
  constructor
  · rintro ⟨other, held, hheld, hmem⟩
    split at hmem
    · rename_i hother
      obtain ⟨⟨key, value⟩, hvalue, heq⟩ := List.mem_map.mp hmem
      rw [HashMap.mem_iter] at hvalue
      obtain ⟨rfl, rfl, rfl⟩ := by simpa using heq
      exact ⟨other, hother, hheld, hvalue⟩
    · simp at hmem
  · rintro ⟨other, hother, hheld, htransport⟩
    refine ⟨other, endpoint, hheld, ?_⟩
    rw [if_pos hother]
    exact List.mem_map.mpr ⟨(fourTuple, transport), HashMap.mem_iter.mpr htransport, rfl⟩

/-- The contexts that media goes to: those of the transports of the other endpoints of the
session that have an SRTP context. -/
theorem mem_mediaContexts_iff
    (hcontexts : getOtherMediaTransportContexts orders states transportContext = .ok contexts)
    (hindex : states.endpoints.get transportContext.fourTuple = some ids)
    (context : TransportContext) :
    context ∈ contexts ↔ context.ecn = transportContext.ecn ∧
      ∃ other transport, other ≠ ids.2 ∧
        states.transportAt (ids.1, other) context.fourTuple = some transport ∧
        transport.isLocalSrtpContextReady = true := by
  unfold getOtherMediaTransportContexts at hcontexts
  split at hcontexts
  · contradiction
  · rename_i sessionId endpointId session hsender
    obtain ⟨hnamed, hsession⟩ := senderOf_eq_ok_iff.mp hsender
    obtain rfl := Option.some.inj (hnamed.symm.trans hindex)
    obtain rfl := Except.ok.inj hcontexts
    simp only [List.mem_filterMap, Prod.exists, mem_otherTransports_iff]
    constructor
    · rintro ⟨endpoint, fourTuple, transport, ⟨other, hother, hendpoint, htransport⟩, hready⟩
      split at hready
      · rename_i hkeyed
        obtain rfl := Option.some.inj hready
        refine ⟨rfl, other, transport, hother, ?_, hkeyed⟩
        rw [ServerStates.transportAt, states.endpointAt_of_session hsession, hendpoint]
        exact htransport
      · contradiction
    · rintro ⟨hecn, other, transport, hother, hheld, hkeyed⟩
      rw [ServerStates.transportAt, states.endpointAt_of_session hsession] at hheld
      obtain ⟨endpoint, hendpoint, htransport⟩ := Option.bind_eq_some_iff.mp hheld
      refine ⟨endpoint, context.fourTuple, transport, ⟨other, hother, hendpoint, htransport⟩, ?_⟩
      rw [if_pos hkeyed, contextOf, ← hecn]
      rfl

/-- Where the index knows every transport, the other transports of a session have different
four tuples. -/
theorem pairwise_otherTransports (orders : Orders) (hregistered : states.Registered)
    {sessionId : SessionId} {session : Session}
    (hsession : states.sessions.get sessionId = some session) (endpointId : EndpointId) :
    (otherTransports orders session endpointId).Pairwise
      fun first second => first.2.1 ≠ second.2.1 := by
  have hnamed : ∀ other endpoint fourTuple transport,
      session.endpoints.get other = some endpoint →
      endpoint.transports.get fourTuple = some transport →
      states.endpoints.get fourTuple = some (sessionId, other) := by
    intro other endpoint fourTuple transport hendpoint htransport
    apply hregistered
    rw [ServerStates.transportAt, states.endpointAt_of_session hsession, hendpoint,
      Option.bind_some, htransport]
    rfl
  unfold otherTransports
  rw [List.pairwise_flatMap]
  constructor
  · rintro ⟨other, endpoint⟩ -
    dsimp only
    split
    · have hkeys := HashMap.nodup_map_fst_iter orders.transports endpoint.transports
      rw [List.Nodup, List.pairwise_map] at hkeys
      exact List.pairwise_map.mpr hkeys
    · exact List.Pairwise.nil
  · have hkeys := HashMap.nodup_map_fst_iter orders.endpoints session.endpoints
    rw [List.Nodup, List.pairwise_map] at hkeys
    refine hkeys.imp_of_mem ?_
    rintro ⟨first, firstEndpoint⟩ ⟨second, secondEndpoint⟩ hfirst hsecond hne
    rw [HashMap.mem_iter] at hfirst hsecond
    intro held hheld other hother heq
    dsimp only at hheld hother
    split at hheld
    · split at hother
      · obtain ⟨⟨fourTuple, transport⟩, htransport, rfl⟩ := List.mem_map.mp hheld
        obtain ⟨⟨fourTuple', transport'⟩, htransport', rfl⟩ := List.mem_map.mp hother
        rw [HashMap.mem_iter] at htransport htransport'
        have hfirstNamed := hnamed first _ _ _ hfirst htransport
        have hsecondNamed := hnamed second _ _ _ hsecond htransport'
        dsimp only at heq
        rw [heq, hsecondNamed] at hfirstNamed
        exact hne (Prod.mk.inj (Option.some.inj hfirstNamed)).2.symm
      · simp at hother
    · simp at hheld

/-- Where the index knows every transport, media goes to no context twice. -/
theorem nodup_mediaContexts (hregistered : states.Registered)
    (hcontexts : getOtherMediaTransportContexts orders states transportContext = .ok contexts) :
    contexts.Nodup := by
  unfold getOtherMediaTransportContexts at hcontexts
  split at hcontexts
  · contradiction
  · rename_i sessionId endpointId session hsender
    obtain rfl := Except.ok.inj hcontexts
    have hothers := pairwise_otherTransports orders hregistered
      (senderOf_eq_ok_iff.mp hsender).2 endpointId
    refine hothers.filterMap _ ?_
    rintro ⟨_, first, firstTransport⟩ ⟨_, second, secondTransport⟩ hne context hcontext
      other hother heq
    dsimp only at hcontext hother hne
    split at hcontext
    · split at hother
      · obtain rfl := Option.some.inj hcontext
        obtain rfl := Option.some.inj hother
        exact hne (congrArg TransportContext.fourTuple heq)
      · contradiction
    · contradiction

/-! ## One media message -/

/-- What the audio channel gets of a media message of an endpoint. -/
def tapMedia (ids : SessionId × EndpointId) : RTPMessageEvent → List Signal.AudioPacketInfo
  | .rtp packet => (Signal.tapAudio ⟨some ids, Signal.packetParts packet⟩).toList
  | _ => []

/-- The copies of a media message for some contexts. -/
def copies (now : Instant) (event : RTPMessageEvent) (contexts : List TransportContext) :
    List TaggedMessageEvent :=
  contexts.map fun context => ⟨now, context, .rtp event⟩

variable {gateway : GatewayHandler} {msg : TaggedMessageEvent} {event : RTPMessageEvent}

/-- The gateway taps what the media worker expects it to tap. -/
theorem sendAudio_eq (ids : SessionId × EndpointId) (packet : Rtp.Packet)
    (gateway : GatewayHandler) :
    gateway.sendAudio packet =
      { gateway with audioTx := gateway.audioTx.map (· ++ tapMedia ids (.rtp packet)) } := by
  unfold sendAudio tapMedia Signal.tapAudio
  cases haudio : Signal.isAudioPayloadType packet.payloadType with
  | false => simp [Signal.packetParts, haudio]
  | true => simp [Signal.packetParts, haudio, audioInfo]

/-- The transport of media is found, kept alive and tapped, and the media is copied. -/
theorem outcome_tryRead_media (lib : Libraries) (moment : Moment)
    (hmsg : msg.message = .rtp event) (hmedia : msg.IsMedia) :
    (tryRead lib moment msg).outcome gateway =
      match gateway.serverStates.getMutTransport msg.transport.fourTuple with
      | .error error => (.error error, gateway)
      | .ok (ids, _) =>
          let heard := gateway.serverStates.modifyTransport ids msg.transport.fourTuple
            (·.keepAlive moment.clock)
          ((getOtherMediaTransportContexts moment.orders heard msg.transport).map
            (copies msg.now event),
            { gateway with
              serverStates := heard
              audioTx := gateway.audioTx.map (· ++ tapMedia ids event) }) := by
  have hupdate : ∀ f : Transport → Transport,
      (onStates (ServerStates.updateTransport msg.transport.fourTuple f)).outcome gateway =
      match gateway.serverStates.getMutTransport msg.transport.fourTuple with
      | .error error => (.error error, gateway)
      | .ok (ids, _) => (.ok (), { gateway with
          serverStates := gateway.serverStates.modifyTransport ids msg.transport.fourTuple f }) := by
    intro f
    rw [onStates, Fallible.outcome_onPart, Fallible.result, Fallible.after,
      ServerStates.outcome_updateTransport]
    cases gateway.serverStates.getMutTransport msg.transport.fourTuple <;> rfl
  have hforward : ∀ heard : GatewayHandler,
      (forward moment.orders msg.now msg.transport event).outcome heard =
        ((getOtherMediaTransportContexts moment.orders heard.serverStates msg.transport).map
          (copies msg.now event), heard) := by
    intro heard
    rw [forward, Fallible.outcome_bind_ok (Fallible.outcome_get heard), Fallible.outcome_bind,
      Fallible.outcome_ofExcept]
    cases getOtherMediaTransportContexts moment.orders heard.serverStates msg.transport <;> rfl
  rcases hmedia with ⟨packet, hpacket⟩ | ⟨packets, hpackets⟩
  · obtain rfl := MessageEvent.rtp.inj (hmsg.symm.trans hpacket)
    rw [tryRead, hmsg]
    dsimp only
    rw [handleRtpMessage, Fallible.outcome_bind, hupdate]
    cases gateway.serverStates.getMutTransport msg.transport.fourTuple with
    | error error => rfl
    | ok found =>
        dsimp only
        rw [Fallible.outcome_bind_ok (Fallible.outcome_modify _ _), hforward,
          sendAudio_eq found.1]
  · obtain rfl := MessageEvent.rtp.inj (hmsg.symm.trans hpackets)
    rw [tryRead, hmsg]
    dsimp only
    rw [handleRtcpMessage, Fallible.outcome_bind, hupdate]
    cases gateway.serverStates.getMutTransport msg.transport.fourTuple with
    | error error => rfl
    | ok found =>
        dsimp only
        rw [hforward]
        simp [tapMedia]

/-- Media of a transport goes to the transports of the other endpoints of its session that
have an SRTP context, and nowhere else. -/
theorem handleRead_media_of_ok (lib : Libraries) (moment : Moment) {transport : Transport}
    (hmsg : msg.message = .rtp event) (hmedia : msg.IsMedia)
    (hlookup : gateway.serverStates.getMutTransport msg.transport.fourTuple =
      .ok (ids, transport)) :
    ∃ contexts,
      getOtherMediaTransportContexts moment.orders (gateway.serverStates.modifyTransport ids
        msg.transport.fourTuple (·.keepAlive moment.clock)) msg.transport = .ok contexts ∧
      gateway.handleRead lib moment msg =
        ({ gateway with
          serverStates := gateway.serverStates.modifyTransport ids msg.transport.fourTuple
            (·.keepAlive moment.clock)
          transmits := gateway.transmits.pushAll (copies msg.now event contexts)
          audioTx := gateway.audioTx.map (· ++ tapMedia ids event) }, none) ∧
      ∀ context, context ∈ contexts ↔ context.ecn = msg.transport.ecn ∧
        ∃ other peer, other ≠ ids.2 ∧
          gateway.serverStates.transportAt (ids.1, other) context.fourTuple = some peer ∧
          peer.isLocalSrtpContextReady = true := by
  obtain ⟨hindex, hheld⟩ := (gateway.serverStates.getMutTransport_eq_ok_iff ids).mp hlookup
  have hcontexts : ∃ contexts,
      getOtherMediaTransportContexts moment.orders (gateway.serverStates.modifyTransport ids
        msg.transport.fourTuple (·.keepAlive moment.clock)) msg.transport = .ok contexts := by
    obtain ⟨endpoint, hendpoint, -⟩ := Option.bind_eq_some_iff.mp hheld
    obtain ⟨session, hsession, -⟩ := Option.bind_eq_some_iff.mp hendpoint
    have hsender : ∃ session, senderOf (gateway.serverStates.modifyTransport ids
        msg.transport.fourTuple (·.keepAlive moment.clock)) msg.transport = .ok (ids, session) :=
      ⟨_, senderOf_eq_ok_iff.mpr ⟨hindex, by
        rw [ServerStates.modifyTransport, ServerStates.modifyEndpoint,
          ServerStates.modifySession, HashMap.get_modify, if_pos rfl, hsession]
        rfl⟩⟩
    obtain ⟨session, hsender⟩ := hsender
    rw [getOtherMediaTransportContexts, hsender]
    exact ⟨_, rfl⟩
  obtain ⟨contexts, hcontexts⟩ := hcontexts
  refine ⟨contexts, hcontexts, ?_, ?_⟩
  · unfold handleRead
    rw [outcome_tryRead_media lib moment hmsg hmedia, hlookup]
    dsimp only
    rw [hcontexts]
    rfl
  · intro context
    rw [mem_mediaContexts_iff hcontexts hindex]
    apply and_congr_right
    intro _
    -- the transport that was kept alive is not one of those
    have hother : ∀ other, other ≠ ids.2 →
        (gateway.serverStates.modifyTransport ids msg.transport.fourTuple
          (·.keepAlive moment.clock)).transportAt (ids.1, other) context.fourTuple =
        gateway.serverStates.transportAt (ids.1, other) context.fourTuple := by
      intro other hne
      rw [ServerStates.transportAt_modifyTransport, if_neg]
      rintro ⟨heq, -⟩
      exact hne (congrArg Prod.snd heq)
    constructor
    · rintro ⟨other, peer, hne, hpeer, hready⟩
      exact ⟨other, peer, hne, (hother other hne).symm.trans hpeer, hready⟩
    · rintro ⟨other, peer, hne, hpeer, hready⟩
      exact ⟨other, peer, hne, (hother other hne).trans hpeer, hready⟩

end GatewayHandler

section Forwards

variable {lib : Libraries} {start gateway : GatewayHandler} {moves : List SfuMove}

/-- As long as nobody took over a four tuple, media of a transport is queued once for each
transport of the other endpoints of its session that has an SRTP context, and for nobody
else, and the audio channel gets what the media worker expects. -/
theorem forwards_media (hfresh : start.Fresh) (hrun : (sfu lib).Run start moves gateway)
    (hkept : ∀ move ∈ moves, ¬TakesOver lib move) (moment : Moment) {msg : TaggedMessageEvent}
    {event : RTPMessageEvent} (hmsg : msg.message = .rtp event) (hmedia : msg.IsMedia)
    {ids : SessionId × EndpointId} {transport : Transport}
    (hheld : gateway.serverStates.transportAt ids msg.transport.fourTuple = some transport) :
    ∃ contexts,
      gateway.handleRead lib moment msg =
        ({ gateway with
          serverStates := gateway.serverStates.modifyTransport ids msg.transport.fourTuple
            (·.keepAlive moment.clock)
          transmits := gateway.transmits.pushAll (GatewayHandler.copies msg.now event contexts)
          audioTx := gateway.audioTx.map (· ++ GatewayHandler.tapMedia ids event) }, none) ∧
      contexts.Nodup ∧
      ∀ context, context ∈ contexts ↔ context.ecn = msg.transport.ecn ∧
        ∃ other peer, other ≠ ids.2 ∧
          gateway.serverStates.transportAt (ids.1, other) context.fourTuple = some peer ∧
          peer.isLocalSrtpContextReady = true := by
  have hregistered := registered_of_run hfresh hrun hkept
  have hindex := hregistered msg.transport.fourTuple ids (by rw [hheld]; rfl)
  have hlookup := (gateway.serverStates.getMutTransport_eq_ok_iff ids).mpr ⟨hindex, hheld⟩
  obtain ⟨contexts, hcontexts, hread, hmem⟩ :=
    GatewayHandler.handleRead_media_of_ok lib moment hmsg hmedia hlookup
  refine ⟨contexts, hread, ?_, hmem⟩
  exact GatewayHandler.nodup_mediaContexts (hregistered.modifyTransport _ _ _) hcontexts

/-- The packet of the first peer goes to the second, who has keys, and to the audio channel. -/
theorem forwards_media_meeting :
    GatewayHandler.tapMedia (1, 10) (.rtp (packetFrom 1)) = [⟨1, 1, 1, 111, [7]⟩] ∧
    ∃ contexts, contextAt 5002 ∈ contexts ∧
      (sfuAfter plainLibraries tappedGateway meeting).handleRead plainLibraries (momentWith 5 "")
          ⟨5, contextAt 5001, .rtp (.rtp (packetFrom 1))⟩ =
        ({ sfuAfter plainLibraries tappedGateway meeting with
          serverStates := (sfuAfter plainLibraries tappedGateway meeting).serverStates.modifyTransport
            (1, 10) (contextAt 5001).fourTuple (·.keepAlive 5)
          transmits := (sfuAfter plainLibraries tappedGateway meeting).transmits.pushAll
            (GatewayHandler.copies 5 (.rtp (packetFrom 1)) contexts)
          audioTx := (sfuAfter plainLibraries tappedGateway meeting).audioTx.map
            (· ++ GatewayHandler.tapMedia (1, 10) (.rtp (packetFrom 1))) }, none) ∧
      contexts.Nodup ∧
      ∀ context, context ∈ contexts ↔ context.ecn = (contextAt 5001).ecn ∧
        ∃ other peer, other ≠ (1, 10).2 ∧
          (sfuAfter plainLibraries tappedGateway meeting).serverStates.transportAt (1, other)
            context.fourTuple = some peer ∧
          peer.isLocalSrtpContextReady = true := by
  have hheld : ((sfuAfter plainLibraries tappedGateway meeting).serverStates.transportAt (1, 10)
      (contextAt 5001).fourTuple).isSome := by decide +kernel
  have hkeyed : (((sfuAfter plainLibraries tappedGateway meeting).serverStates.transportAt (1, 20)
      (contextAt 5002).fourTuple).filter (·.isLocalSrtpContextReady)).isSome := by decide +kernel
  have hkept : ∀ move ∈ sfuMoves plainLibraries tappedGateway meeting,
      ¬TakesOver plainLibraries move := by decide +kernel
  obtain ⟨transport, htransport⟩ := Option.isSome_iff_exists.mp hheld
  have hmsg : (⟨5, contextAt 5001, .rtp (.rtp (packetFrom 1))⟩ : TaggedMessageEvent).message =
      .rtp (.rtp (packetFrom 1)) := rfl
  obtain ⟨contexts, hread, hnodup, hmem⟩ := forwards_media fresh_tapped
    (run_sfuMoves plainLibraries tappedGateway meeting) hkept (momentWith 5 "") hmsg
    (Or.inl ⟨packetFrom 1, hmsg⟩) htransport
  obtain ⟨peer, hfound⟩ := Option.isSome_iff_exists.mp hkeyed
  obtain ⟨hpeer, hready⟩ := Option.filter_eq_some_iff.mp hfound
  refine ⟨by decide +kernel, contexts, ?_, hread, hnodup, hmem⟩
  exact (hmem _).mpr ⟨rfl, 20, peer, by decide, hpeer, hready⟩

end Forwards

end Sfu
end MediaServer
