import MediaServer.Sfu.Filed

/-!
# What endpoints list

An endpoint lists a mid for each of its transceivers, in every state that a fresh SFU can
reach (`listed_of_run`).  It lists none twice exactly as long as no data channel opens at
an endpoint that has been handed a transceiver of another one already, by an offer that
came before, or because a data channel was open (`distinct_mids_iff`).
-/

namespace MediaServer
namespace Sfu

open Foundation Transcription

/-! ## Properties of what endpoints list -/

namespace ServerStates

/-- A property of every endpoint. -/
def EveryEndpoint (P : Endpoint → Prop) (states : ServerStates) : Prop :=
  ∀ ids endpoint, states.endpointAt ids = some endpoint → P endpoint

variable {P : Endpoint → Prop} {states : ServerStates}

/-- What every write keeps, calls that write keep. -/
theorem EveryEndpoint.of_written {permit : Permit} {after : ServerStates}
    (hwrite : ∀ before after, EndpointWrite permit.edits before after → P before → P after)
    (hwritten : Written permit states after) (hevery : states.EveryEndpoint P) :
    after.EveryEndpoint P := by
  intro ids endpoint hendpoint
  rw [endpointAt_eq] at hendpoint
  obtain ⟨earlier, hearlier, hrel⟩ :=
    Frame.pointwise_some' (hwritten.sessionAt ids.1).2 hendpoint
  rw [← endpointAt_eq] at hearlier
  exact Frame.keep_of_star P hwrite hrel (hevery ids earlier hearlier)

section Listing

variable (hsame : ∀ before after : Endpoint, after.mids = before.mids →
  after.transceivers = before.transceivers → P before → P after)
include hsame

/-- An admission gives an endpoint a transport, and nothing to list. -/
theorem EveryEndpoint.of_admission (hnew : ∀ endpointId, P (Endpoint.new endpointId))
    {lib : Libraries} {input : Moment × SfuEvent} {admitted : Admission}
    (hadmitted : admission lib states input = some admitted) (hevery : states.EveryEndpoint P) :
    (states.enroll admitted).EveryEndpoint P := by
  intro ids endpoint hendpoint
  rw [endpointAt_enroll hadmitted] at hendpoint
  split at hendpoint
  · obtain rfl := Option.some.inj hendpoint
    cases hheld : states.endpointAt ids with
    | none => exact hsame (Endpoint.new admitted.candidate.endpointId) _ rfl rfl (hnew _)
    | some held => exact hsame held _ rfl rfl (hevery ids held hheld)
  · exact hevery ids endpoint hendpoint

/-- A removal takes nothing that is listed. -/
theorem EveryEndpoint.of_removeTransport (fourTuple : FourTuple)
    (hevery : states.EveryEndpoint P) : (states.removeTransport fourTuple).EveryEndpoint P := by
  cases hlookup : states.getMutEndpoint fourTuple with
  | error error => rwa [states.removeTransport_of_error hlookup]
  | ok found =>
      obtain ⟨named, held⟩ := found
      have hheld := ((states.getMutEndpoint_eq_ok_iff named).mp hlookup).2
      intro ids endpoint hendpoint
      rw [endpointAt_removeTransport hlookup] at hendpoint
      split at hendpoint
      · split at hendpoint
        · contradiction
        · obtain rfl := Option.some.inj hendpoint
          exact hsame held _ rfl rfl (hevery named held hheld)
      · exact hevery ids endpoint hendpoint

end Listing

theorem everyEndpoint_of_fresh {gateway : GatewayHandler} (hfresh : gateway.Fresh) :
    gateway.serverStates.EveryEndpoint P := by
  obtain ⟨serverConfig, localAddr, hstates⟩ := hfresh.serverStates
  intro ids endpoint hendpoint
  rw [hstates] at hendpoint
  simp [endpointAt] at hendpoint

end ServerStates

/-! ## Writes -/

namespace EndpointWrite

variable {edits : Edits} {before after : Endpoint}

/-- A write keeps the list of mids and the transceivers together. -/
theorem listed (hwrite : EndpointWrite edits before after) (hlisted : before.Listed) :
    after.Listed := by
  cases hwrite with
  | flagged needed => exact ⟨hlisted.mids, hlisted.transceivers⟩
  | added mid transceiver hmid hnew =>
      constructor
      · intro other
        simp only [Endpoint.addTransceiver, List.mem_append, List.mem_singleton,
          HashMap.containsKey_insert, Bool.or_eq_true, decide_eq_true_eq, hlisted.mids other]
        exact or_comm
      · intro other held hheld
        rw [Endpoint.addTransceiver, HashMap.get_insert] at hheld
        split at hheld
        · rename_i heq
          obtain rfl := Option.some.inj hheld
          exact hmid.trans heq.symm
        · exact hlisted.transceivers other held hheld
  | turned mid f hf =>
      constructor
      · intro other
        simp only [Endpoint.modifyTransceiver, HashMap.containsKey_modify]
        exact hlisted.mids other
      · intro other held hheld
        rw [Endpoint.modifyTransceiver, HashMap.get_modify] at hheld
        split at hheld
        · obtain ⟨earlier, hearlier, rfl⟩ := Option.map_eq_some_iff.mp hheld
          obtain ⟨direction, currentDirection, hturned⟩ := hf earlier
          rw [hturned]
          exact hlisted.transceivers other earlier hearlier
        · exact hlisted.transceivers other held hheld
  | transport fourTuple f hf => exact ⟨hlisted.mids, hlisted.transceivers⟩

/-- Mids are only ever appended. -/
theorem mids_prefix (hwrite : EndpointWrite edits before after) :
    before.mids <+: after.mids := by
  cases hwrite with
  | added mid transceiver hmid hnew => exact List.prefix_append _ _
  | _ => exact List.prefix_rfl

/-- A write that does not relist appends a mid that is new. -/
theorem nodup_mids (hwrite : EndpointWrite edits before after) (hrelists : ¬edits.relists)
    (hlisted : before.Listed) (hnodup : before.mids.Nodup) : after.mids.Nodup := by
  cases hwrite with
  | added mid transceiver hmid hnew =>
      rcases hnew with hnone | hrelisted
      · have hother : mid ∉ before.mids := by
          rw [hlisted.mids, HashMap.containsKey, hnone]
          simp
        rw [Endpoint.addTransceiver, List.nodup_append]
        refine ⟨hnodup, List.nodup_singleton mid, ?_⟩
        rintro other hmem last hlast rfl
        rw [List.mem_singleton.mp hlast] at hmem
        exact hother hmem
      · exact absurd hrelisted hrelists
  | _ => exact hnodup

end EndpointWrite

/-! ## Runs -/

/-- A call that opens a data channel at an endpoint that lists a mid which it is handed. -/
def Relists (move : SfuMove) : Prop :=
  ∃ moment msg, move.input = (moment, .read msg) ∧ msg.OpensDataChannel ∧
    move.pre.serverStates.Relists moment.orders msg.transport

instance (msg : TaggedMessageEvent) : Decidable msg.OpensDataChannel :=
  match hmsg : msg.message with
  | .dtls (.dataChannel message) =>
      decidable_of_iff (message.dataChannelEvent = .open) ⟨fun hopen => ⟨message, hmsg, hopen⟩, by
        rintro ⟨other, hother, hopen⟩
        obtain rfl : message = other := by simpa [hmsg] using hother
        exact hopen⟩
  | .dtls (.raw _) | .dtls (.sctp _) | .stun _ | .rtp _ =>
      isFalse (by rintro ⟨message, hother, -⟩; simp [hmsg] at hother)

instance (move : SfuMove) : Decidable (Relists move) :=
  match hinput : move.input with
  | (moment, .read msg) =>
      decidable_of_iff (msg.OpensDataChannel ∧
        move.pre.serverStates.Relists moment.orders msg.transport)
        ⟨fun hrelists => ⟨moment, msg, hinput, hrelists⟩, by
          rintro ⟨other, said, hother, hrelists⟩
          obtain ⟨rfl, heq⟩ := Prod.mk.inj (hinput.symm.trans hother)
          obtain rfl := SfuEvent.read.inj heq
          exact hrelists⟩
  | (_, .offer _ _ _) | (_, .dtls _ _) | (_, .timeout _) | (_, .pollWrite) =>
      isFalse (by rintro ⟨moment, msg, hother, -⟩; simp [hinput] at hother)

section Runs

variable {lib : Libraries} {start final : GatewayHandler} {moves : List SfuMove} {move : SfuMove}

theorem relists_of_permit
    (hrelists : (permitOf lib move.pre.serverStates move.input).edits.relists) : Relists move := by
  obtain ⟨gateway, ⟨moment, event⟩, post, outputs⟩ := move
  cases event with
  | read msg => exact ⟨moment, msg, rfl, hrelists⟩
  | _ => exact absurd hrelists id

theorem listed_of_same (before after : Endpoint) (hmids : after.mids = before.mids)
    (htransceivers : after.transceivers = before.transceivers) (hlisted : before.Listed) :
    after.Listed :=
  ⟨by rw [hmids, htransceivers]; exact hlisted.mids,
    by rw [htransceivers]; exact hlisted.transceivers⟩

/-- Endpoints list what they have. -/
theorem listed_of_run (hfresh : start.Fresh) (hrun : (sfu lib).Run start moves final) :
    final.serverStates.EveryEndpoint Endpoint.Listed := by
  apply invariant_of_run (ServerStates.EveryEndpoint Endpoint.Listed) _ _ _ hrun
    (ServerStates.everyEndpoint_of_fresh hfresh)
  · intro permit before after hwritten hevery
    exact hevery.of_written (fun _ _ hwrite => hwrite.listed) hwritten
  · intro states input admitted hadmitted hevery
    exact hevery.of_admission listed_of_same Endpoint.listed_new hadmitted
  · intro states fourTuple hevery
    exact hevery.of_removeTransport listed_of_same fourTuple

/-- An endpoint that lists its transceivers, each once. -/
def Endpoint.ListedOnce (endpoint : Endpoint) : Prop := endpoint.Listed ∧ endpoint.mids.Nodup

/-- A call that does not relist leaves nothing listed twice. -/
theorem listedOnce_of_fires (hfires : (sfu lib).Fires move) (hrelists : ¬Relists move)
    (hevery : move.pre.serverStates.EveryEndpoint Endpoint.ListedOnce) :
    move.post.serverStates.EveryEndpoint Endpoint.ListedOnce := by
  have hsame : ∀ before after : Endpoint, after.mids = before.mids →
      after.transceivers = before.transceivers → before.ListedOnce → after.ListedOnce := by
    intro before after hmids htransceivers hlisted
    exact ⟨listed_of_same before after hmids htransceivers hlisted.1, hmids ▸ hlisted.2⟩
  rcases effect_of_fires hfires with ⟨admitted, hadmitted, hpost⟩ | ⟨-, written, hwrote, hpost⟩
  · rw [hpost]
    exact hevery.of_admission hsame (fun endpointId => ⟨Endpoint.listed_new endpointId, List.nodup_nil⟩)
      hadmitted
  · rw [hpost]
    apply ServerStates.removeTransports_keeps (ServerStates.EveryEndpoint Endpoint.ListedOnce)
    · intro states fourTuple hevery
      exact hevery.of_removeTransport hsame fourTuple
    · refine hevery.of_written ?_ hwrote
      intro before after hwrite hbefore
      exact ⟨hwrite.listed hbefore.1, hwrite.nodup_mids
        (fun hpermit => hrelists (relists_of_permit hpermit)) hbefore.1 hbefore.2⟩

theorem listedOnce_of_run (hfresh : start.Fresh) (hrun : (sfu lib).Run start moves final)
    (hnever : ∀ move ∈ moves, ¬Relists move) :
    final.serverStates.EveryEndpoint Endpoint.ListedOnce :=
  hrun.invariant_of_steps (fun gateway => gateway.serverStates.EveryEndpoint Endpoint.ListedOnce)
    (fun _ => listedOnce_of_fires) hnever (ServerStates.everyEndpoint_of_fresh hfresh)

/-- What a data channel that opens does to the states. -/
theorem serverStates_of_open {gateway : GatewayHandler} {moment : Moment}
    {msg : TaggedMessageEvent} {message : ApplicationMessage}
    (hmsg : msg.message = .dtls (.dataChannel message)) (hopen : message.dataChannelEvent = .open) :
    (sfuStep lib gateway (moment, .read msg)).1.serverStates =
      (GatewayHandler.handleDatachannelOpen lib moment.orders msg.now msg.transport
        message.associationHandle message.streamId).after gateway.serverStates := by
  rw [serverStates_read, GatewayHandler.tryRead, hmsg]
  dsimp only
  rw [GatewayHandler.serverStates_after_onStates, GatewayHandler.handleDtlsMessage, hopen]

/-- An endpoint that lists a mid twice goes on to do so. -/
theorem twice_of_written {permit : Permit} {before after : ServerStates}
    {ids : SessionId × EndpointId} {endpoint : Endpoint}
    (hwritten : ServerStates.Written permit before after)
    (hendpoint : before.endpointAt ids = some endpoint) (htwice : ¬endpoint.mids.Nodup) :
    ∃ next, after.endpointAt ids = some next ∧ ¬next.mids.Nodup := by
  rw [ServerStates.endpointAt_eq] at hendpoint
  obtain ⟨next, hnext, hrel⟩ := Frame.pointwise_some (hwritten.sessionAt ids.1).2 hendpoint
  refine ⟨next, by rwa [ServerStates.endpointAt_eq], ?_⟩
  apply Frame.keep_of_star (fun endpoint : Endpoint => ¬endpoint.mids.Nodup) _ hrel htwice
  intro earlier later hwrite hearlier hlater
  exact hearlier (hlater.sublist hwrite.mids_prefix.sublist)

/-- A call that relists leaves an endpoint that lists a mid twice. -/
theorem twice_of_relists (hfires : (sfu lib).Fires move) (hrelists : Relists move)
    (hevery : move.pre.serverStates.EveryEndpoint Endpoint.Listed) :
    ¬move.post.serverStates.EveryEndpoint fun endpoint => endpoint.mids.Nodup := by
  obtain ⟨moment, msg, hinput, ⟨message, hmsg, hopen⟩, ids, session, endpoint, hsender, hendpoint,
    htransport, handed, hmem, hlisted⟩ := hrelists
  have hat : move.pre.serverStates.endpointAt ids = some endpoint := by
    simp [ServerStates.endpointAt, (GatewayHandler.senderOf_eq_ok_iff.mp hsender).2, hendpoint]
  have hopened := GatewayHandler.endpointAt_opened hat msg.transport.fourTuple
    message.associationHandle message.streamId
    (GatewayHandler.newTransceivers moment.orders session ids.2)
  have htwice : ¬(GatewayHandler.addTransceivers
      (GatewayHandler.newTransceivers moment.orders session ids.2)
      ((endpoint.modifyTransport msg.transport.fourTuple
        (·.setAssociationHandleAndStreamId message.associationHandle
          message.streamId)).setRenegotiationNeeded
            !(GatewayHandler.newTransceivers moment.orders session ids.2).isEmpty)).mids.Nodup := by
    rw [Endpoint.mids_addTransceivers, List.nodup_append]
    rintro ⟨-, -, hdisjoint⟩
    have hmid := ((hevery ids endpoint hat).mids handed.mid).mpr hlisted
    exact hdisjoint handed.mid hmid handed.mid (List.mem_map_of_mem hmem) rfl
  -- the offer that may follow writes, but takes no mid away
  have hwritten : (ServerStates.written ⟨∅, {msg.transport.fourTuple}, ∅, Edits.none⟩).rel
      (GatewayHandler.opened ids msg.transport.fourTuple message.associationHandle
        message.streamId (GatewayHandler.newTransceivers moment.orders session ids.2)
          move.pre.serverStates) move.post.serverStates := by
    rw [post_of_fires hfires, hinput, serverStates_of_open hmsg hopen,
      GatewayHandler.after_handleDatachannelOpen hsender hendpoint htransport]
    apply Fallible.Within.ite
    · intro _
      apply Fallible.Within.bind
      · exact GatewayHandler.within_createOfferMessageEvent (Set.mem_singleton _) _ _
      intro offer
      exact Fallible.Within.pure _
    · intro _
      exact Fallible.Within.pure _
  obtain ⟨next, hnext, hstill⟩ := twice_of_written hwritten hopened htwice
  exact fun hdistinct => hstill (hdistinct ids next hnext)

/-- No endpoint ever lists a mid twice exactly when no data channel opens at an endpoint that
lists one of the mids it is handed. -/
theorem distinct_mids_iff (hfresh : start.Fresh) (hrun : (sfu lib).Run start moves final) :
    (∀ move ∈ moves, move.post.serverStates.EveryEndpoint fun endpoint => endpoint.mids.Nodup) ↔
      ∀ move ∈ moves, ¬Relists move := by
  constructor
  · intro hdistinct move hmem hrelists
    obtain ⟨earlier, later, rfl⟩ := List.append_of_mem hmem
    obtain ⟨hbefore, hfires, -⟩ := hrun.split_at
    exact twice_of_relists hfires hrelists (listed_of_run hfresh hbefore) (hdistinct move hmem)
  · intro hnever move hmem
    obtain ⟨earlier, later, rfl⟩ := List.append_of_mem hmem
    obtain ⟨hbefore, hfires, -⟩ := hrun.split_at
    have hnever' : ∀ earlierMove ∈ earlier ++ [move], ¬Relists earlierMove := by
      intro earlierMove hearlier
      apply hnever
      rcases List.mem_append.mp hearlier with hbefore | hlast
      · exact List.mem_append_left _ hbefore
      · exact List.mem_append_right _ (List.mem_singleton.mp hlast ▸ List.mem_cons_self)
    have hlistedOnce := listedOnce_of_run hfresh (hbefore.append (.single hfires)) hnever'
    exact fun ids endpoint hendpoint => (hlistedOnce ids endpoint hendpoint).2

/-- The peer that joins is handed two mids; were its data channel to open once more, it would
list them twice. -/
theorem distinct_mids_iff_joining :
    (∀ move ∈ sfuMoves plainLibraries plainGateway joining,
        move.post.serverStates.EveryEndpoint fun endpoint => endpoint.mids.Nodup) ∧
      ((sfuAfter plainLibraries plainGateway joining).serverStates.endpointAt (1, 20)).map
        Endpoint.mids = some ["10-1", "10-2"] ∧
      ¬∀ move ∈ sfuMoves plainLibraries plainGateway (joining ++ [saying 5002 .open]),
        move.post.serverStates.EveryEndpoint fun endpoint => endpoint.mids.Nodup := by
  refine ⟨?_, by decide +kernel, ?_⟩
  · rw [distinct_mids_iff fresh_plain (run_sfuMoves plainLibraries plainGateway joining)]
    decide +kernel
  · rw [distinct_mids_iff fresh_plain (run_sfuMoves plainLibraries plainGateway _)]
    decide +kernel

end Runs

end Sfu
end MediaServer
