import MediaServer.Sfu.Filed

/-!
# Where transports come from

A transport is there because somebody who knew the password of its candidate nominated its
four tuple, and the candidate was there because an offer for its endpoint was accepted
before.  What the transport holds comes from its own four tuple: its SRTP contexts from a
handshake, its stream from a data channel that opened, and its last activity from media or
from the admission itself.  `traced_of_run` says so of every transport in every reachable
state, about the calls of the run that led there.
-/

namespace MediaServer
namespace Sfu

open Foundation Transcription

/-! ## What a call shows -/

/-- A binding request that nominates a four tuple in the name of a candidate, with the
integrity of the candidate's password. -/
def Nominates (lib : Libraries) (move : SfuMove) (candidate : Candidate)
    (fourTuple : FourTuple) : Prop :=
  ∃ msg request, move.input.2 = .read msg ∧ msg.message = .stun (.stun request) ∧
    msg.transport.fourTuple = fourTuple ∧ request.username = some candidate.username ∧
    GatewayHandler.invalidStunMessage request = none ∧
    request.contains .useCandidate = true ∧
    lib.checkIntegrity candidate.localConnCred.iceParams.password request = .ok ()

/-- An admission of a four tuple in the name of a candidate. -/
def Admits (lib : Libraries) (move : SfuMove) (candidate : Candidate)
    (fourTuple : FourTuple) : Prop :=
  ∃ admitted, admission lib move.pre.serverStates move.input = some admitted ∧
    admitted.candidate = candidate ∧ admitted.transportContext.fourTuple = fourTuple

/-- Media from a four tuple. -/
def SendsMedia (move : SfuMove) (fourTuple : FourTuple) : Prop :=
  ∃ msg, move.input.2 = .read msg ∧ msg.IsMedia ∧ msg.transport.fourTuple = fourTuple

/-- A finished handshake with a four tuple, which keys a local SRTP context. -/
def Keys (move : SfuMove) (fourTuple : FourTuple) (localContext : SrtpContext) : Prop :=
  ∃ transport events contexts messages remoteContext,
    move.input.2 = .dtls transport (.ok events) ∧ transport.fourTuple = fourTuple ∧
    DtlsHandler.collect events = .ok (contexts, messages) ∧
    (localContext, remoteContext) ∈ contexts

/-- A data channel of a four tuple that opens. -/
def Opens (move : SfuMove) (fourTuple : FourTuple) : Prop :=
  ∃ msg, move.input.2 = .read msg ∧ msg.OpensDataChannel ∧ msg.transport.fourTuple = fourTuple

section Permit

variable {lib : Libraries} {move : SfuMove} {fourTuple : FourTuple}

theorem invites_of_permit {candidate : Candidate}
    (hpermit : candidate ∈ (permitOf lib move.pre.serverStates move.input).candidates) :
    Invites lib move.pre.serverStates move.input candidate := by
  obtain ⟨pre, ⟨moment, event⟩, post, outputs⟩ := move
  cases event with
  | offer sessionId endpointId offer => exact hpermit
  | read msg => exact hpermit
  | dtls transport read => exact hpermit.elim
  | timeout now => exact hpermit.elim
  | pollWrite => exact hpermit.elim

theorem sendsMedia_of_permit {clock : Instant}
    (hpermit : (fourTuple, clock) ∈ (permitOf lib move.pre.serverStates move.input).edits.heard) :
    SendsMedia move fourTuple ∧ move.input.1.clock = clock := by
  obtain ⟨pre, ⟨moment, event⟩, post, outputs⟩ := move
  cases event with
  | read msg =>
      obtain ⟨hheard, hmedia⟩ := hpermit
      obtain ⟨rfl, rfl⟩ := Prod.mk.inj hheard
      exact ⟨⟨msg, rfl, hmedia, rfl⟩, rfl⟩
  | offer sessionId endpointId offer => exact hpermit.elim
  | dtls transport read => exact hpermit.elim
  | timeout now => exact hpermit.elim
  | pollWrite => exact hpermit.elim

theorem opens_of_permit
    (hpermit : fourTuple ∈ (permitOf lib move.pre.serverStates move.input).edits.opened) :
    Opens move fourTuple := by
  obtain ⟨pre, ⟨moment, event⟩, post, outputs⟩ := move
  cases event with
  | read msg => exact ⟨msg, rfl, hpermit.2, hpermit.1.symm⟩
  | offer sessionId endpointId offer => exact hpermit.elim
  | dtls transport read => exact hpermit.elim
  | timeout now => exact hpermit.elim
  | pollWrite => exact hpermit.elim

theorem keys_of_permit {localContext remoteContext : SrtpContext}
    (hpermit : (fourTuple, localContext, remoteContext) ∈
      (permitOf lib move.pre.serverStates move.input).edits.keyed) :
    Keys move fourTuple localContext := by
  obtain ⟨pre, ⟨moment, event⟩, post, outputs⟩ := move
  cases event with
  | dtls transport read =>
      obtain ⟨hfourTuple, events, contexts, messages, rfl, hcollected, hmem⟩ := hpermit
      exact ⟨transport, events, contexts, messages, remoteContext, rfl, hfourTuple.symm,
        hcollected, hmem⟩
  | offer sessionId endpointId offer => exact hpermit.elim
  | read msg => exact hpermit.elim
  | timeout now => exact hpermit.elim
  | pollWrite => exact hpermit.elim

end Permit

/-! ## Transports under writes -/

/-- A transport of a written endpoint is a written transport. -/
theorem EndpointWrite.transports {edits : Edits} {before after : Endpoint}
    (hwrite : EndpointWrite edits before after) {fourTuple : FourTuple} {transport : Transport}
    (hafter : after.transports.get fourTuple = some transport) :
    ∃ earlier, before.transports.get fourTuple = some earlier ∧
      (Frame.star (TransportWrite edits fourTuple)).rel earlier transport := by
  cases hwrite with
  | flagged needed => exact ⟨transport, hafter, .refl⟩
  | added mid transceiver hmid hnew => exact ⟨transport, hafter, .refl⟩
  | turned mid f hf => exact ⟨transport, hafter, .refl⟩
  | transport changed f hf =>
      rw [Endpoint.modifyTransport, HashMap.get_modify] at hafter
      split at hafter
      · rename_i heq
        subst heq
        obtain ⟨earlier, hearlier, rfl⟩ := Option.map_eq_some_iff.mp hafter
        exact ⟨earlier, hearlier, .single (hf earlier)⟩
      · exact ⟨transport, hafter, .refl⟩

theorem Endpoint.transports_of_written {edits : Edits} {before after : Endpoint}
    (hwritten : (Endpoint.written edits).rel before after) {fourTuple : FourTuple}
    {transport : Transport} (hafter : after.transports.get fourTuple = some transport) :
    ∃ earlier, before.transports.get fourTuple = some earlier ∧
      (Frame.star (TransportWrite edits fourTuple)).rel earlier transport := by
  induction hwritten generalizing transport with
  | refl => exact ⟨transport, hafter, .refl⟩
  | tail _ hlast ih =>
      obtain ⟨middle, hmiddle, hwrites⟩ := hlast.transports hafter
      obtain ⟨earlier, hearlier, hbefore⟩ := ih hmiddle
      exact ⟨earlier, hearlier, hbefore.trans hwrites⟩

theorem ServerStates.Written.transportAt {permit : Permit} {before after : ServerStates}
    (hwritten : ServerStates.Written permit before after) {ids : SessionId × EndpointId}
    {fourTuple : FourTuple} {transport : Transport}
    (hafter : after.transportAt ids fourTuple = some transport) :
    ∃ earlier, before.transportAt ids fourTuple = some earlier ∧
      (Frame.star (TransportWrite permit.edits fourTuple)).rel earlier transport := by
  obtain ⟨endpoint, hendpoint, hheld⟩ := Option.bind_eq_some_iff.mp hafter
  rw [ServerStates.endpointAt_eq] at hendpoint
  obtain ⟨first, hfirst, hrel⟩ :=
    Frame.pointwise_some' (hwritten.sessionAt ids.1).2 hendpoint
  obtain ⟨earlier, hearlier, hwrites⟩ := Endpoint.transports_of_written hrel hheld
  refine ⟨earlier, ?_, hwrites⟩
  rw [ServerStates.transportAt, ServerStates.endpointAt_eq, hfirst]
  exact hearlier

/-- Transports that are left by removals were there, as they are. -/
theorem ServerStates.transportAt_of_removeTransports {states : ServerStates}
    {fourTuples : List FourTuple} {ids : SessionId × EndpointId} {fourTuple : FourTuple}
    {transport : Transport}
    (hleft : (states.removeTransports fourTuples).transportAt ids fourTuple = some transport) :
    states.transportAt ids fourTuple = some transport := by
  induction fourTuples generalizing states with
  | nil => exact hleft
  | cons first rest ih =>
      have hfirst := ih hleft
      rw [transportAt_removeTransport] at hfirst
      split at hfirst
      · contradiction
      · exact hfirst

theorem ServerStates.candidate_of_removeTransports {states : ServerStates}
    {fourTuples : List FourTuple} {username : UserName} {candidate : Candidate}
    (hleft : (states.removeTransports fourTuples).candidates.get username = some candidate) :
    states.candidates.get username = some candidate := by
  induction fourTuples generalizing states with
  | nil => exact hleft
  | cons first rest ih => exact states.candidate_of_removeTransport (ih hleft)

/-! ## The history of a transport -/

/-- What some calls have to do with a transport. -/
structure Traced (lib : Libraries) (moves : List SfuMove) (fourTuple : FourTuple)
    (transport : Transport) : Prop where
  admitted : ∃ earlier nomination later, moves = earlier ++ nomination :: later ∧
    Nominates lib nomination transport.candidate fourTuple ∧
    ∃ call ∈ earlier, Invites lib call.pre.serverStates call.input transport.candidate
  lastActivity : ∃ move ∈ moves, move.input.1.clock = transport.lastActivity ∧
    (Admits lib move transport.candidate fourTuple ∨ SendsMedia move fourTuple)
  localSrtpContext : ∀ context, transport.localSrtpContext = some context →
    ∃ move ∈ moves, Keys move fourTuple context
  streamId : transport.streamId.isSome → ∃ move ∈ moves, Opens move fourTuple

variable {lib : Libraries} {moves : List SfuMove} {fourTuple : FourTuple}
  {transport : Transport}

/-- What was traced stays traced. -/
theorem Traced.append (htraced : Traced lib moves fourTuple transport) (move : SfuMove) :
    Traced lib (moves ++ [move]) fourTuple transport where
  admitted := by
    obtain ⟨earlier, nomination, later, rfl, hrest⟩ := htraced.admitted
    exact ⟨earlier, nomination, later ++ [move], by simp, hrest⟩
  lastActivity := by
    obtain ⟨heard, hmem, hrest⟩ := htraced.lastActivity
    exact ⟨heard, List.mem_append_left _ hmem, hrest⟩
  localSrtpContext context hcontext := by
    obtain ⟨keying, hmem, hkeys⟩ := htraced.localSrtpContext context hcontext
    exact ⟨keying, List.mem_append_left _ hmem, hkeys⟩
  streamId hstream := by
    obtain ⟨opening, hmem, hopens⟩ := htraced.streamId hstream
    exact ⟨opening, List.mem_append_left _ hmem, hopens⟩

/-- Every write to a transport is one that the call shows. -/
theorem Traced.of_write {move : SfuMove} (hmem : move ∈ moves) {next : Transport}
    (hwrite : TransportWrite (permitOf lib move.pre.serverStates move.input).edits fourTuple
      transport next)
    (htraced : Traced lib moves fourTuple transport) : Traced lib moves fourTuple next := by
  cases hwrite with
  | heard clock hheard =>
      obtain ⟨hmedia, hclock⟩ := sendsMedia_of_permit hheard
      exact { htraced with lastActivity := ⟨move, hmem, hclock, Or.inr hmedia⟩ }
  | opened associationHandle streamId hopened =>
      exact { htraced with streamId := fun _ => ⟨move, hmem, opens_of_permit hopened⟩ }
  | keyed localContext remoteContext hkeyed =>
      exact { htraced with
        localSrtpContext := by
          intro context hcontext
          obtain rfl := Option.some.inj hcontext
          exact ⟨move, hmem, keys_of_permit hkeyed⟩ }

/-- Every transport and every candidate of a state comes from the calls before it. -/
structure ServerStates.Traced (lib : Libraries) (moves : List SfuMove)
    (states : ServerStates) : Prop where
  transport : ∀ ids fourTuple transport, states.transportAt ids fourTuple = some transport →
    Sfu.Traced lib moves fourTuple transport
  candidate : ∀ username candidate, states.candidates.get username = some candidate →
    ∃ call ∈ moves, Invites lib call.pre.serverStates call.input candidate

/-- A nomination of a candidate that the states know. -/
theorem nominates_of_admission {move : SfuMove} {admitted : Admission}
    (hfiled : move.pre.serverStates.Filed)
    (hadmitted : admission lib move.pre.serverStates move.input = some admitted) :
    Nominates lib move admitted.candidate admitted.transportContext.fourTuple ∧
      move.input.1.clock = admitted.clock ∧
      ∃ username, move.pre.serverStates.candidates.get username = some admitted.candidate := by
  obtain ⟨moment, msg, request, hinput, hmsg, hchecked, hisAdmitted, hfrom⟩ :=
    admission_eq_some_iff.mp hadmitted
  obtain ⟨username, husername, hvalid, hheld, hintegrity⟩ :=
    GatewayHandler.checkStunMessage_eq_ok_some_iff.mp hchecked
  have hcontext : msg.transport = admitted.transportContext := by rw [hfrom]
  have hclock : moment.clock = admitted.clock := by rw [hfrom]
  refine ⟨⟨msg, request, by rw [hinput], hmsg, by rw [hcontext], ?_, hvalid,
    (isAdmitted_eq_true_iff.mp hisAdmitted).1, hintegrity⟩, by rw [hinput, hclock], username, hheld⟩
  rw [hfiled.candidate username _ hheld, husername]

theorem ServerStates.Traced.step {move : SfuMove} (hfires : (sfu lib).Fires move)
    (hfiled : move.pre.serverStates.Filed) (htraced : move.pre.serverStates.Traced lib moves) :
    move.post.serverStates.Traced lib (moves ++ [move]) := by
  have hlast : move ∈ moves ++ [move] := by simp
  rcases effect_of_fires hfires with ⟨admitted, hadmitted, hpost⟩ | ⟨-, written, hwrote, hpost⟩
  · obtain ⟨hnominates, hclock, username, hheld⟩ := nominates_of_admission hfiled hadmitted
    rw [hpost]
    exact {
      transport := by
        intro ids fourTuple transport htransport
        rw [transportAt_enroll hadmitted] at htransport
        split at htransport
        · rename_i hat
          obtain rfl := Option.some.inj htransport
          rw [hat.2]
          exact {
            admitted := ⟨moves, move, [], rfl, hnominates, htraced.candidate username _ hheld⟩
            lastActivity := ⟨move, hlast, hclock, Or.inl ⟨admitted, hadmitted, rfl, rfl⟩⟩
            localSrtpContext := fun _ hcontext => by contradiction
            streamId := fun hstream => by contradiction }
        · exact (htraced.transport ids fourTuple transport htransport).append move
      candidate := by
        intro username candidate hcandidate
        obtain ⟨offer, hmem, hinvites⟩ := htraced.candidate username candidate hcandidate
        exact ⟨offer, List.mem_append_left _ hmem, hinvites⟩ }
  · exact {
      transport := by
        intro ids fourTuple transport htransport
        rw [hpost] at htransport
        obtain ⟨earlier, hearlier, hwrites⟩ :=
          hwrote.transportAt (ServerStates.transportAt_of_removeTransports htransport)
        exact Frame.keep_of_star (Sfu.Traced lib (moves ++ [move]) fourTuple)
          (fun _ _ hwrite hbefore => hbefore.of_write hlast hwrite) hwrites
          ((htraced.transport ids fourTuple earlier hearlier).append move)
      candidate := by
        intro username candidate hcandidate
        rw [hpost] at hcandidate
        rcases hwrote.candidates username candidate
          (ServerStates.candidate_of_removeTransports hcandidate) with hearlier | ⟨hpermit, -⟩
        · obtain ⟨offer, hmem, hinvites⟩ := htraced.candidate username candidate hearlier
          exact ⟨offer, List.mem_append_left _ hmem, hinvites⟩
        · exact ⟨move, hlast, invites_of_permit hpermit⟩ }

theorem tracedStates_of_run {start final : GatewayHandler} (hfresh : start.Fresh)
    (hrun : (sfu lib).Run start moves final) : final.serverStates.Traced lib moves := by
  refine hrun.history (fun moves gateway => gateway.serverStates.Traced lib moves) ?_ ?_
  · intro earlier move hbefore hfires htraced
    exact htraced.step hfires ((ServerStates.filed_of_fresh hfresh).of_run hbefore)
  · obtain ⟨serverConfig, localAddr, hstates⟩ := hfresh.serverStates
    rw [hstates]
    exact {
      transport := fun ids fourTuple transport htransport => by
        simp [ServerStates.transportAt, ServerStates.endpointAt] at htransport
      candidate := fun username candidate hcandidate => by simp at hcandidate }

/-- Every transport that a fresh SFU has after a run goes back to a nomination in the name of
its candidate, and that to an offer before it, and so does what the transport holds. -/
theorem traced_of_run {start final : GatewayHandler} (hfresh : start.Fresh)
    (hrun : (sfu lib).Run start moves final) {ids : SessionId × EndpointId}
    (htransport : final.serverStates.transportAt ids fourTuple = some transport) :
    Traced lib moves fourTuple transport ∧ transport.candidate.ids = ids :=
  ⟨(tracedStates_of_run hfresh hrun).transport ids fourTuple transport htransport,
    (((ServerStates.filed_of_fresh hfresh).of_run hrun).transport ids fourTuple transport
      htransport).2⟩

theorem traced_of_run_meeting :
    ∃ transport, (sfuAfter plainLibraries plainGateway meeting).serverStates.transportAt (1, 20)
        (contextAt 5002).fourTuple = some transport ∧
      Traced plainLibraries (sfuMoves plainLibraries plainGateway meeting)
        (contextAt 5002).fourTuple transport ∧ transport.candidate.ids = (1, 20) := by
  have hheld : ((sfuAfter plainLibraries plainGateway meeting).serverStates.transportAt (1, 20)
      (contextAt 5002).fourTuple).isSome := by decide +kernel
  obtain ⟨transport, htransport⟩ := Option.isSome_iff_exists.mp hheld
  exact ⟨transport, htransport,
    traced_of_run fresh_plain (run_sfuMoves plainLibraries plainGateway meeting) htransport⟩

end Sfu
end MediaServer
