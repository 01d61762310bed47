import MediaServer.Sfu.Idle

/-!
# Sessions keep to themselves

A call goes to the sessions it is for: the session of an offer, the session of the
candidate that a binding request is for, the session that the index names for every other
message, and the sessions with idle transports when a sweep is due.  As long as nobody
takes over a four tuple, no other session is changed, by however many calls
(`untouched_of_run`).  The exception matters: a message of the new owner of a four tuple
may renegotiate with the transports of the old one, and then goes to a session that it is
not for.
-/

namespace MediaServer
namespace Sfu

open Foundation Transcription

/-- The session that the index names for a four tuple. -/
def ServerStates.sessionsAt (states : ServerStates) (fourTuple : FourTuple) : Set SessionId :=
  {sessionId | ∃ endpointId, states.endpoints.get fourTuple = some (sessionId, endpointId)}

/-- The sessions that a call is for. -/
def addressed (lib : Libraries) (gateway : GatewayHandler) : Moment × SfuEvent → Set SessionId
  | (_, .offer sessionId _ _) => {sessionId}
  | (_, .dtls transport _) => gateway.serverStates.sessionsAt transport.fourTuple
  | (_, .read msg) =>
      match msg.message with
      | .stun (.stun request) =>
          {sessionId | ∃ candidate : Candidate, candidate.sessionId = sessionId ∧
            GatewayHandler.checkStunMessage lib gateway.serverStates request =
              .ok (some candidate)}
      | _ => gateway.serverStates.sessionsAt msg.transport.fourTuple
  | (_, .timeout now) =>
      {sessionId | gateway.nextTimeout ≤ now ∧ ∃ endpointId fourTuple transport,
        gateway.serverStates.transportAt (sessionId, endpointId) fourTuple = some transport ∧
          transport.lastActivity ≤ now - gateway.idleTimeout}
  | (_, .pollWrite) => ∅

namespace ServerStates

variable {states : ServerStates} {sessionId : SessionId}

/-- Removing a transport changes the session that the index names, and no other. -/
theorem get_sessions_removeTransport {fourTuple : FourTuple}
    (hother : sessionId ∉ states.sessionsAt fourTuple) :
    (states.removeTransport fourTuple).sessions.get sessionId = states.sessions.get sessionId := by
  cases hlookup : states.getMutEndpoint fourTuple with
  | error error => rw [states.removeTransport_of_error hlookup]
  | ok found =>
      obtain ⟨ids, endpoint⟩ := found
      obtain ⟨session, hsession, hendpoint, hremoved⟩ := removeTransport_of_ok hlookup
      have hne : sessionId ≠ ids.1 := by
        rintro rfl
        exact hother ⟨ids.2, ((states.getMutEndpoint_eq_ok_iff ids).mp hlookup).1⟩
      rw [hremoved, takeTransport]
      cases endpoint.transports.get fourTuple <;> dsimp only <;> split <;> try split
      all_goals
        simp [removeCandidate, removeEndpoint, removeSession, modifyEndpoint, modifySession, hne]

/-- Some removals change the sessions that the index names, and no others. -/
theorem get_sessions_removeTransports (fourTuples : List FourTuple)
    (hothers : ∀ fourTuple ∈ fourTuples, sessionId ∉ states.sessionsAt fourTuple) :
    (states.removeTransports fourTuples).sessions.get sessionId =
      states.sessions.get sessionId := by
  induction fourTuples generalizing states with
  | nil => rfl
  | cons first rest ih =>
      obtain ⟨hfirst, hrest⟩ := List.forall_mem_cons.mp hothers
      rw [removeTransports_cons, ih, get_sessions_removeTransport hfirst]
      rintro fourTuple hmem ⟨endpointId, hindex⟩
      rcases states.get_endpoints_removeTransport first fourTuple with hsame | ⟨-, hnone⟩
      · exact hrest fourTuple hmem ⟨endpointId, hsame ▸ hindex⟩
      · rw [hnone] at hindex
        contradiction

end ServerStates

/-! ## Which sessions a call is for can be computed -/

theorem ServerStates.mem_sessionsAt_iff {states : ServerStates} {fourTuple : FourTuple}
    {sessionId : SessionId} : sessionId ∈ states.sessionsAt fourTuple ↔
      (states.endpoints.get fourTuple).map Prod.fst = some sessionId := by
  constructor
  · rintro ⟨endpointId, hindex⟩
    rw [hindex]
    rfl
  · intro hindex
    obtain ⟨⟨_, endpointId⟩, hids, rfl⟩ := Option.map_eq_some_iff.mp hindex
    exact ⟨endpointId, hids⟩

/-- A transport with a property is found among those of the endpoints of its session. -/
theorem ServerStates.exists_transport_iff {states : ServerStates} {sessionId : SessionId}
    {p : Transport → Prop} :
    (∃ endpointId fourTuple transport,
      states.transportAt (sessionId, endpointId) fourTuple = some transport ∧ p transport) ↔
      ∃ endpointId ∈ ((states.sessions.get sessionId).map (·.endpoints.keys)).getD ∅,
        ∃ fourTuple ∈ ((states.endpointAt (sessionId, endpointId)).map
          (·.transports.keys)).getD ∅,
          ∃ transport ∈ states.transportAt (sessionId, endpointId) fourTuple, p transport := by
  constructor
  · rintro ⟨endpointId, fourTuple, transport, hheld, hp⟩
    obtain ⟨endpoint, hendpoint, hfound⟩ := Option.bind_eq_some_iff.mp hheld
    obtain ⟨session, hsession, hnamed⟩ := Option.bind_eq_some_iff.mp hendpoint
    refine ⟨endpointId, ?_, fourTuple, ?_, transport, hheld, hp⟩
    · rw [hsession]
      exact HashMap.mem_keys_iff_get.mpr ⟨endpoint, hnamed⟩
    · rw [hendpoint]
      exact HashMap.mem_keys_iff_get.mpr ⟨transport, hfound⟩
  · rintro ⟨endpointId, -, fourTuple, -, transport, hheld, hp⟩
    exact ⟨endpointId, fourTuple, transport, hheld, hp⟩

instance (states : ServerStates) (fourTuple : FourTuple) (sessionId : SessionId) :
    Decidable (sessionId ∈ states.sessionsAt fourTuple) :=
  decidable_of_iff _ ServerStates.mem_sessionsAt_iff.symm

instance (lib : Libraries) (gateway : GatewayHandler) (input : Moment × SfuEvent)
    (sessionId : SessionId) : Decidable (sessionId ∈ addressed lib gateway input) :=
  match input with
  | (_, .offer named _ _) => decidable_of_iff (sessionId = named) Iff.rfl
  | (_, .dtls transport _) =>
      inferInstanceAs (Decidable (sessionId ∈ gateway.serverStates.sessionsAt transport.fourTuple))
  | (_, .read msg) =>
      match hmsg : msg.message with
      | .stun (.stun request) =>
          decidable_of_iff (∃ candidate ∈ (GatewayHandler.checkStunMessage lib
            gateway.serverStates request).toOption.join, candidate.sessionId = sessionId) (by
            simp only [addressed, hmsg]
            cases GatewayHandler.checkStunMessage lib gateway.serverStates request <;>
              simp [Except.toOption, and_comm])
      | .stun (.raw _) | .dtls _ | .rtp _ =>
          decidable_of_iff (sessionId ∈ gateway.serverStates.sessionsAt msg.transport.fourTuple)
            (by simp only [addressed, hmsg])
  | (_, .timeout now) =>
      decidable_of_iff _ (and_congr_right fun _ => ServerStates.exists_transport_iff.symm)
  | (_, .pollWrite) => isFalse id

section Runs

variable {lib : Libraries} {start middle final : GatewayHandler} {earlier later : List SfuMove}
  {sessionId : SessionId}

/-- What a call writes, it writes to sessions it is for. -/
theorem unwritten_of_permit {gateway : GatewayHandler} {input : Moment × SfuEvent}
    {written : ServerStates} (hregistered : gateway.serverStates.Registered)
    (hother : sessionId ∉ addressed lib gateway input)
    (hwritten : ServerStates.Written (permitOf lib gateway.serverStates input)
      gateway.serverStates written) :
    written.sessions.get sessionId = gateway.serverStates.sessions.get sessionId := by
  obtain ⟨moment, event⟩ := input
  apply hwritten.others
  · cases event with
    | offer offered endpointId offer => exact hother
    | _ => exact id
  · rintro fourTuple hvia ids hindex rfl
    cases event with
    | dtls transport read =>
        obtain rfl := hvia
        exact hother ⟨ids.2, hindex⟩
    | read msg =>
        obtain ⟨hstun, hvia⟩ := hvia
        have hnamed : ids.1 ∈ gateway.serverStates.sessionsAt msg.transport.fourTuple := by
          rcases hvia with rfl | ⟨sender, hsender, endpointId, hpeer⟩
          · exact ⟨ids.2, hindex⟩
          · -- the index knows the peers of the sender, so they are in its session
            have hsame := hregistered fourTuple _ hpeer
            rw [hindex] at hsame
            obtain rfl := Option.some.inj hsame
            exact ⟨sender.2, hsender⟩
        apply hother
        simp only [addressed]
        split
        · rename_i request hmsg
          exact absurd ⟨_, hmsg⟩ hstun
        · exact hnamed
    | _ => exact hvia

/-- What a call removes, it removes from sessions it is for. -/
theorem not_mem_sessionsAt_of_removals {gateway : GatewayHandler} {input : Moment × SfuEvent}
    (hfiled : gateway.serverStates.Filed) (hregistered : gateway.serverStates.Registered)
    (hother : sessionId ∉ addressed lib gateway input) :
    ∀ fourTuple ∈ removals gateway input,
      sessionId ∉ gateway.serverStates.sessionsAt fourTuple := by
  obtain ⟨moment, event⟩ := input
  intro fourTuple hmem hnamed
  cases event with
  | dtls transport read =>
      simp only [removals] at hmem
      split at hmem
      · obtain rfl := List.mem_singleton.mp hmem
        exact hother hnamed
      · simp at hmem
  | timeout now =>
      simp only [removals] at hmem
      split at hmem
      · rename_i hdue
        obtain ⟨ids, transport, hheld, hquiet⟩ :=
          (gateway.mem_idleFourTuples_iff hfiled _ _ _).mp hmem
        obtain ⟨endpointId, hindex⟩ := hnamed
        have hids := hregistered fourTuple ids (by rw [hheld]; rfl)
        obtain rfl := Option.some.inj (hindex.symm.trans hids)
        exact hother ⟨hdue, endpointId, fourTuple, transport, hheld, hquiet⟩
      · simp at hmem
  | _ => simp [removals] at hmem

/-- A call leaves alone every session that it is not for. -/
theorem untouched_of_fires {move : SfuMove} (hfires : (sfu lib).Fires move)
    (hfiled : move.pre.serverStates.Filed) (hregistered : move.pre.serverStates.Registered)
    (hother : sessionId ∉ addressed lib move.pre move.input) :
    move.post.serverStates.sessions.get sessionId =
      move.pre.serverStates.sessions.get sessionId := by
  rcases effect_of_fires hfires with ⟨admitted, hadmitted, hpost⟩ | ⟨-, written, hwrote, hpost⟩
  · obtain ⟨moment, msg, request, hinput, hmsg, hchecked, -, -⟩ :=
      admission_eq_some_iff.mp hadmitted
    have hne : sessionId ≠ admitted.candidate.sessionId := by
      rintro rfl
      apply hother
      rw [hinput]
      simp only [addressed, hmsg]
      exact ⟨admitted.candidate, rfl, hchecked⟩
    rw [hpost]
    simp [ServerStates.enroll, ServerStates.addEndpoint, ServerStates.modifySession, hne]
  · have hnamed : ∀ fourTuple, written.sessionsAt fourTuple =
        move.pre.serverStates.sessionsAt fourTuple := by
      intro fourTuple
      rw [ServerStates.sessionsAt, hwrote.endpoints, ServerStates.sessionsAt]
    rw [hpost, ServerStates.get_sessions_removeTransports,
      unwritten_of_permit hregistered hother hwrote]
    intro fourTuple hmem
    rw [hnamed]
    exact not_mem_sessionsAt_of_removals hfiled hregistered hother fourTuple hmem

/-- As long as nobody takes over a four tuple, calls leave alone every session that none of
them is for. -/
theorem untouched_of_run (hfresh : start.Fresh) (hearlier : (sfu lib).Run start earlier middle)
    (hlater : (sfu lib).Run middle later final)
    (hkept : ∀ move ∈ earlier ++ later, ¬TakesOver lib move)
    (hothers : ∀ move ∈ later, sessionId ∉ addressed lib move.pre move.input) :
    final.serverStates.sessions.get sessionId = middle.serverStates.sessions.get sessionId := by
  induction hlater generalizing earlier with
  | nil state => rfl
  | @cons move later final hfires hrest ih =>
      have hnext := hearlier.append (Machine.Run.single hfires)
      rw [ih hnext]
      · have hregistered := registered_of_run hfresh hearlier fun earlierMove hmem =>
          hkept earlierMove (List.mem_append_left _ hmem)
        have hfiled := (ServerStates.filed_of_fresh hfresh).of_run hearlier
        exact untouched_of_fires hfires hfiled hregistered (hothers move List.mem_cons_self)
      · simpa using hkept
      · exact fun laterMove hmem => hothers laterMove (List.mem_cons_of_mem _ hmem)

/-- A peer connects to the second session, sends it media, and a sweep follows. -/
noncomputable def elsewhere : List (Moment × SfuEvent) :=
  [(momentWith 20 "b", .offer 2 20 ⟨.offer, dataOffer, none⟩), nominating "b:peer" 5002,
    keying 5002, (momentWith 30 "", .read ⟨30, contextAt 5002, .rtp (.rtcp [])⟩),
    (momentWith 31 "", .timeout 31)]

/-- The first session stays as the peer that arrived there left it. -/
theorem untouched_of_run_elsewhere :
    (sfuAfter plainLibraries (sfuAfter plainLibraries plainGateway arrival)
        elsewhere).serverStates.sessions.get 1 =
      (sfuAfter plainLibraries plainGateway arrival).serverStates.sessions.get 1 ∧
    ((sfuAfter plainLibraries plainGateway arrival).serverStates.transportAt (1, 10)
      (contextAt 5001).fourTuple).isSome ∧
    ((sfuAfter plainLibraries (sfuAfter plainLibraries plainGateway arrival)
      elsewhere).serverStates.transportAt (2, 20) (contextAt 5002).fourTuple).isSome :=
  ⟨untouched_of_run fresh_plain (run_sfuMoves plainLibraries plainGateway arrival)
      (run_sfuMoves plainLibraries _ elsewhere) (by decide +kernel) (by decide +kernel),
    by decide +kernel, by decide +kernel⟩

end Runs

end Sfu
end MediaServer
