import MediaServer.Sfu.Calls

/-!
# Removal, and where everything is filed

Removing a transport goes where the index points: it takes the transport that the index
names and nothing else, and with the last transport of an endpoint the endpoint, with the
last endpoint of a session the session.  In every state that a fresh SFU can reach,
sessions, endpoints, transports and candidates are filed under their own names
(`filed_of_run`), and no endpoint is without a transport.
-/

namespace MediaServer
namespace Sfu

open Foundation Transcription

namespace ServerStates

variable (states : ServerStates)

/-! ## Removing a transport -/

theorem removeTransport_of_error {fourTuple : FourTuple} {error : Error}
    (hlookup : states.getMutEndpoint fourTuple = .error error) :
    states.removeTransport fourTuple = states := by
  unfold getMutEndpoint at hlookup
  unfold removeTransport
  split at hlookup
  · rfl
  · split at hlookup
    · rfl
    · split at hlookup
      · rfl
      · contradiction

section Found

variable {states} {fourTuple : FourTuple} {ids : SessionId × EndpointId} {endpoint : Endpoint}

/-- The transport that is removed is one of the endpoint that the index names. -/
theorem removeTransport_of_ok (hlookup : states.getMutEndpoint fourTuple = .ok (ids, endpoint)) :
    ∃ session, states.sessions.get ids.1 = some session ∧
      session.endpoints.get ids.2 = some endpoint ∧
      states.removeTransport fourTuple =
        states.takeTransport fourTuple ids session endpoint := by
  obtain ⟨hindex, hendpoint⟩ := (states.getMutEndpoint_eq_ok_iff ids).mp hlookup
  obtain ⟨session, hsession, hheld⟩ := Option.bind_eq_some_iff.mp hendpoint
  refine ⟨session, hsession, hheld, ?_⟩
  simp only [removeTransport, findEndpoint, hindex, hsession, hheld]

/-- The endpoints after a transport was taken from one of them. -/
theorem endpointAt_takeTransport {session : Session}
    (hsession : states.sessions.get ids.1 = some session)
    (hendpoint : session.endpoints.get ids.2 = some endpoint) (other : SessionId × EndpointId) :
    (states.takeTransport fourTuple ids session endpoint).endpointAt other =
      if other = ids then
        if (endpoint.removeTransport fourTuple).transports.isEmpty then none
        else some (endpoint.removeTransport fourTuple)
      else states.endpointAt other := by
  have hstates : (states.takeTransport fourTuple ids session endpoint).endpointAt other =
      (if (endpoint.removeTransport fourTuple).transports.isEmpty then
        if (session.removeEndpoint ids.2).endpoints.isEmpty then states.removeSession ids.1
        else states.modifySession ids.1 fun _ => session.removeEndpoint ids.2
      else states.modifyEndpoint ids
        fun _ => endpoint.removeTransport fourTuple).endpointAt other := by
    unfold takeTransport
    cases endpoint.transports.get fourTuple <;> dsimp only <;> split <;> rfl
  rw [hstates]
  have hsame : other.1 = ids.1 → states.endpointAt other = session.endpoints.get other.2 := by
    intro hother
    simp [endpointAt, hother, hsession]
  split
  · by_cases hother : other.1 = ids.1
    · have hremoved : (session.removeEndpoint ids.2).endpoints.get other.2 =
          if other = ids then none else states.endpointAt other := by
        rw [hsame hother, Session.removeEndpoint, HashMap.get_remove]
        simp only [Prod.ext_iff, hother, true_and]
      split
      · rename_i hlast
        rw [← hremoved, HashMap.isEmpty_eq_true_iff.mp hlast]
        simp [endpointAt, removeSession, hother]
      · rw [endpointAt_modifySession, if_pos hother, hsession]
        exact hremoved
    · have hne : other ≠ ids := fun heq => hother (by rw [heq])
      rw [if_neg hne]
      split
      · simp [endpointAt, removeSession, hother]
      · rw [endpointAt_modifySession, if_neg hother]
  · rw [endpointAt_modifyEndpoint]
    split
    · rename_i heq
      rw [hsame (congrArg Prod.fst heq), heq, hendpoint]
      rfl
    · rfl

theorem endpointAt_removeTransport
    (hlookup : states.getMutEndpoint fourTuple = .ok (ids, endpoint))
    (other : SessionId × EndpointId) :
    (states.removeTransport fourTuple).endpointAt other =
      if other = ids then
        if (endpoint.removeTransport fourTuple).transports.isEmpty then none
        else some (endpoint.removeTransport fourTuple)
      else states.endpointAt other := by
  obtain ⟨session, hsession, hendpoint, hremoved⟩ := removeTransport_of_ok hlookup
  rw [hremoved, endpointAt_takeTransport hsession hendpoint]

/-- The index forgets a four tuple with the last transport of its endpoint. -/
theorem endpoints_removeTransport
    (hlookup : states.getMutEndpoint fourTuple = .ok (ids, endpoint)) :
    (states.removeTransport fourTuple).endpoints =
      if (endpoint.removeTransport fourTuple).transports.isEmpty then
        states.endpoints.remove fourTuple
      else states.endpoints := by
  obtain ⟨session, -, -, hremoved⟩ := removeTransport_of_ok hlookup
  rw [hremoved, takeTransport]
  cases endpoint.transports.get fourTuple <;> dsimp only <;> split <;> try rfl
  all_goals split <;> rfl

/-- A removed transport takes its candidate with it. -/
theorem candidates_removeTransport
    (hlookup : states.getMutEndpoint fourTuple = .ok (ids, endpoint)) :
    (states.removeTransport fourTuple).candidates =
      match endpoint.transports.get fourTuple with
      | some transport => states.candidates.remove transport.candidate.username
      | none => states.candidates := by
  obtain ⟨session, -, -, hremoved⟩ := removeTransport_of_ok hlookup
  rw [hremoved, takeTransport]
  cases endpoint.transports.get fourTuple <;> dsimp only <;> split <;> try rfl
  all_goals split <;> rfl

end Found

theorem getMutEndpoint_eq_ok {fourTuple : FourTuple} {ids : SessionId × EndpointId}
    {endpoint : Endpoint} (hindex : states.endpoints.get fourTuple = some ids)
    (hendpoint : states.endpointAt ids = some endpoint) :
    states.getMutEndpoint fourTuple = .ok (ids, endpoint) :=
  (states.getMutEndpoint_eq_ok_iff ids).mpr ⟨hindex, hendpoint⟩

/-- Nothing is removed when the index leads nowhere. -/
theorem removeTransport_of_unreached {fourTuple : FourTuple}
    (hunreached : ∀ ids, states.endpoints.get fourTuple = some ids → states.endpointAt ids = none) :
    states.removeTransport fourTuple = states := by
  cases hlookup : states.getMutEndpoint fourTuple with
  | error error => exact states.removeTransport_of_error hlookup
  | ok found =>
      obtain ⟨ids, endpoint⟩ := found
      obtain ⟨hindex, hendpoint⟩ := (states.getMutEndpoint_eq_ok_iff ids).mp hlookup
      rw [hunreached ids hindex] at hendpoint
      contradiction

/-- Removing takes away the transport that the index names, and nothing else. -/
theorem transportAt_removeTransport (fourTuple other : FourTuple)
    (ids : SessionId × EndpointId) :
    (states.removeTransport fourTuple).transportAt ids other =
      if states.endpoints.get fourTuple = some ids ∧ other = fourTuple then none
      else states.transportAt ids other := by
  by_cases hreached : ∃ named endpoint, states.endpoints.get fourTuple = some named ∧
      states.endpointAt named = some endpoint
  · obtain ⟨named, endpoint, hindex, hendpoint⟩ := hreached
    rw [transportAt, endpointAt_removeTransport (states.getMutEndpoint_eq_ok hindex hendpoint),
      hindex, transportAt]
    by_cases hids : ids = named
    · subst hids
      have hget : ∀ key, (endpoint.removeTransport fourTuple).transports.get key =
          if key = fourTuple then none else endpoint.transports.get key :=
        fun key => HashMap.get_remove _ _ _
      rw [if_pos rfl, hendpoint]
      split
      · rename_i hlast
        have hnone := (hget other).symm.trans (HashMap.isEmpty_eq_true_iff.mp hlast other)
        simpa [eq_comm] using hnone
      · simp [hget]
    · have hne : some named ≠ some ids := fun heq => hids (Option.some.inj heq).symm
      simp [hids, hne]
  · have hunreached : ∀ named, states.endpoints.get fourTuple = some named →
        states.endpointAt named = none := by
      intro named hindex
      cases hendpoint : states.endpointAt named with
      | none => rfl
      | some endpoint => exact absurd ⟨named, endpoint, hindex, hendpoint⟩ hreached
    rw [states.removeTransport_of_unreached hunreached]
    split
    · rename_i hnamed
      simp [transportAt, hunreached ids hnamed.1]
    · rfl

/-- Removing a transport leaves no new candidates. -/
theorem candidate_of_removeTransport {fourTuple : FourTuple} {username : UserName}
    {candidate : Candidate}
    (hleft : (states.removeTransport fourTuple).candidates.get username = some candidate) :
    states.candidates.get username = some candidate := by
  cases hlookup : states.getMutEndpoint fourTuple with
  | error error => rwa [states.removeTransport_of_error hlookup] at hleft
  | ok found =>
      rw [candidates_removeTransport hlookup] at hleft
      split at hleft
      · rw [HashMap.get_remove] at hleft
        split at hleft
        · contradiction
        · exact hleft
      · exact hleft

/-! ## Everything is filed under its own name -/

/-- Sessions are filed under their own names, and have the configuration of the server. -/
def SessionsFiled : Prop := ∀ sessionId,
  (states.sessionAt sessionId).sessionId = sessionId ∧
    (states.sessionAt sessionId).sessionConfig = ⟨states.serverConfig, states.localAddr⟩

/-- Sessions, endpoints, transports and candidates are filed under their own names, every
endpoint has a transport, and every transport is of a candidate of its endpoint. -/
structure Filed : Prop where
  sessions : states.SessionsFiled
  endpoint : ∀ ids endpoint, states.endpointAt ids = some endpoint →
    endpoint.endpointId = ids.2 ∧ ∃ fourTuple, endpoint.hasTransport fourTuple = true
  transport : ∀ ids fourTuple transport, states.transportAt ids fourTuple = some transport →
    transport.fourTuple = fourTuple ∧ transport.candidate.ids = ids
  candidate : ∀ username candidate, states.candidates.get username = some candidate →
    candidate.username = username

theorem filed_of_fresh {gateway : GatewayHandler} (hfresh : gateway.Fresh) :
    gateway.serverStates.Filed := by
  obtain ⟨serverConfig, localAddr, hstates⟩ := hfresh.serverStates
  rw [hstates]
  exact {
    sessions := fun sessionId => by simp [sessionAt, Session.new]
    endpoint := fun ids endpoint hendpoint => by simp [endpointAt] at hendpoint
    transport := fun ids fourTuple transport htransport => by
      simp [transportAt, endpointAt] at htransport
    candidate := fun username candidate hcandidate => by simp at hcandidate }

variable {states}

/-- Writes keep everything filed: they do not show in the skeletons. -/
theorem Filed.of_written {permit : Permit} {after : ServerStates}
    (hwritten : Written permit states after) (hfiled : states.Filed) : after.Filed where
  sessions sessionId := by
    obtain ⟨⟨hconfig, hid⟩, -⟩ := hwritten.sessionAt sessionId
    rw [hconfig, hid, hwritten.serverConfig, hwritten.localAddr]
    exact hfiled.sessions sessionId
  endpoint ids endpoint hendpoint := by
    have hskeleton := congrFun (congrArg Prod.snd hwritten.skeleton) ids
    simp only [ServerStates.skeleton, hendpoint, Option.map_some] at hskeleton
    obtain ⟨earlier, hearlier, hsame⟩ := Option.map_eq_some_iff.mp hskeleton.symm
    obtain ⟨hid, fourTuple, hhas⟩ := hfiled.endpoint ids earlier hearlier
    have hsameId : earlier.endpointId = endpoint.endpointId :=
      congrArg EndpointSkeleton.endpointId hsame
    refine ⟨hsameId ▸ hid, fourTuple, ?_⟩
    have htransports := congrFun (congrArg EndpointSkeleton.transports hsame) fourTuple
    simp only [Endpoint.skeleton] at htransports
    rw [Endpoint.hasTransport, HashMap.containsKey, ← Option.isSome_map, ← htransports,
      Option.isSome_map]
    exact hhas
  transport ids fourTuple transport htransport := by
    have hskeleton := transportAt_of_skeleton hwritten.skeleton ids fourTuple
    rw [htransport, Option.map_some] at hskeleton
    obtain ⟨earlier, hearlier, hsame⟩ := Option.map_eq_some_iff.mp hskeleton.symm
    obtain ⟨hfourTuple, hids⟩ := hfiled.transport ids fourTuple earlier hearlier
    obtain ⟨hsameTuple, hsameCandidate⟩ := Prod.mk.inj hsame
    exact ⟨hsameTuple ▸ hfourTuple, hsameCandidate ▸ hids⟩
  candidate username candidate hcandidate := by
    rcases hwritten.candidates username candidate hcandidate with hearlier | ⟨-, hleft⟩
    · exact hfiled.candidate username candidate hearlier
    · exact hleft

/-- A session may be changed as long as its name and configuration stay. -/
theorem SessionsFiled.modifySession {sessionId : SessionId} {f : Session → Session}
    (hf : ∀ session, states.sessions.get sessionId = some session →
      (f session).sessionId = session.sessionId ∧
        (f session).sessionConfig = session.sessionConfig)
    (hfiled : states.SessionsFiled) : (states.modifySession sessionId f).SessionsFiled := by
  intro other
  have hother := hfiled other
  simp only [sessionAt, ServerStates.modifySession, HashMap.get_modify] at hother ⊢
  split
  · rename_i heq
    subst heq
    cases hsession : states.sessions.get other with
    | none => simp [Session.new]
    | some session =>
        rw [hsession] at hother
        obtain ⟨hid, hconfig⟩ := hf session hsession
        exact ⟨hid.trans hother.1, hconfig.trans hother.2⟩
  · exact hother

theorem SessionsFiled.removeSession (sessionId : SessionId) (hfiled : states.SessionsFiled) :
    (states.removeSession sessionId).SessionsFiled := by
  intro other
  have hother := hfiled other
  simp only [sessionAt, ServerStates.removeSession, HashMap.get_remove] at hother ⊢
  split
  · simp [Session.new]
  · exact hother

theorem SessionsFiled.takeTransport {fourTuple : FourTuple} {ids : SessionId × EndpointId}
    {session : Session} {endpoint : Endpoint}
    (hsession : states.sessions.get ids.1 = some session) (hfiled : states.SessionsFiled) :
    (states.takeTransport fourTuple ids session endpoint).SessionsFiled := by
  have hsessions : (if (endpoint.removeTransport fourTuple).transports.isEmpty then
      if (session.removeEndpoint ids.2).endpoints.isEmpty then states.removeSession ids.1
      else states.modifySession ids.1 fun _ => session.removeEndpoint ids.2
      else states.modifyEndpoint ids fun _ => endpoint.removeTransport fourTuple).SessionsFiled := by
    split
    · split
      · exact hfiled.removeSession ids.1
      · apply hfiled.modifySession
        intro held hheld
        obtain rfl := Option.some.inj (hheld.symm.trans hsession)
        exact ⟨rfl, rfl⟩
    · exact hfiled.modifySession fun held _ => ⟨rfl, rfl⟩
  unfold ServerStates.takeTransport
  revert hsessions
  cases endpoint.transports.get fourTuple <;> dsimp only <;> split <;> exact id

/-- Admitting a transport keeps everything filed. -/
theorem Filed.of_admission {lib : Libraries} {input : Moment × SfuEvent} {admitted : Admission}
    (hadmitted : admission lib states input = some admitted) (hfiled : states.Filed) :
    (states.enroll admitted).Filed where
  sessions := by
    apply hfiled.sessions.modifySession
    intro session _
    unfold Session.addEndpoint
    dsimp only
    split
    · split <;> exact ⟨rfl, rfl⟩
    · exact ⟨rfl, rfl⟩
  endpoint ids endpoint hendpoint := by
    rw [endpointAt_enroll hadmitted] at hendpoint
    split at hendpoint
    · rename_i hids
      obtain rfl := Option.some.inj hendpoint
      have hnew : ∀ held : Endpoint, (held.addTransport admitted.transport).hasTransport
          admitted.transportContext.fourTuple = true := by
        intro held
        simp [Endpoint.hasTransport, Endpoint.addTransport, Admission.transport, Transport.new]
      cases hheld : states.endpointAt ids with
      | none => exact ⟨by rw [hids]; rfl, _, hnew _⟩
      | some held => exact ⟨(hfiled.endpoint ids held hheld).1, _, hnew held⟩
    · exact hfiled.endpoint ids endpoint hendpoint
  transport ids fourTuple transport htransport := by
    rw [transportAt_enroll hadmitted] at htransport
    split at htransport
    · rename_i hat
      obtain rfl := Option.some.inj htransport
      exact ⟨hat.2.symm, hat.1.symm⟩
    · exact hfiled.transport ids fourTuple transport htransport
  candidate username candidate hcandidate := hfiled.candidate username candidate hcandidate

/-- Removing a transport keeps everything filed: an endpoint goes with its last transport. -/
theorem Filed.of_removeTransport (fourTuple : FourTuple) (hfiled : states.Filed) :
    (states.removeTransport fourTuple).Filed := by
  cases hlookup : states.getMutEndpoint fourTuple with
  | error error => rwa [states.removeTransport_of_error hlookup]
  | ok found =>
      obtain ⟨named, endpoint⟩ := found
      obtain ⟨hindex, hendpoint⟩ := (states.getMutEndpoint_eq_ok_iff named).mp hlookup
      exact {
        sessions := by
          obtain ⟨session, hsession, -, hremoved⟩ := removeTransport_of_ok hlookup
          rw [hremoved]
          exact hfiled.sessions.takeTransport hsession
        endpoint := by
          intro ids held hheld
          rw [endpointAt_removeTransport hlookup] at hheld
          split at hheld
          · rename_i hids
            split at hheld
            · contradiction
            · rename_i hmore
              obtain rfl := Option.some.inj hheld
              obtain ⟨other, transport, hother⟩ :=
                HashMap.isEmpty_eq_false_iff.mp (Bool.eq_false_iff.mpr hmore)
              refine ⟨hids ▸ (hfiled.endpoint named endpoint hendpoint).1, other, ?_⟩
              simp [Endpoint.hasTransport, HashMap.containsKey, hother]
          · exact hfiled.endpoint ids held hheld
        transport := by
          intro ids other transport htransport
          rw [transportAt_removeTransport] at htransport
          split at htransport
          · contradiction
          · exact hfiled.transport ids other transport htransport
        candidate := by
          intro username candidate hcandidate
          exact hfiled.candidate username candidate
            (states.candidate_of_removeTransport hcandidate) }

end ServerStates

/-- A run keeps everything filed. -/
theorem ServerStates.Filed.of_run {lib : Libraries} {start final : GatewayHandler}
    {moves : List SfuMove} (hrun : (sfu lib).Run start moves final)
    (hstart : start.serverStates.Filed) : final.serverStates.Filed :=
  invariant_of_run ServerStates.Filed (fun _ _ _ hwritten hfiled => hfiled.of_written hwritten)
    (fun _ _ _ hadmitted hfiled => hfiled.of_admission hadmitted)
    (fun _ fourTuple hfiled => hfiled.of_removeTransport fourTuple) hrun hstart

/-- In every state that a fresh SFU can reach everything is filed under its own name. -/
theorem filed_of_run {lib : Libraries} {start final : GatewayHandler} {moves : List SfuMove}
    (hfresh : start.Fresh) (hrun : (sfu lib).Run start moves final) :
    final.serverStates.Filed :=
  (ServerStates.filed_of_fresh hfresh).of_run hrun

theorem filed_of_run_crossing :
    (sfuAfter plainLibraries plainGateway crossing).serverStates.Filed :=
  filed_of_run fresh_plain (run_sfuMoves plainLibraries plainGateway crossing)

end Sfu
end MediaServer
