import MediaServer.Sfu.Footprint

/-!
# Admission

A binding request that nominates its address pair, in the name of a candidate and with the
integrity of the candidate's password, admits the pair to the endpoint of the candidate.
`admission` says which calls admit what, and `endpointAt_enroll` what endpoints there are
then.  A binding request does nothing else to the states.
-/

namespace MediaServer
namespace Sfu

open Foundation Transcription

/-- A four tuple that is admitted to the endpoint of a candidate. -/
structure Admission where
  clock : Instant
  candidate : Candidate
  transportContext : TransportContext

namespace Admission

/-- The transport that is admitted. -/
def transport (admission : Admission) : Transport :=
  Transport.new admission.clock admission.transportContext.fourTuple admission.candidate

/-- The endpoint with the transport; it is made if it is not there. -/
def joined (admission : Admission) : Option Endpoint → Endpoint
  | some endpoint => endpoint.addTransport admission.transport
  | none =>
      ((Endpoint.new admission.candidate.endpointId).addTransport
        admission.transport).setDescriptions
          admission.candidate.localDescription admission.candidate.remoteDescription

end Admission

namespace ServerStates

/-- The states after an admission. -/
def enroll (admission : Admission) (states : ServerStates) : ServerStates :=
  (states.modifySession admission.candidate.sessionId fun session =>
    (session.addEndpoint admission.clock admission.candidate admission.transportContext).1).addEndpoint
      admission.transportContext.fourTuple admission.candidate.ids

/-- Whether a request of a candidate is admitted: it nominates its address pair, the
session is there, and the endpoint does not have the pair yet. -/
def isAdmitted (states : ServerStates) (request : StunMessage) (candidate : Candidate)
    (fourTuple : FourTuple) : Bool :=
  request.contains .useCandidate && (states.sessions.get candidate.sessionId).isSome &&
    (states.transportAt candidate.ids fourTuple).isNone

end ServerStates

/-- What a call admits. -/
def admission (lib : Libraries) (states : ServerStates) : Moment × SfuEvent → Option Admission
  | (moment, .read msg) =>
      match msg.message with
      | .stun (.stun request) =>
          match GatewayHandler.checkStunMessage lib states request with
          | .ok (some candidate) =>
              if states.isAdmitted request candidate msg.transport.fourTuple then
                some ⟨moment.clock, candidate, msg.transport⟩
              else none
          | _ => none
      | _ => none
  | _ => none

namespace GatewayHandler

variable {lib : Libraries} {states : ServerStates} {clock : Instant} {request : StunMessage}
  {candidate : Candidate} {transportContext : TransportContext}

/-- A request is admitted when it should be, and otherwise changes nothing. -/
theorem after_addEndpoint :
    (addEndpoint clock request candidate transportContext).after states =
      if states.isAdmitted request candidate transportContext.fourTuple then
        states.enroll ⟨clock, candidate, transportContext⟩
      else states := by
  unfold addEndpoint
  rw [Fallible.after_get_bind]
  cases hsession : states.sessions.get candidate.sessionId with
  | none =>
      have hnot : states.isAdmitted request candidate transportContext.fourTuple = false := by
        simp [ServerStates.isAdmitted, hsession]
      show Fallible.after (Fallible.okOr (states.sessions.get candidate.sessionId) _ >>= _) _ = _
      rw [hsession, hnot]
      rfl
  | some session =>
      have hadmitted : states.isAdmitted request candidate transportContext.fourTuple =
          !(!request.contains .useCandidate || (session.endpoints.get candidate.endpointId).any
            (·.hasTransport transportContext.fourTuple)) := by
        simp only [ServerStates.isAdmitted, hsession, ServerStates.transportAt,
          ServerStates.endpointAt, Candidate.ids]
        cases hendpoint : session.endpoints.get candidate.endpointId <;>
          simp [hendpoint, Endpoint.hasTransport, HashMap.containsKey]
      have henroll : states.enroll ⟨clock, candidate, transportContext⟩ =
          (states.modifySession candidate.sessionId fun _ =>
            (session.addEndpoint clock candidate transportContext).1).addEndpoint
              transportContext.fourTuple candidate.ids := by
        simp [ServerStates.enroll, ServerStates.modifySession, HashMap.modify, hsession]
      show Fallible.after (Fallible.okOr (states.sessions.get candidate.sessionId) _ >>= _) _ = _
      rw [hsession, Fallible.after_okOr_bind, hadmitted, henroll]
      dsimp only
      split
      · rename_i hstays
        simp only [hstays]
        rfl
      · rename_i hjoins
        simp only [hjoins]
        rfl

/-- What a binding request does is to admit the pair of its candidate. -/
theorem after_handleStunMessage (moment : Moment) (now : Instant) :
    (handleStunMessage lib moment now transportContext request).after states =
      (admission lib states (moment, .read ⟨now, transportContext, .stun (.stun request)⟩)).elim
        states states.enroll := by
  unfold handleStunMessage admission
  rw [Fallible.after_get_bind]
  cases hchecked : checkStunMessage lib states request with
  | error error => simp [Fallible.after, Fallible.outcome_bind, hchecked]
  | ok claimed =>
      rw [Fallible.after_ofExcept_bind]
      cases claimed with
      | none =>
          simp only [hchecked]
          cases (lib.bindingSuccess request.transactionId transportContext.peerAddr none) <;> rfl
      | some candidate =>
          have hadmitted : ∀ admitted : Option Admission,
              (if states.isAdmitted request candidate transportContext.fourTuple then
                some ⟨moment.clock, candidate, transportContext⟩ else none) = admitted →
              (addEndpoint moment.clock request candidate transportContext).after states =
                admitted.elim states states.enroll := by
            rintro admitted rfl
            rw [after_addEndpoint]
            split <;> rfl
          simp only [hchecked]
          rw [← hadmitted _ rfl]
          apply Fallible.after_bind_of_stays
          intro _ next
          cases (lib.bindingSuccess request.transactionId transportContext.peerAddr
            (some candidate.localConnCred.iceParams.password)) <;> rfl

/-- What a checked request has shown. -/
theorem checkStunMessage_eq_ok_some_iff :
    checkStunMessage lib states request = .ok (some candidate) ↔
      ∃ username, request.username = some username ∧ invalidStunMessage request = none ∧
        states.candidates.get username = some candidate ∧
        lib.checkIntegrity candidate.localConnCred.iceParams.password request = .ok () := by
  unfold checkStunMessage
  constructor
  · intro hchecked
    split at hchecked
    · rename_i username husername
      split at hchecked
      · contradiction
      · rename_i hvalid
        split at hchecked
        · rename_i held hheld
          split at hchecked
          · rename_i hintegrity
            obtain rfl := Option.some.inj (Except.ok.inj hchecked)
            exact ⟨username, husername, hvalid, hheld, hintegrity⟩
          · contradiction
        · contradiction
    · split at hchecked <;> simp at hchecked
  · rintro ⟨username, husername, hvalid, hheld, hintegrity⟩
    simp [husername, hvalid, hheld, hintegrity]

end GatewayHandler

variable {lib : Libraries} {states : ServerStates} {input : Moment × SfuEvent}
  {admitted : Admission}

/-- A call that admits is a nominated binding request, checked and not yet admitted. -/
theorem admission_eq_some_iff :
    admission lib states input = some admitted ↔
      ∃ moment msg request, input = (moment, .read msg) ∧ msg.message = .stun (.stun request) ∧
        GatewayHandler.checkStunMessage lib states request = .ok (some admitted.candidate) ∧
        states.isAdmitted request admitted.candidate msg.transport.fourTuple = true ∧
        admitted = ⟨moment.clock, admitted.candidate, msg.transport⟩ := by
  obtain ⟨moment, event⟩ := input
  constructor
  · intro hadmission
    cases event with
    | read msg =>
        simp only [admission] at hadmission
        split at hadmission
        · rename_i request hmsg
          split at hadmission
          · rename_i candidate hchecked
            split at hadmission
            · rename_i hisAdmitted
              obtain rfl := Option.some.inj hadmission
              exact ⟨moment, msg, request, rfl, hmsg, hchecked, hisAdmitted, rfl⟩
            · contradiction
          · contradiction
        · contradiction
    | _ => contradiction
  · rintro ⟨moment, msg, request, hinput, hmsg, hchecked, hisAdmitted, hadmitted⟩
    rw [hinput, hadmitted]
    simp [admission, hmsg, hchecked, hisAdmitted]

theorem isAdmitted_eq_true_iff {request : StunMessage} {candidate : Candidate}
    {fourTuple : FourTuple} :
    states.isAdmitted request candidate fourTuple = true ↔
      request.contains .useCandidate = true ∧
        (∃ session, states.sessions.get candidate.sessionId = some session) ∧
        states.transportAt candidate.ids fourTuple = none := by
  simp [ServerStates.isAdmitted, Option.isSome_iff_exists, and_assoc]

/-- The endpoints of a session after one of its endpoints was given a transport. -/
theorem Session.get_addEndpoint (admission : Admission) {session : Session}
    (hvacant : ∀ endpoint, session.endpoints.get admission.candidate.endpointId = some endpoint →
      endpoint.transports.get admission.transportContext.fourTuple = none)
    (endpointId : EndpointId) :
    (session.addEndpoint admission.clock admission.candidate
        admission.transportContext).1.endpoints.get endpointId =
      if endpointId = admission.candidate.endpointId then
        some (admission.joined (session.endpoints.get endpointId))
      else session.endpoints.get endpointId := by
  cases hendpoint : session.endpoints.get admission.candidate.endpointId with
  | none =>
      simp only [addEndpoint, hendpoint, HashMap.get_insert]
      split
      · rename_i heq
        rw [heq, hendpoint]
        rfl
      · rfl
  | some endpoint =>
      have hnew : endpoint.hasTransport admission.transportContext.fourTuple = false := by
        simp [Endpoint.hasTransport, HashMap.containsKey, hvacant endpoint hendpoint]
      simp only [addEndpoint, hendpoint, hnew, Bool.false_eq_true, if_false, modifyEndpoint,
        HashMap.get_modify]
      split
      · rename_i heq
        rw [heq, hendpoint]
        rfl
      · rfl

/-- The endpoints after an admission. -/
theorem endpointAt_enroll (hadmitted : admission lib states input = some admitted)
    (ids : SessionId × EndpointId) :
    (states.enroll admitted).endpointAt ids =
      if ids = admitted.candidate.ids then some (admitted.joined (states.endpointAt ids))
      else states.endpointAt ids := by
  obtain ⟨moment, msg, request, -, -, -, hisAdmitted, hfrom⟩ := admission_eq_some_iff.mp hadmitted
  obtain ⟨-, ⟨session, hsession⟩, hvacant⟩ := isAdmitted_eq_true_iff.mp hisAdmitted
  have hcontext : msg.transport = admitted.transportContext := by rw [hfrom]
  rw [hcontext] at hvacant
  rw [ServerStates.enroll, ServerStates.endpointAt_addEndpoint,
    ServerStates.endpointAt_modifySession, hsession]
  by_cases hids : ids.1 = admitted.candidate.sessionId
  · have hat : states.endpointAt ids = session.endpoints.get ids.2 := by
      simp [ServerStates.endpointAt, hids, hsession]
    rw [if_pos hids, hat, Option.map_some, Option.bind_some, Session.get_addEndpoint]
    · simp only [Candidate.ids, Prod.ext_iff, hids, true_and]
    · intro endpoint hendpoint
      simpa [ServerStates.transportAt, ServerStates.endpointAt, Candidate.ids, hsession,
        hendpoint] using hvacant
  · have hne : ids ≠ admitted.candidate.ids := fun heq => hids (congrArg Prod.fst heq)
    rw [if_neg hids, if_neg hne]

/-- The transports after an admission. -/
theorem transportAt_enroll (hadmitted : admission lib states input = some admitted)
    (ids : SessionId × EndpointId) (fourTuple : FourTuple) :
    (states.enroll admitted).transportAt ids fourTuple =
      if ids = admitted.candidate.ids ∧ fourTuple = admitted.transportContext.fourTuple then
        some admitted.transport
      else states.transportAt ids fourTuple := by
  rw [ServerStates.transportAt, endpointAt_enroll hadmitted, ServerStates.transportAt]
  by_cases hids : ids = admitted.candidate.ids
  · rw [if_pos hids, Option.bind_some]
    cases states.endpointAt ids with
    | none =>
        simp [Admission.joined, Endpoint.addTransport, Endpoint.setDescriptions, Endpoint.new,
          Admission.transport, Transport.new, hids]
    | some endpoint =>
        simp [Admission.joined, Endpoint.addTransport, Admission.transport, Transport.new, hids]
  · simp [hids]

/-- An admitted pair is new to the endpoint it is admitted to. -/
theorem vacant_of_admission (hadmitted : admission lib states input = some admitted) :
    states.transportAt admitted.candidate.ids admitted.transportContext.fourTuple = none := by
  obtain ⟨moment, msg, request, -, -, -, hisAdmitted, hfrom⟩ := admission_eq_some_iff.mp hadmitted
  have hcontext : msg.transport = admitted.transportContext := by rw [hfrom]
  rw [← hcontext]
  exact (isAdmitted_eq_true_iff.mp hisAdmitted).2.2

/-- The index after an admission. -/
theorem endpoints_enroll :
    (states.enroll admitted).endpoints =
      states.endpoints.insert admitted.transportContext.fourTuple admitted.candidate.ids := rfl

end Sfu
end MediaServer
