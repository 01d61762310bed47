import MediaServer.Foundation.Roster
import MediaServer.Sfu.Filed

/-!
# The registry of transports

Every packet finds its transport through the index from four tuples to endpoints.  Seen
from there, the states are a roster (`roster`): transports are members of endpoints, and
the index names one endpoint for a four tuple.  A run of the SFU is a run of the roster
(`refines_roster`), so what is known of rosters is known of the SFU:

* `registered_iff`: the index knows every transport exactly when no call of the run
  admitted a four tuple that another endpoint had a transport for;
* `orphan_stays`: a transport that the index does not know is never removed.
-/

namespace MediaServer
namespace Sfu

open Foundation Transcription

/-! ## The roster of transports -/

namespace ServerStates

variable (states : ServerStates)

/-- Transports as members of endpoints, and the index. -/
def roster : Roster FourTuple (SessionId × EndpointId) where
  members := {member | (states.transportAt member.2 member.1).isSome}
  index := states.endpoints.get

@[simp] theorem mem_members_roster {fourTuple : FourTuple} {ids : SessionId × EndpointId} :
    (fourTuple, ids) ∈ states.roster.members ↔ (states.transportAt ids fourTuple).isSome := Iff.rfl

@[simp] theorem index_roster (fourTuple : FourTuple) :
    states.roster.index fourTuple = states.endpoints.get fourTuple := rfl

/-- A fresh server has an empty roster. -/
theorem roster_of_fresh {gateway : GatewayHandler} (hfresh : gateway.Fresh) :
    gateway.serverStates.roster = Roster.empty := by
  obtain ⟨serverConfig, localAddr, hstates⟩ := hfresh.serverStates
  rw [hstates]
  ext fourTuple ids
  · simp [transportAt, endpointAt, Roster.empty]
  · simp [Roster.empty]

/-- Writes do not show in the roster. -/
theorem roster_of_skeleton {before after : ServerStates}
    (hskeleton : after.skeleton = before.skeleton) : after.roster = before.roster := by
  have hindex : after.endpoints = before.endpoints := congrArg Prod.fst hskeleton
  ext fourTuple ids
  · simp [isSome_transportAt_of_skeleton hskeleton]
  · simp [hindex]

variable {states}

/-- An admission of the SFU is an admission to the roster. -/
theorem roster_enroll {lib : Libraries} {input : Moment × SfuEvent} {admitted : Admission}
    (hadmitted : admission lib states input = some admitted) :
    (states.enroll admitted).roster =
      states.roster.enroll admitted.transportContext.fourTuple admitted.candidate.ids := by
  apply Roster.ext
  · intro fourTuple ids
    rw [mem_members_roster, transportAt_enroll hadmitted, Roster.mem_members_enroll,
      mem_members_roster]
    split
    · rename_i hat
      simp [hat.1, hat.2]
    · rename_i hat
      constructor
      · exact Or.inr
      · rintro (⟨hfourTuple, hids⟩ | hheld)
        · exact absurd ⟨hids, hfourTuple⟩ hat
        · exact hheld
  · intro fourTuple
    rw [index_roster, endpoints_enroll, HashMap.get_insert, Roster.index_enroll, index_roster]
    split <;> rfl

/-- Every endpoint has a transport, so the roster knows every endpoint. -/
theorem inhabited_roster_iff (hfiled : states.Filed) {ids : SessionId × EndpointId} :
    states.roster.Inhabited ids ↔ ∃ endpoint, states.endpointAt ids = some endpoint := by
  constructor
  · rintro ⟨fourTuple, hmem⟩
    obtain ⟨transport, htransport⟩ := Option.isSome_iff_exists.mp hmem
    obtain ⟨endpoint, hendpoint, -⟩ := Option.bind_eq_some_iff.mp htransport
    exact ⟨endpoint, hendpoint⟩
  · rintro ⟨endpoint, hendpoint⟩
    obtain ⟨-, fourTuple, hhas⟩ := hfiled.endpoint ids endpoint hendpoint
    refine ⟨fourTuple, ?_⟩
    show (states.transportAt ids fourTuple).isSome
    rw [transportAt, hendpoint]
    exact hhas

/-- Removing a transport is dropping its four tuple from the roster. -/
theorem roster_removeTransport (hfiled : states.Filed) (fourTuple : FourTuple) :
    (states.removeTransport fourTuple).roster = states.roster.drop fourTuple := by
  have hmembers : ∀ other ids, (other, ids) ∈ (states.removeTransport fourTuple).roster.members ↔
      (other, ids) ∈ states.roster.members ∧
        ¬(other = fourTuple ∧ states.roster.index fourTuple = some ids) := by
    intro other ids
    rw [mem_members_roster, transportAt_removeTransport, mem_members_roster, index_roster]
    split
    · rename_i hat
      simp [hat.1, hat.2]
    · rename_i hat
      exact ⟨fun hheld => ⟨hheld, fun hnot => hat hnot.symm⟩, And.left⟩
  apply Roster.ext
  · intro other ids
    rw [hmembers, Roster.mem_members_drop]
  · intro other
    by_cases hreached : ∃ ids endpoint, states.endpoints.get fourTuple = some ids ∧
        states.endpointAt ids = some endpoint
    · obtain ⟨ids, endpoint, hindex, hendpoint⟩ := hreached
      have hinhabited := (inhabited_roster_iff hfiled).mpr ⟨endpoint, hendpoint⟩
      have hmore : (∃ left, (left, ids) ∈ states.roster.members ∧ left ≠ fourTuple) ↔
          (endpoint.removeTransport fourTuple).transports.isEmpty = false := by
        rw [HashMap.isEmpty_eq_false_iff]
        simp only [mem_members_roster, transportAt, hendpoint, Option.bind_some,
          Option.isSome_iff_exists, Endpoint.removeTransport, HashMap.get_remove]
        constructor
        · rintro ⟨left, ⟨transport, hheld⟩, hne⟩
          exact ⟨left, transport, by rw [if_neg hne, hheld]⟩
        · rintro ⟨left, transport, hheld⟩
          split at hheld
          · contradiction
          · rename_i hne
            exact ⟨left, ⟨transport, hheld⟩, hne⟩
      rw [Roster.index_drop_of_inhabited _ _ hindex hinhabited, index_roster,
        endpoints_removeTransport (states.getMutEndpoint_eq_ok hindex hendpoint), hmore,
        index_roster]
      cases hlast : (endpoint.removeTransport fourTuple).transports.isEmpty with
      | false => simp
      | true => by_cases hother : other = fourTuple <;> simp [hother]
    · have hunreached : ∀ ids, states.endpoints.get fourTuple = some ids →
          states.endpointAt ids = none := by
        intro ids hindex
        cases hendpoint : states.endpointAt ids with
        | none => rfl
        | some endpoint => exact absurd ⟨ids, endpoint, hindex, hendpoint⟩ hreached
      rw [states.removeTransport_of_unreached hunreached, Roster.drop_of_unreached]
      intro ids hindex hinhabited
      obtain ⟨endpoint, hendpoint⟩ := (inhabited_roster_iff hfiled).mp hinhabited
      rw [hunreached ids hindex] at hendpoint
      contradiction

/-- Removals are drops. -/
theorem run_removeTransports (fourTuples : List FourTuple) (hfiled : states.Filed) :
    ∃ seen, Roster.machine.Run states.roster seen (states.removeTransports fourTuples).roster ∧
      ∀ step ∈ seen, ∃ fourTuple, step.input = .drop fourTuple := by
  induction fourTuples generalizing states with
  | nil => exact ⟨[], Machine.Run.nil _, by simp⟩
  | cons fourTuple rest ih =>
      obtain ⟨seen, hseen, hdrops⟩ := ih (hfiled.of_removeTransport fourTuple)
      rw [roster_removeTransport hfiled] at hseen
      have hdrop : Roster.machine.Fires
          ⟨states.roster, .drop fourTuple, states.roster.drop fourTuple, []⟩ := rfl
      refine ⟨_ :: seen, Machine.Run.cons hdrop hseen, ?_⟩
      intro step hmem
      rcases List.mem_cons.mp hmem with rfl | hlater
      · exact ⟨fourTuple, rfl⟩
      · exact hdrops step hlater

/-- The index knows every transport. -/
def Registered (states : ServerStates) : Prop :=
  ∀ fourTuple ids, (states.transportAt ids fourTuple).isSome →
    states.endpoints.get fourTuple = some ids

end ServerStates

/-- A call that admits a four tuple for which another endpoint has a transport. -/
def TakesOver (lib : Libraries) (move : SfuMove) : Prop :=
  ∃ admitted, admission lib move.pre.serverStates move.input = some admitted ∧
    ∃ ids, ids ≠ admitted.candidate.ids ∧
      (move.pre.serverStates.transportAt ids admitted.transportContext.fourTuple).isSome

/-- Who has a transport of a four tuple is found among the endpoints of the sessions. -/
theorem ServerStates.exists_transportAt_iff {states : ServerStates} {fourTuple : FourTuple}
    {p : SessionId × EndpointId → Prop} :
    (∃ ids, p ids ∧ (states.transportAt ids fourTuple).isSome) ↔
      ∃ sessionId ∈ states.sessions.keys,
        ∃ endpointId ∈ ((states.sessions.get sessionId).map (·.endpoints.keys)).getD ∅,
          p (sessionId, endpointId) ∧
            (states.transportAt (sessionId, endpointId) fourTuple).isSome := by
  constructor
  · rintro ⟨⟨sessionId, endpointId⟩, hp, hheld⟩
    obtain ⟨transport, htransport⟩ := Option.isSome_iff_exists.mp hheld
    obtain ⟨endpoint, hendpoint, -⟩ := Option.bind_eq_some_iff.mp htransport
    obtain ⟨session, hsession, hfound⟩ := Option.bind_eq_some_iff.mp hendpoint
    refine ⟨sessionId, HashMap.mem_keys_iff_get.mpr ⟨session, hsession⟩, endpointId, ?_, hp, hheld⟩
    rw [hsession]
    exact HashMap.mem_keys_iff_get.mpr ⟨endpoint, hfound⟩
  · rintro ⟨sessionId, -, endpointId, -, hfound⟩
    exact ⟨(sessionId, endpointId), hfound⟩

instance (lib : Libraries) (move : SfuMove) : Decidable (TakesOver lib move) :=
  match hadmission : admission lib move.pre.serverStates move.input with
  | none => isFalse (by rintro ⟨admitted, hadmitted, -⟩; simp [hadmission] at hadmitted)
  | some admitted =>
      decidable_of_iff (∃ sessionId ∈ move.pre.serverStates.sessions.keys,
        ∃ endpointId ∈ ((move.pre.serverStates.sessions.get sessionId).map
          (·.endpoints.keys)).getD ∅, (sessionId, endpointId) ≠ admitted.candidate.ids ∧
            (move.pre.serverStates.transportAt (sessionId, endpointId)
              admitted.transportContext.fourTuple).isSome) (by
        rw [← ServerStates.exists_transportAt_iff (p := (· ≠ admitted.candidate.ids))]
        constructor
        · exact fun htaken => ⟨admitted, hadmission, htaken⟩
        · rintro ⟨other, hother, htaken⟩
          obtain rfl := Option.some.inj (hadmission.symm.trans hother)
          exact htaken)

section Runs

variable {lib : Libraries} {start middle final : GatewayHandler} {moves earlier later : List SfuMove}

/-- What a roster sees of a call. -/
theorem sees_of_fires {move : SfuMove} (hfires : (sfu lib).Fires move)
    (hfiled : move.pre.serverStates.Filed) :
    ∃ seen, Roster.machine.Run move.pre.serverStates.roster seen move.post.serverStates.roster ∧
      (TakesOver lib move ↔ ∃ step ∈ seen, ¬step.pre.Unclaimed step.input) := by
  rcases effect_of_fires hfires with ⟨admitted, hadmitted, hpost⟩ | ⟨hnone, written, hwrote, hpost⟩
  · have hnew : (admitted.transportContext.fourTuple, admitted.candidate.ids) ∉
        move.pre.serverStates.roster.members := by
      simp [vacant_of_admission hadmitted]
    rw [hpost, ServerStates.roster_enroll hadmitted]
    refine ⟨_, Machine.Run.single (Roster.fires_enroll hnew), ?_⟩
    simp only [List.mem_singleton, exists_eq_left, Roster.Unclaimed, not_forall,
      ServerStates.mem_members_roster]
    constructor
    · rintro ⟨other, hother, ids, hne, hheld⟩
      obtain rfl := Option.some.inj (hadmitted.symm.trans hother)
      exact ⟨ids, hheld, hne⟩
    · rintro ⟨ids, hheld, hne⟩
      exact ⟨admitted, hadmitted, ids, hne, hheld⟩
  · have hroster := ServerStates.roster_of_skeleton hwrote.skeleton
    obtain ⟨seen, hseen, hdrops⟩ := ServerStates.run_removeTransports
      (removals move.pre move.input) (hfiled.of_written hwrote)
    rw [hroster, ← hpost] at hseen
    refine ⟨seen, hseen, ?_⟩
    constructor
    · rintro ⟨admitted, hadmitted, -⟩
      rw [hnone] at hadmitted
      contradiction
    · rintro ⟨step, hmem, hclaimed⟩
      obtain ⟨fourTuple, hinput⟩ := hdrops step hmem
      rw [hinput] at hclaimed
      exact absurd trivial hclaimed

/-- A run of the SFU is a run of the roster of its transports. -/
theorem refines_roster (hrun : (sfu lib).Run start moves final)
    (hstart : start.serverStates.Filed) :
    ∃ steps, Roster.machine.Run start.serverStates.roster steps.flatten final.serverStates.roster ∧
      List.Forall₂ (fun move seen => TakesOver lib move ↔
        ∃ step ∈ seen, ¬step.pre.Unclaimed step.input) moves steps := by
  apply hrun.simulate_exists fun gateway : GatewayHandler => gateway.serverStates.roster
  intro move hmem
  obtain ⟨earlier, later, rfl⟩ := List.append_of_mem hmem
  obtain ⟨hbefore, hfires, -⟩ := hrun.split_at
  exact sees_of_fires hfires (hstart.of_run hbefore)

/-- What the roster says of a run that starts with nothing. -/
theorem indexed_iff_of_fresh (hfresh : start.Fresh) (hrun : (sfu lib).Run start moves final) :
    final.serverStates.roster.Indexed ↔ ∀ move ∈ moves, ¬TakesOver lib move := by
  obtain ⟨steps, hsteps, hmatches⟩ := refines_roster hrun (ServerStates.filed_of_fresh hfresh)
  rw [ServerStates.roster_of_fresh hfresh] at hsteps
  have hindexed := Roster.indexed_iff hsteps Roster.indexed_empty
  have hseen := Machine.Run.forall_seen_iff hmatches
  simp only [not_not] at hseen
  exact hindexed.trans hseen.symm

/-- As long as nobody takes over a four tuple, the index knows every transport. -/
theorem registered_of_run (hfresh : start.Fresh) (hrun : (sfu lib).Run start moves final)
    (hkept : ∀ move ∈ moves, ¬TakesOver lib move) : final.serverStates.Registered :=
  (indexed_iff_of_fresh hfresh hrun).mpr hkept

/-- The index of a fresh SFU knows every transport after a run exactly when no call of the
run took over a four tuple of another endpoint. -/
theorem registered_iff (hfresh : start.Fresh) (hrun : (sfu lib).Run start moves final) :
    final.serverStates.Registered ↔ ∀ move ∈ moves, ¬TakesOver lib move :=
  indexed_iff_of_fresh hfresh hrun

theorem registered_iff_crossing :
    (sfuAfter plainLibraries plainGateway crossing).serverStates.Registered ↔
      ∀ move ∈ sfuMoves plainLibraries plainGateway crossing, ¬TakesOver plainLibraries move :=
  registered_iff fresh_plain (run_sfuMoves plainLibraries plainGateway crossing)

/-- A transport that the index does not know stays for ever, whatever calls follow. -/
theorem orphan_stays (hfresh : start.Fresh) (hearlier : (sfu lib).Run start earlier middle)
    (hlater : (sfu lib).Run middle later final) {ids : SessionId × EndpointId}
    {fourTuple : FourTuple} (hheld : (middle.serverStates.transportAt ids fourTuple).isSome)
    (hlost : middle.serverStates.endpoints.get fourTuple ≠ some ids) :
    (final.serverStates.transportAt ids fourTuple).isSome ∧
      final.serverStates.endpoints.get fourTuple ≠ some ids := by
  obtain ⟨steps, hsteps, -⟩ :=
    refines_roster hlater ((ServerStates.filed_of_fresh hfresh).of_run hearlier)
  exact Roster.stray_of_run hsteps ⟨hheld, hlost⟩

/-- The transport of the peer that came first is found no more, and outlasts every sweep. -/
theorem orphan_stays_crossing :
    ((sfuAfter plainLibraries (sfuAfter plainLibraries plainGateway crossing)
        [(momentWith 100 "", .timeout 100)]).serverStates.transportAt (1, 10)
          (contextAt 5001).fourTuple).isSome ∧
      (sfuAfter plainLibraries (sfuAfter plainLibraries plainGateway crossing)
        [(momentWith 100 "", .timeout 100)]).serverStates.endpoints.get
          (contextAt 5001).fourTuple ≠ some (1, 10) :=
  orphan_stays fresh_plain (run_sfuMoves plainLibraries plainGateway crossing)
    (run_sfuMoves plainLibraries _ [(momentWith 100 "", .timeout 100)])
    (by decide +kernel) (by decide +kernel)

/-- The first peer of all takes over nothing. -/
theorem kept_arrival :
    ∀ move ∈ sfuMoves plainLibraries plainGateway arrival, ¬TakesOver plainLibraries move := by
  decide +kernel

end Runs

end Sfu
end MediaServer
