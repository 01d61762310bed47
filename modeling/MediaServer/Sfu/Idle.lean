import MediaServer.Sfu.Provenance
import MediaServer.Sfu.Registry

/-!
# The sweep of idle transports

A timeout looks for four tuples of transports that were not active for the idle timeout,
and removes, for each, the transport that the index names.  Where the index knows every
transport these are the same (`survives_iff_active`).  Where it does not, a transport goes
because another one with its four tuple is idle, and an idle one stays (`survives_iff`).
Only an admission and media count as activity (`active_of_survives`): binding requests for
a transport that is there, and everything on a data channel, do not.
-/

namespace MediaServer
namespace Sfu

open Foundation Transcription

namespace ServerStates

variable (states : ServerStates)

/-- Removing a transport changes the index at its four tuple only, and only to nothing. -/
theorem get_endpoints_removeTransport (fourTuple other : FourTuple) :
    (states.removeTransport fourTuple).endpoints.get other = states.endpoints.get other ∨
      (other = fourTuple ∧ (states.removeTransport fourTuple).endpoints.get other = none) := by
  cases hlookup : states.getMutEndpoint fourTuple with
  | error error => exact Or.inl (by rw [states.removeTransport_of_error hlookup])
  | ok found =>
      rw [endpoints_removeTransport hlookup]
      split
      · rw [HashMap.get_remove]
        split
        · rename_i heq
          exact Or.inr ⟨heq, rfl⟩
        · exact Or.inl rfl
      · exact Or.inl rfl

/-- Some removals take away what the index named for their four tuples when they began. -/
theorem transportAt_removeTransports {ids : SessionId × EndpointId} {fourTuple : FourTuple}
    {transport : Transport} (fourTuples : List FourTuple) :
    (states.removeTransports fourTuples).transportAt ids fourTuple = some transport ↔
      states.transportAt ids fourTuple = some transport ∧
        ¬(states.endpoints.get fourTuple = some ids ∧ fourTuple ∈ fourTuples) := by
  induction fourTuples generalizing states with
  | nil => simp [removeTransports]
  | cons first rest ih =>
      rw [removeTransports_cons, ih, transportAt_removeTransport]
      by_cases hfirst : fourTuple = first
      · subst hfirst
        by_cases hindex : states.endpoints.get fourTuple = some ids
        · simp [hindex]
        · have hnext : (states.removeTransport fourTuple).endpoints.get fourTuple ≠ some ids := by
            rcases states.get_endpoints_removeTransport fourTuple fourTuple with hsame | ⟨-, hnone⟩
            · rwa [hsame]
            · rw [hnone]
              exact Option.some_ne_none ids |>.symm
          simp [hindex, hnext]
      · have hsame : (states.removeTransport first).endpoints.get fourTuple =
            states.endpoints.get fourTuple := by
          rcases states.get_endpoints_removeTransport first fourTuple with hsame | ⟨heq, -⟩
          · exact hsame
          · exact absurd heq hfirst
        simp [hfirst, hsame]

end ServerStates

namespace GatewayHandler

variable (gateway : GatewayHandler)

/-- Some transport of the four tuple was not active for the idle timeout. -/
def HasIdle (now : Instant) (fourTuple : FourTuple) : Prop :=
  ∃ ids transport, gateway.serverStates.transportAt ids fourTuple = some transport ∧
    transport.lastActivity ≤ now - gateway.idleTimeout

/-- The sweep looks for the four tuples of idle transports, in whatever order. -/
theorem mem_idleFourTuples_iff (hfiled : gateway.serverStates.Filed) (orders : Orders)
    (now : Instant) (fourTuple : FourTuple) :
    fourTuple ∈ gateway.idleFourTuples orders now ↔ gateway.HasIdle now fourTuple := by
  simp only [idleFourTuples, List.mem_flatMap, List.mem_filterMap, Prod.exists, HashMap.mem_iter]
  constructor
  · rintro ⟨sessionId, session, hsession, endpointId, endpoint, hendpoint, key, transport,
      htransport, hidle⟩
    have hheld : gateway.serverStates.transportAt (sessionId, endpointId) key = some transport := by
      simp [ServerStates.transportAt, ServerStates.endpointAt, hsession, hendpoint, htransport]
    split at hidle
    · rename_i hquiet
      obtain rfl := Option.some.inj hidle
      rw [(hfiled.transport _ _ _ hheld).1]
      exact ⟨_, transport, hheld, hquiet⟩
    · contradiction
  · rintro ⟨ids, transport, hheld, hquiet⟩
    obtain ⟨endpoint, hendpoint, htransport⟩ := Option.bind_eq_some_iff.mp hheld
    obtain ⟨session, hsession, hendpoint⟩ := Option.bind_eq_some_iff.mp hendpoint
    refine ⟨ids.1, session, hsession, ids.2, endpoint, hendpoint, fourTuple, transport,
      htransport, ?_⟩
    rw [if_pos hquiet, (hfiled.transport _ _ _ hheld).1]

end GatewayHandler

section Sweep

variable {lib : Libraries} {start gateway : GatewayHandler} {moves : List SfuMove}
  {now : Instant} {ids : SessionId × EndpointId} {fourTuple : FourTuple} {transport : Transport}

/-- The transports after a due sweep of filed states. -/
theorem transportAt_handleTimeout (hfiled : gateway.serverStates.Filed) (orders : Orders)
    (hdue : gateway.nextTimeout ≤ now) :
    (gateway.handleTimeout orders now).serverStates.transportAt ids fourTuple = some transport ↔
      gateway.serverStates.transportAt ids fourTuple = some transport ∧
        ¬(gateway.serverStates.endpoints.get fourTuple = some ids ∧
          gateway.HasIdle now fourTuple) := by
  have hsweep : (gateway.handleTimeout orders now).serverStates =
      gateway.serverStates.removeTransports (gateway.idleFourTuples orders now) := by
    rw [GatewayHandler.handleTimeout, if_pos hdue]
    rfl
  rw [hsweep, ServerStates.transportAt_removeTransports,
    gateway.mem_idleFourTuples_iff hfiled]

/-- What a due sweep leaves: the transports that the index does not name, and those whose
four tuple has no idle transport. -/
theorem survives_iff (hfresh : start.Fresh) (hrun : (sfu lib).Run start moves gateway)
    (orders : Orders) (hdue : gateway.nextTimeout ≤ now) :
    (gateway.handleTimeout orders now).serverStates.transportAt ids fourTuple = some transport ↔
      gateway.serverStates.transportAt ids fourTuple = some transport ∧
        ¬(gateway.serverStates.endpoints.get fourTuple = some ids ∧
          gateway.HasIdle now fourTuple) :=
  transportAt_handleTimeout ((ServerStates.filed_of_fresh hfresh).of_run hrun) orders hdue

/-- The peer that came first stays although it is idle. -/
theorem survives_iff_crossing :
    ∃ transport, (sfuAfter plainLibraries plainGateway crossing).serverStates.transportAt (1, 10)
        (contextAt 5001).fourTuple = some transport ∧
      (((sfuAfter plainLibraries plainGateway crossing).handleTimeout (momentWith 100 "").orders
          100).serverStates.transportAt (1, 10) (contextAt 5001).fourTuple = some transport ↔
        (sfuAfter plainLibraries plainGateway crossing).serverStates.transportAt (1, 10)
            (contextAt 5001).fourTuple = some transport ∧
          ¬((sfuAfter plainLibraries plainGateway crossing).serverStates.endpoints.get
              (contextAt 5001).fourTuple = some (1, 10) ∧
            (sfuAfter plainLibraries plainGateway crossing).HasIdle 100
              (contextAt 5001).fourTuple)) := by
  have hheld : ((sfuAfter plainLibraries plainGateway crossing).serverStates.transportAt (1, 10)
      (contextAt 5001).fourTuple).isSome := by decide +kernel
  obtain ⟨transport, htransport⟩ := Option.isSome_iff_exists.mp hheld
  exact ⟨transport, htransport, survives_iff fresh_plain
    (run_sfuMoves plainLibraries plainGateway crossing) (momentWith 100 "").orders
      (by decide +kernel)⟩

/-- As long as nobody took over a four tuple, a due sweep leaves exactly the transports that
were active. -/
theorem survives_iff_active (hfresh : start.Fresh) (hrun : (sfu lib).Run start moves gateway)
    (hkept : ∀ move ∈ moves, ¬TakesOver lib move) (orders : Orders)
    (hdue : gateway.nextTimeout ≤ now) :
    (gateway.handleTimeout orders now).serverStates.transportAt ids fourTuple = some transport ↔
      gateway.serverStates.transportAt ids fourTuple = some transport ∧
        now - gateway.idleTimeout < transport.lastActivity := by
  have hregistered := registered_of_run hfresh hrun hkept
  rw [transportAt_handleTimeout ((ServerStates.filed_of_fresh hfresh).of_run hrun) orders hdue]
  apply and_congr_right
  intro hheld
  have hindex := hregistered fourTuple ids (by rw [hheld]; rfl)
  rw [← not_le, not_iff_not]
  constructor
  · rintro ⟨-, other, idle, hidle, hquiet⟩
    have hother := hregistered fourTuple other (by rw [hidle]; rfl)
    obtain rfl := Option.some.inj (hother.symm.trans hindex)
    obtain rfl := Option.some.inj (hidle.symm.trans hheld)
    exact hquiet
  · intro hquiet
    exact ⟨hindex, ids, transport, hheld, hquiet⟩

/-- A transport that survives a due sweep was admitted, or sent media, within the idle
timeout. -/
theorem active_of_survives (hfresh : start.Fresh) (hrun : (sfu lib).Run start moves gateway)
    (hkept : ∀ move ∈ moves, ¬TakesOver lib move) (orders : Orders)
    (hdue : gateway.nextTimeout ≤ now)
    (hsurvives : (gateway.handleTimeout orders now).serverStates.transportAt ids fourTuple =
      some transport) :
    ∃ move ∈ moves, now - gateway.idleTimeout < move.input.1.clock ∧
      (Admits lib move transport.candidate fourTuple ∨ SendsMedia move fourTuple) := by
  obtain ⟨hheld, hactive⟩ := (survives_iff_active hfresh hrun hkept orders hdue).mp hsurvives
  have htraced := (tracedStates_of_run hfresh hrun).transport ids fourTuple transport hheld
  obtain ⟨move, hmem, hclock, hheard⟩ := htraced.lastActivity
  exact ⟨move, hmem, by rwa [hclock], hheard⟩

theorem active_of_survives_arrival :
    ∃ transport : Transport, ∃ move ∈ sfuMoves plainLibraries plainGateway arrival,
      31 - ((sfuAfter plainLibraries plainGateway arrival).idleTimeout : Int) <
          move.input.1.clock ∧
        (Admits plainLibraries move transport.candidate (contextAt 5001).fourTuple ∨
          SendsMedia move (contextAt 5001).fourTuple) := by
  have hleft : (((sfuAfter plainLibraries plainGateway arrival).handleTimeout
      (momentWith 31 "").orders 31).serverStates.transportAt (1, 10)
        (contextAt 5001).fourTuple).isSome := by decide +kernel
  obtain ⟨transport, htransport⟩ := Option.isSome_iff_exists.mp hleft
  exact ⟨transport, active_of_survives fresh_plain
    (run_sfuMoves plainLibraries plainGateway arrival) kept_arrival (momentWith 31 "").orders
      (by decide +kernel) htransport⟩

end Sweep

end Sfu
end MediaServer
