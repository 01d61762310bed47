import MediaServer.Sfu.Gateway

/-!
# Mids

An endpoint keeps the mids of its transceivers twice: as a list, in the order of the
sections of its offers, and as the keys of its transceivers (`Endpoint.Listed`).  A
transceiver of another endpoint has a mid made of the identifier of that endpoint and its
mid there, so no two of them have the same (`nodup_newTransceivers`).
-/

namespace MediaServer
namespace Sfu

open Foundation

theorem toList_toString (endpointId : EndpointId) :
    (toString endpointId).toList = Nat.toDigits 10 endpointId.toNat := by
  show (String.ofList _).toList = _
  rw [String.toList_ofList]

/-- No digit is a hyphen. -/
theorem not_mem_toString (endpointId : EndpointId) : '-' ∉ (toString endpointId).toList := by
  rw [toList_toString]
  intro hmem
  have hdigit := Nat.isDigit_of_mem_toDigits (by decide) (by decide) hmem
  contradiction

/-- Two texts that are cut at their first hyphens have the same parts. -/
theorem append_hyphen_inj {first second rest other : List Char} (hfirst : '-' ∉ first)
    (hsecond : '-' ∉ second) (heq : first ++ '-' :: rest = second ++ '-' :: other) :
    first = second ∧ rest = other := by
  induction first generalizing second with
  | nil =>
      cases second with
      | nil => exact ⟨rfl, (List.cons.inj heq).2⟩
      | cons char second =>
          obtain ⟨rfl, -⟩ := List.cons.inj heq
          simp at hsecond
  | cons char first ih =>
      cases second with
      | nil =>
          obtain ⟨rfl, -⟩ := List.cons.inj heq
          simp at hfirst
      | cons char' second =>
          obtain ⟨rfl, hrest⟩ := List.cons.inj heq
          obtain ⟨rfl, rfl⟩ := ih (fun hmem => hfirst (List.mem_cons_of_mem _ hmem))
            (fun hmem => hsecond (List.mem_cons_of_mem _ hmem)) hrest
          exact ⟨rfl, rfl⟩

/-- A mid for others names the endpoint and the mid it is made of. -/
theorem otherMidValue_inj {first second : EndpointId} {mid other : Mid}
    (heq : otherMidValue first mid = otherMidValue second other) :
    first = second ∧ mid = other := by
  have hchars : (toString first).toList ++ '-' :: mid.toList =
      (toString second).toList ++ '-' :: other.toList := by
    simpa [otherMidValue] using congrArg String.toList heq
  obtain ⟨hids, hmids⟩ :=
    append_hyphen_inj (not_mem_toString first) (not_mem_toString second) hchars
  refine ⟨?_, String.toList_inj.mp hmids⟩
  rw [toList_toString, toList_toString] at hids
  have hvalues := congrArg (Nat.ofDigitChars 10 · 0) hids
  simpa [Nat.ofDigitChars_ten_toDigits, UInt64.toNat_inj] using hvalues

/-! ## What an endpoint lists -/

namespace Endpoint

/-- The mids of an endpoint are those of its transceivers, each filed under its own. -/
structure Listed (endpoint : Endpoint) : Prop where
  mids : ∀ mid, mid ∈ endpoint.mids ↔ endpoint.transceivers.containsKey mid = true
  transceivers : ∀ mid transceiver, endpoint.transceivers.get mid = some transceiver →
    transceiver.mid = mid

theorem listed_new (endpointId : EndpointId) : (Endpoint.new endpointId).Listed where
  mids mid := by simp [Endpoint.new]
  transceivers mid transceiver htransceiver := by simp [Endpoint.new] at htransceiver

/-- Adding transceivers appends their mids. -/
theorem mids_addTransceivers (added : List RTCRtpTransceiver) (endpoint : Endpoint) :
    (GatewayHandler.addTransceivers added endpoint).mids =
      endpoint.mids ++ added.map RTCRtpTransceiver.mid := by
  unfold GatewayHandler.addTransceivers
  induction added generalizing endpoint with
  | nil => simp
  | cons first rest ih =>
      rw [List.foldl_cons, ih]
      simp [addTransceiver]

end Endpoint

namespace GatewayHandler

/-- What becomes of a transceiver of another endpoint at an endpoint that joins. -/
def handedOver (otherEndpointId : EndpointId) :
    Mid × RTCRtpTransceiver → Option RTCRtpTransceiver := fun (otherMid, otherTransceiver) =>
  if otherTransceiver.direction = .recvonly then
    some { otherTransceiver with
      mid := otherMidValue otherEndpointId otherMid
      direction := .sendonly }
  else none

theorem newTransceivers_eq (orders : Orders) (session : Session) (endpointId : EndpointId) :
    newTransceivers orders session endpointId =
      (session.endpoints.iter orders.endpoints).flatMap fun (otherEndpointId, otherEndpoint) =>
        if otherEndpointId ≠ endpointId then
          (otherEndpoint.transceivers.iter orders.names).filterMap (handedOver otherEndpointId)
        else [] := rfl

theorem handedOver_eq_some {otherEndpointId : EndpointId} {entry : Mid × RTCRtpTransceiver}
    {handed : RTCRtpTransceiver} (hhanded : handedOver otherEndpointId entry = some handed) :
    entry.2.direction = .recvonly ∧ handed = { entry.2 with
      mid := otherMidValue otherEndpointId entry.1
      direction := .sendonly } := by
  obtain ⟨mid, transceiver⟩ := entry
  simp only [handedOver] at hhanded
  split at hhanded
  · rename_i hdirection
    exact ⟨hdirection, (Option.some.inj hhanded).symm⟩
  · contradiction

/-- What an endpoint that joins is handed has as many mids as transceivers. -/
theorem nodup_newTransceivers (orders : Orders) (session : Session) (endpointId : EndpointId) :
    ((newTransceivers orders session endpointId).map RTCRtpTransceiver.mid).Nodup := by
  rw [newTransceivers_eq, List.Nodup, List.pairwise_map, List.pairwise_flatMap]
  constructor
  · rintro ⟨other, endpoint⟩ -
    dsimp only
    split
    · have hkeys := HashMap.nodup_map_fst_iter orders.names endpoint.transceivers
      rw [List.Nodup, List.pairwise_map] at hkeys
      refine hkeys.filterMap _ ?_
      intro first second hne handed hhanded handed' hhanded' heq
      rw [(handedOver_eq_some hhanded).2, (handedOver_eq_some hhanded').2] at heq
      exact hne (otherMidValue_inj heq).2
    · exact List.Pairwise.nil
  · have hkeys := HashMap.nodup_map_fst_iter orders.endpoints session.endpoints
    rw [List.Nodup, List.pairwise_map] at hkeys
    refine hkeys.imp ?_
    rintro ⟨first, firstEndpoint⟩ ⟨second, secondEndpoint⟩ hne handed hhanded handed' hhanded' heq
    dsimp only at hhanded hhanded'
    split at hhanded
    · split at hhanded'
      · obtain ⟨entry, -, hentry⟩ := List.mem_filterMap.mp hhanded
        obtain ⟨entry', -, hentry'⟩ := List.mem_filterMap.mp hhanded'
        rw [(handedOver_eq_some hentry).2, (handedOver_eq_some hentry').2] at heq
        exact hne (otherMidValue_inj heq).1
      · simp at hhanded'
    · simp at hhanded

end GatewayHandler

/-- A data channel opens at an endpoint that lists a mid which the endpoint is handed then. -/
def ServerStates.Relists (states : ServerStates) (orders : Orders)
    (transportContext : TransportContext) : Prop :=
  ∃ ids session endpoint,
    GatewayHandler.senderOf states transportContext = .ok (ids, session) ∧
      session.endpoints.get ids.2 = some endpoint ∧
      endpoint.hasTransport transportContext.fourTuple = true ∧
      ∃ handed ∈ GatewayHandler.newTransceivers orders session ids.2,
        endpoint.transceivers.containsKey handed.mid = true

instance (states : ServerStates) (orders : Orders) (transportContext : TransportContext) :
    Decidable (states.Relists orders transportContext) :=
  match hsender : GatewayHandler.senderOf states transportContext with
  | .error _ => isFalse (by rintro ⟨ids, session, -, hother, -⟩; simp [hsender] at hother)
  | .ok (ids, session) =>
      match hendpoint : session.endpoints.get ids.2 with
      | none => isFalse (by
          rintro ⟨other, held, endpoint, hother, hheld, -⟩
          obtain ⟨rfl, rfl⟩ := Prod.mk.inj (Except.ok.inj (hsender.symm.trans hother))
          simp [hendpoint] at hheld)
      | some endpoint =>
          decidable_of_iff (endpoint.hasTransport transportContext.fourTuple = true ∧
            ∃ handed ∈ GatewayHandler.newTransceivers orders session ids.2,
              endpoint.transceivers.containsKey handed.mid = true) (by
            constructor
            · exact fun hhanded => ⟨ids, session, endpoint, hsender, hendpoint, hhanded⟩
            · rintro ⟨other, held, found, hother, hheld, hhanded⟩
              obtain ⟨rfl, rfl⟩ := Prod.mk.inj (Except.ok.inj (hsender.symm.trans hother))
              obtain rfl := Option.some.inj (hendpoint.symm.trans hheld)
              exact hhanded)

end Sfu
end MediaServer
