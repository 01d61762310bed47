import MediaServer.Sfu.Listing
import MediaServer.Sfu.Sections

/-!
# Offers and answers

An answer has a section for each section of the offer that asks for one, in the order of the
offer, with the mid of the offered section and a direction that goes with the offered one
(`answers_of_createAnswer`).  An offer has the sections that the remote description asks
for, and then one for each mid that the endpoint lists besides.  So as long as nothing is
listed twice, it has exactly one section for each transceiver of the endpoint
(`offered_once`).
-/

namespace MediaServer
namespace Sfu

open Foundation Transcription

/-! ## What a remote description asks for -/

/-- The section that a section of a remote description asks for, if it asks for one. -/
def sectionFor (includeUnmatched : Bool) (media : MediaDescription) : Option MediaSection :=
  (getMidValue media).bind fun midValue =>
    if media.media = mediaSectionApplication then some (Session.plainSection midValue true)
    else if RTPCodecType.ofStr media.media = .unspecified ∨
        getPeerDirection media = .unspecified then none
    else some
      { mid := midValue
        data := false
        ridMap := getRids media
        offeredDirection := if includeUnmatched then none else some (getPeerDirection media) }

/-- What a section is asked for by. -/
theorem sectionFor_eq_some {includeUnmatched : Bool} {media : MediaDescription} {m : MediaSection}
    (hasked : sectionFor includeUnmatched media = some m) :
    getMidValue media = some m.mid ∧
      ((media.media = mediaSectionApplication ∧ m.data = true) ∨
        (media.media ≠ mediaSectionApplication ∧ m.data = false ∧
          getPeerDirection media ≠ .unspecified ∧
          m.offeredDirection = if includeUnmatched then none else some (getPeerDirection media))) := by
  obtain ⟨midValue, hmid, hsection⟩ := Option.bind_eq_some_iff.mp hasked
  split at hsection
  · rename_i happlication
    obtain rfl := Option.some.inj hsection
    exact ⟨hmid, Or.inl ⟨happlication, rfl⟩⟩
  · rename_i happlication
    split at hsection
    · contradiction
    · rename_i hspecified
      obtain rfl := Option.some.inj hsection
      exact ⟨hmid, Or.inr ⟨happlication, rfl, (not_or.mp hspecified).2, rfl⟩⟩

/-- An offer does not go by the directions of the remote description. -/
theorem offeredDirection_of_sectionFor {media : MediaDescription} {m : MediaSection}
    (hasked : sectionFor true media = some m) : m.offeredDirection = none := by
  obtain ⟨midValue, -, hsection⟩ := Option.bind_eq_some_iff.mp hasked
  split at hsection
  · obtain rfl := Option.some.inj hsection
    rfl
  · split at hsection
    · contradiction
    · obtain rfl := Option.some.inj hsection
      rfl

namespace Session

variable {transceivers : HashMap Mid RTCRtpTransceiver} {includeUnmatched : Bool}

/-- One more section. -/
def Matched.add (done : Matched) (m : MediaSection) : Matched where
  mediaSections := done.mediaSections ++ [m]
  alreadyHaveApplicationMediaSection := done.alreadyHaveApplicationMediaSection || m.data
  matched := if m.data then done.matched else insert m.mid done.matched

/-- A section that is matched is added. -/
theorem matchMedia_eq_ok {done next : Matched} {media : MediaDescription}
    (hmatch : matchMedia transceivers includeUnmatched done media = .ok next) :
    next = (sectionFor includeUnmatched media).elim done done.add := by
  unfold matchMedia at hmatch
  dsimp only at hmatch
  unfold sectionFor
  split at hmatch
  · rename_i hmid
    rw [hmid]
    exact (Except.ok.inj hmatch).symm
  · rename_i midValue hmid
    rw [hmid, Option.bind_some]
    split at hmatch
    · contradiction
    · split at hmatch
      · obtain rfl := Except.ok.inj hmatch
        rename_i happlication
        rw [if_pos happlication]
        simp [Matched.add, plainSection]
      · rename_i happlication
        rw [if_neg happlication]
        split at hmatch
        · rename_i hskipped
          rw [if_pos hskipped]
          exact (Except.ok.inj hmatch).symm
        · rename_i hskipped
          rw [if_neg hskipped]
          split at hmatch
          · obtain rfl := Except.ok.inj hmatch
            simp [Matched.add]
          · contradiction

/-- The sections that are matched are those that are asked for. -/
theorem foldlM_matchMedia_eq_ok {medias : List MediaDescription} {done final : Matched}
    (hmatch : medias.foldlM (matchMedia transceivers includeUnmatched) done = .ok final) :
    final = (medias.filterMap (sectionFor includeUnmatched)).foldl Matched.add done := by
  induction medias generalizing done with
  | nil => exact (Except.ok.inj hmatch).symm
  | cons media medias ih =>
      rw [List.foldlM_cons] at hmatch
      simp only [bind, Except.bind] at hmatch
      split at hmatch
      · contradiction
      · rename_i next hnext
        rw [ih hmatch, matchMedia_eq_ok hnext, List.filterMap_cons]
        cases sectionFor includeUnmatched media <;> rfl

theorem mediaSections_foldl_add (sections : List MediaSection) (done : Matched) :
    (sections.foldl Matched.add done).mediaSections = done.mediaSections ++ sections := by
  induction sections generalizing done with
  | nil => simp
  | cons m sections ih => simp [ih, Matched.add]

/-- The mids that are matched. -/
theorem mem_matched_foldl_add (sections : List MediaSection) (done : Matched) (mid : Mid) :
    mid ∈ (sections.foldl Matched.add done).matched ↔
      mid ∈ done.matched ∨ ∃ m ∈ sections, m.data = false ∧ m.mid = mid := by
  induction sections generalizing done with
  | nil => simp
  | cons m sections ih =>
      rw [List.foldl_cons, ih]
      cases hdata : m.data with
      | true => simp [Matched.add, hdata]
      | false =>
          simp only [Matched.add, hdata, Bool.false_eq_true, if_false, Finset.mem_insert,
            List.mem_cons, exists_eq_or_imp, true_and]
          constructor
          · rintro ((rfl | hmatched) | hlater)
            · exact Or.inr (Or.inl rfl)
            · exact Or.inl hmatched
            · exact Or.inr (Or.inr hlater)
          · rintro (hmatched | rfl | hlater)
            · exact Or.inl (Or.inr hmatched)
            · exact Or.inl (Or.inl rfl)
            · exact Or.inr hlater

/-- The sections of a remote description. -/
def remoteMedias (remoteDescription : RTCSessionDescription) : List MediaDescription :=
  match remoteDescription.parsed with
  | some parsed => parsed.mediaDescriptions
  | none => []

/-- The mids that an endpoint lists, none if it is not there. -/
def midsOf (session : Session) (endpointId : EndpointId) : List Mid :=
  match session.endpoints.get endpointId with
  | some endpoint => endpoint.mids
  | none => []

/-- The sections of a description are those asked for, and in an offer also the others. -/
theorem mediaSections_eq_ok {session : Session} {endpointId : EndpointId}
    {remoteDescription : RTCSessionDescription} {sections : List MediaSection}
    (hsections : session.mediaSections endpointId remoteDescription includeUnmatched =
      .ok sections) :
    ∃ done : Matched,
      done.mediaSections =
        (remoteMedias remoteDescription).filterMap (sectionFor includeUnmatched) ∧
      (∀ mid, mid ∈ done.matched ↔ ∃ m ∈ done.mediaSections, m.data = false ∧ m.mid = mid) ∧
      sections = if includeUnmatched then withUnmatched (session.midsOf endpointId) done
        else done.mediaSections := by
  unfold mediaSections at hsections
  simp only [bind, Except.bind] at hsections
  split at hsections
  · contradiction
  · rename_i done hdone
    have hadded := foldlM_matchMedia_eq_ok hdone
    have hmedia := mediaSections_foldl_add
      ((remoteMedias remoteDescription).filterMap (sectionFor includeUnmatched)) ⟨[], false, ∅⟩
    have hmatched := mem_matched_foldl_add
      ((remoteMedias remoteDescription).filterMap (sectionFor includeUnmatched)) ⟨[], false, ∅⟩
    change done = ((remoteMedias remoteDescription).filterMap _).foldl _ _ at hadded
    rw [← hadded] at hmedia hmatched
    refine ⟨done, by simpa using hmedia, by simpa [hmedia] using hmatched, ?_⟩
    rw [← Except.ok.inj hsections, midsOf]
    cases session.endpoints.get endpointId <;> rfl

/-- A description presents its sections. -/
theorem createDescription_eq_ok {lib : Libraries} (hdoc : lib.Documented) {orders : Orders}
    {session : Session} {endpointId : EndpointId}
    {remoteDescription description : RTCSessionDescription} {localIceParams : RTCIceParameters}
    {sdpType : RTCSdpType} {role : DTLSRole}
    (hcreated : session.createDescription lib orders endpointId remoteDescription localIceParams
      sdpType includeUnmatched role = .ok description) :
    ∃ sections built,
      session.mediaSections endpointId remoteDescription includeUnmatched = .ok sections ∧
        description.parsed = some built ∧
        List.Forall₂ (Presents (session.transceiversOf endpointId)) sections
          built.mediaDescriptions := by
  obtain ⟨built, hbuilt, hdescription⟩ := except_bind_eq_ok_iff.mp hcreated
  obtain rfl := Except.ok.inj hdescription
  obtain ⟨sections, hsections, hpopulated⟩ := except_bind_eq_ok_iff.mp hbuilt
  split at hpopulated
  · contradiction
  · obtain ⟨⟨d, bundle⟩, hd, hbuilt⟩ := except_bind_eq_ok_iff.mp hpopulated
    obtain ⟨medias, hmedias, hpresents⟩ := presents_of_populateSections hdoc hd
    refine ⟨sections, built, hsections, rfl, ?_⟩
    obtain rfl := Except.ok.inj hbuilt
    rw [hdoc.sessionValueAttribute, hdoc.sessionPropertyAttribute, hmedias,
      hdoc.newJsepSessionDescription]
    exact hpresents

end Session

/-! ## Answers -/

/-- Turned around and met by the other side, a direction goes with the one it answers. -/
theorem hasSend_sectionDirection {offered direction : RTCRtpTransceiverDirection}
    (hoffered : offered ≠ .unspecified)
    (hsend : (sectionDirection (some offered) direction).hasSend = true) :
    offered.hasRecv = true := by
  revert hoffered hsend
  cases offered <;> cases direction <;> decide

theorem hasRecv_sectionDirection {offered direction : RTCRtpTransceiverDirection}
    (hoffered : offered ≠ .unspecified)
    (hrecv : (sectionDirection (some offered) direction).hasRecv = true) :
    offered.hasSend = true := by
  revert hoffered hrecv
  cases offered <;> cases direction <;> decide

/-- A section that answers another: it has its mid, it is for data if the other is, and
otherwise it sends only where the other receives, and receives only where the other sends. -/
structure Answers (offered answered : MediaDescription) : Prop where
  mid : getMidValue answered = getMidValue offered
  data : offered.media = mediaSectionApplication → answered.media = mediaSectionApplication
  sends : offered.media ≠ mediaSectionApplication →
    (getPeerDirection answered).hasSend = true → (getPeerDirection offered).hasRecv = true
  receives : offered.media ≠ mediaSectionApplication →
    (getPeerDirection answered).hasRecv = true → (getPeerDirection offered).hasSend = true

/-- Whether a section of an offer is answered: it has a mid, and is for data or has a known
kind and a direction. -/
def isAnswered (media : MediaDescription) : Bool := (sectionFor false media).isSome

/-- A section that presents what an offered section asks for answers it. -/
theorem answers_of_presents {transceivers : HashMap Mid RTCRtpTransceiver}
    {offered answered : MediaDescription} {m : MediaSection}
    (hasked : sectionFor false offered = some m) (hpresents : Presents transceivers m answered) :
    Answers offered answered := by
  obtain ⟨hmid, hcases⟩ := sectionFor_eq_some hasked
  have hanswered : getMidValue answered = getMidValue offered := hpresents.mid.trans hmid.symm
  cases hpresents with
  | data hdata hfree hmedia _ hdirection =>
      have happlication : offered.media = mediaSectionApplication := by
        rcases hcases with ⟨happlication, -⟩ | ⟨-, hnot, -⟩
        · exact happlication
        · rw [hnot] at hdata
          contradiction
      exact ⟨hanswered, fun _ => hmedia, fun hnot => absurd happlication hnot,
        fun hnot => absurd happlication hnot⟩
  | media hdata transceiver htransceiver hmedia _ hdirection hsender =>
      rcases hcases with ⟨-, hnot⟩ | ⟨happlication, -, hspecified, hoffered⟩
      · rw [hnot] at hdata
        contradiction
      · rw [hoffered, if_neg Bool.false_ne_true] at hdirection
        exact ⟨hanswered, fun hdata => absurd hdata happlication,
          fun _ hsend => hasSend_sectionDirection hspecified (hdirection ▸ hsend),
          fun _ hrecv => hasRecv_sectionDirection hspecified (hdirection ▸ hrecv)⟩

/-- What stands beside what a list was cut down to stands beside what was kept. -/
theorem forall₂_filter_of_filterMap {α β γ : Type} {f : α → Option β} {R : β → γ → Prop}
    {S : α → γ → Prop} (hS : ∀ item made other, f item = some made → R made other →
      S item other) {items : List α} {others : List γ}
    (hall : List.Forall₂ R (items.filterMap f) others) :
    List.Forall₂ S (items.filter fun item => (f item).isSome) others := by
  induction items generalizing others with
  | nil =>
      obtain rfl := List.forall₂_nil_left_iff.mp hall
      exact .nil
  | cons item items ih =>
      cases hmade : f item with
      | none =>
          rw [List.filterMap_cons_none hmade] at hall
          rw [List.filter_cons_of_neg (by simp [hmade])]
          exact ih hall
      | some made =>
          rw [List.filterMap_cons_some hmade] at hall
          rw [List.filter_cons_of_pos (by simp [hmade])]
          obtain ⟨other, rest, hfirst, hrest, rfl⟩ := List.forall₂_cons_left_iff.mp hall
          exact .cons (hS item made other hmade hfirst) (ih hrest)

/-- An answer answers the sections of the offer, one by one. -/
theorem answers_of_createAnswer {lib : Libraries} (hdoc : lib.Documented) {orders : Orders}
    {session : Session} {endpointId : EndpointId} {offer answer : RTCSessionDescription}
    {localIceParams : RTCIceParameters}
    (hanswer : session.createAnswer lib orders endpointId offer localIceParams = .ok answer) :
    ∃ answered, answer.parsed = some answered ∧
      List.Forall₂ Answers ((Session.remoteMedias offer).filter isAnswered)
        answered.mediaDescriptions := by
  obtain ⟨sections, answered, hsections, hparsed, hpresents⟩ :=
    Session.createDescription_eq_ok hdoc hanswer
  obtain ⟨done, hasked, -, rfl⟩ := Session.mediaSections_eq_ok hsections
  rw [if_neg Bool.false_ne_true, hasked] at hpresents
  refine ⟨answered, hparsed, forall₂_filter_of_filterMap ?_ hpresents⟩
  intro offered m media hasked hpresented
  exact answers_of_presents hasked hpresented

theorem returns_answerOn {lib : Libraries} {orders : Orders} {ids : SessionId × EndpointId}
    (offer : RTCSessionDescription) (localConnCred : ConnectionCredentials) :
    Fallible.Returns (fun answer => ∃ session : Session,
      session.createAnswer lib orders ids.2 offer localConnCred.iceParams = .ok answer)
        (ServerStates.answerOn lib orders ids offer localConnCred) := by
  apply Fallible.Returns.bind
  intro states
  apply Fallible.Returns.bind
  intro session
  exact Fallible.Returns.ofExcept fun answer hanswer => ⟨session, hanswer⟩

/-- Whoever offers, to the signaling service or on a data channel, gets an answer to the
sections of the offer, one by one. -/
theorem answers_of_acceptOffer {lib : Libraries} (hdoc : lib.Documented) {orders : Orders}
    {clock : Instant} {fresh : RTCIceParameters} {ids : SessionId × EndpointId}
    {fourTuple : Option FourTuple} {offer answer : RTCSessionDescription}
    {states : ServerStates}
    (haccepted : (ServerStates.acceptOffer lib orders clock fresh ids fourTuple offer).result
      states = .ok answer) :
    ∃ offered answered, lib.unmarshal offer.sdp = .ok offered ∧ answer.parsed = some answered ∧
      List.Forall₂ Answers (offered.mediaDescriptions.filter isAnswered)
        answered.mediaDescriptions := by
  have hreturns : Fallible.Returns (fun answer => ∃ offered answered,
      lib.unmarshal offer.sdp = .ok offered ∧ answer.parsed = some answered ∧
        List.Forall₂ Answers (offered.mediaDescriptions.filter isAnswered)
          answered.mediaDescriptions)
      (ServerStates.acceptOffer lib orders clock fresh ids fourTuple offer) := by
    refine Fallible.Returns.bind_of (Fallible.Returns.ofExcept fun parsed hparsed => hparsed) ?_
    intro parsed hparsed
    have hread : lib.unmarshal offer.sdp = .ok parsed := by
      cases hunmarshal : lib.unmarshal offer.sdp with
      | error text => simp [hunmarshal, Except.mapError] at hparsed
      | ok read => simpa [hunmarshal, Except.mapError] using hparsed
    -- both branches answer the offer that was read
    have hanswer : ∀ session answer localIceParams, Session.createAnswer lib orders session ids.2
        { offer with parsed := some parsed } localIceParams = .ok answer →
        ∃ offered answered, lib.unmarshal offer.sdp = .ok offered ∧
          answer.parsed = some answered ∧
          List.Forall₂ Answers (offered.mediaDescriptions.filter isAnswered)
            answered.mediaDescriptions := by
      intro session answer localIceParams hcreated
      obtain ⟨answered, hanswered, hall⟩ := answers_of_createAnswer hdoc hcreated
      exact ⟨parsed, answered, hread, hanswered, hall⟩
    apply Fallible.Returns.bind
    intro remoteConnCred
    apply Fallible.Returns.bind
    intro _
    apply Fallible.Returns.bind
    intro states
    apply Fallible.Returns.ite
    · apply Fallible.Returns.bind
      intro localConnCred
      refine Fallible.Returns.bind_of (returns_answerOn _ _) ?_
      rintro answer ⟨session, hcreated⟩
      apply Fallible.Returns.bind
      intro _
      exact Fallible.Returns.pure (hanswer session answer _ hcreated)
    · refine Fallible.Returns.bind_of (returns_answerOn _ _) ?_
      rintro answer ⟨session, hcreated⟩
      apply Fallible.Returns.bind
      intro _
      exact Fallible.Returns.pure (hanswer session answer _ hcreated)
  exact hreturns states answer haccepted

/-- A peer that is connected offers to send audio and video, and gets its answer. -/
theorem answers_of_acceptOffer_mediaOffer :
    ∃ answer offered answered, (ServerStates.acceptOffer plainLibraries (momentWith 3 "").orders 3
        ⟨"a", "p"⟩ (1, 10) (some (contextAt 5001).fourTuple) ⟨.offer, mediaOffer, none⟩).result
          (sfuAfter plainLibraries plainGateway arrival).serverStates = .ok answer ∧
      plainLibraries.unmarshal mediaOffer = .ok offered ∧ answer.parsed = some answered ∧
      (offered.mediaDescriptions.filter isAnswered).map MediaDescription.media =
        ["application", "audio", "video"] ∧
      List.Forall₂ Answers (offered.mediaDescriptions.filter isAnswered)
        answered.mediaDescriptions := by
  have hsome : ((ServerStates.acceptOffer plainLibraries (momentWith 3 "").orders 3 ⟨"a", "p"⟩
      (1, 10) (some (contextAt 5001).fourTuple) ⟨.offer, mediaOffer, none⟩).result
        (sfuAfter plainLibraries plainGateway arrival).serverStates).toOption.isSome := by
    decide +kernel
  have hmedia : (plainLibraries.unmarshal mediaOffer).toOption.map (fun offered =>
      (offered.mediaDescriptions.filter isAnswered).map MediaDescription.media) =
        some ["application", "audio", "video"] := by
    decide +kernel
  cases hresult : (ServerStates.acceptOffer plainLibraries (momentWith 3 "").orders 3 ⟨"a", "p"⟩
      (1, 10) (some (contextAt 5001).fourTuple) ⟨.offer, mediaOffer, none⟩).result
        (sfuAfter plainLibraries plainGateway arrival).serverStates with
  | error error => simp [hresult, Except.toOption] at hsome
  | ok answer =>
      obtain ⟨offered, answered, hoffered, hparsed, hanswers⟩ :=
        answers_of_acceptOffer documented_plain hresult
      rw [hoffered] at hmedia
      exact ⟨answer, offered, answered, rfl, hoffered, hparsed, Option.some.inj hmedia, hanswers⟩

/-! ## Offers -/

/-- In a list without repeated keys, one entry has the key of an entry. -/
theorem filter_key_eq_singleton {α κ : Type} [DecidableEq κ] {key : α → κ} {items : List α}
    (hnodup : (items.map key).Nodup) {item : α} (hmem : item ∈ items) :
    items.filter (fun other => key other = key item) = [item] := by
  induction items with
  | nil => simp at hmem
  | cons first rest ih =>
      obtain ⟨hfirst, hrest⟩ := List.nodup_cons.mp hnodup
      rcases List.mem_cons.mp hmem with rfl | hlater
      · have hnone : rest.filter (fun other => key other = key item) = [] := by
          rw [List.filter_eq_nil_iff]
          intro other hother heq
          exact hfirst (List.mem_map.mpr ⟨other, hother, of_decide_eq_true heq⟩)
        rw [List.filter_cons_of_pos (by simp), hnone]
      · have hne : key first ≠ key item := fun heq =>
          hfirst (List.mem_map.mpr ⟨item, hlater, heq.symm⟩)
        rw [List.filter_cons_of_neg (by simpa using hne)]
        exact ih hrest hlater

namespace Session

/-- The sections asked for have the mids of the sections that ask. -/
theorem map_mid_sublist (includeUnmatched : Bool) (medias : List MediaDescription) :
    ((medias.filterMap (sectionFor includeUnmatched)).map MediaSection.mid).Sublist
      (medias.filterMap getMidValue) := by
  induction medias with
  | nil => exact .slnil
  | cons media medias ih =>
      cases hasked : sectionFor includeUnmatched media with
      | none =>
          rw [List.filterMap_cons_none hasked]
          cases hmid : getMidValue media with
          | none => rwa [List.filterMap_cons_none hmid]
          | some mid =>
              rw [List.filterMap_cons_some hmid]
              exact ih.cons mid
      | some m =>
          have hmid := (sectionFor_eq_some hasked).1
          rw [List.filterMap_cons_some hasked, List.map_cons, List.filterMap_cons_some hmid]
          exact ih.cons_cons m.mid

/-- A mid that is listed once has one section, if it has none for data: the one that was asked
for, or the one that was added. -/
theorem filter_withUnmatched {mids : List Mid} {done : Matched} {mid : Mid}
    (hasked : (done.mediaSections.map MediaSection.mid).Nodup)
    (hmatched : ∀ mid, mid ∈ done.matched ↔
      ∃ m ∈ done.mediaSections, m.data = false ∧ m.mid = mid)
    (hmids : mids.Nodup) (hmem : mid ∈ mids)
    (hmedia : ∀ m ∈ withUnmatched mids done, m.mid = mid → m.data = false) :
    ∃ m, (withUnmatched mids done).filter (fun m => m.mid = mid) = [m] ∧
      (m ∈ done.mediaSections ∨ m = plainSection mid false) := by
  have hsplit : ∃ rest, withUnmatched mids done = (done.mediaSections ++
      (mids.filter fun mid => mid ∉ done.matched).map (plainSection · false)) ++ rest ∧
        ∀ m ∈ rest, m.data = true := by
    unfold withUnmatched
    dsimp only
    split
    · exact ⟨[], by simp, by simp⟩
    · exact ⟨[_], rfl, by simp [plainSection]⟩
  obtain ⟨rest, hsections, hdata⟩ := hsplit
  have hrest : rest.filter (fun m => m.mid = mid) = [] := by
    rw [List.filter_eq_nil_iff]
    intro m hm hmid
    have hnot := hmedia m (by rw [hsections]; exact List.mem_append_right _ hm)
      (of_decide_eq_true hmid)
    rw [hdata m hm] at hnot
    contradiction
  rw [hsections, List.filter_append, List.filter_append, hrest, List.append_nil]
  by_cases hmatch : mid ∈ done.matched
  · obtain ⟨m, hm, -, rfl⟩ := (hmatched mid).mp hmatch
    have hnone : ((mids.filter fun mid => mid ∉ done.matched).map (plainSection · false)).filter
        (fun other => other.mid = m.mid) = [] := by
      rw [List.filter_eq_nil_iff]
      intro other hother heq
      obtain ⟨unmatched, hunmatched, rfl⟩ := List.mem_map.mp hother
      have hne := of_decide_eq_true (List.mem_filter.mp hunmatched).2
      have heq : unmatched = m.mid := of_decide_eq_true heq
      exact hne (heq ▸ hmatch)
    rw [hnone, List.append_nil, filter_key_eq_singleton hasked hm]
    exact ⟨m, rfl, Or.inl hm⟩
  · have hnone : done.mediaSections.filter (fun m => m.mid = mid) = [] := by
      rw [List.filter_eq_nil_iff]
      intro m hm hmid
      have hmid := of_decide_eq_true hmid
      have hnot := hmedia m (by
        rw [hsections]
        exact List.mem_append_left _ (List.mem_append_left _ hm)) hmid
      exact hmatch ((hmatched mid).mpr ⟨m, hm, hnot, hmid⟩)
    have hunmatched : mid ∈ mids.filter fun mid => mid ∉ done.matched :=
      List.mem_filter.mpr ⟨hmem, decide_eq_true hmatch⟩
    have hkeys : (((mids.filter fun mid => mid ∉ done.matched).map
        (plainSection · false)).map MediaSection.mid).Nodup := by
      rw [List.map_map]
      exact (hmids.filter _).map fun _ _ heq => heq
    have honce := filter_key_eq_singleton hkeys (List.mem_map.mpr ⟨mid, hunmatched, rfl⟩)
    rw [hnone, List.nil_append]
    exact ⟨_, honce, Or.inr rfl⟩

end Session

section Runs

variable {lib : Libraries} {start gateway : GatewayHandler} {moves : List SfuMove}

/-- As long as nothing was relisted, an offer has exactly one section for each transceiver of
its endpoint, of its kind and with its direction; a send-only one describes the stream and the
sources of its sender. -/
theorem offered_once (hdoc : lib.Documented) (hfresh : start.Fresh)
    (hrun : (sfu lib).Run start moves gateway) (hnever : ∀ move ∈ moves, ¬Relists move)
    {ids : SessionId × EndpointId} {session : Session} {endpoint : Endpoint}
    (hsession : gateway.serverStates.sessions.get ids.1 = some session)
    (hendpoint : session.endpoints.get ids.2 = some endpoint) {orders : Orders}
    {remoteDescription offer : RTCSessionDescription} {localIceParams : RTCIceParameters}
    (hremote : ((Session.remoteMedias remoteDescription).filterMap getMidValue).Nodup)
    (hoffer : session.createOffer lib orders ids.2 remoteDescription localIceParams = .ok offer) :
    ∃ offered, offer.parsed = some offered ∧
      ∀ mid transceiver, endpoint.transceivers.get mid = some transceiver →
        ∃ media, offered.mediaDescriptions.filter (fun media => getMidValue media = some mid) =
            [media] ∧
          media.media = transceiver.kind.toStr ∧ getPeerDirection media = transceiver.direction ∧
          (transceiver.direction = .sendonly → ∃ sender,
            transceiver.sender = some sender ∧ senderAttributes sender ⊆ media.attributes) := by
  obtain ⟨sections, offered, hsections, hparsed, hpresents⟩ :=
    Session.createDescription_eq_ok hdoc hoffer
  obtain ⟨done, hasked, hmatched, rfl⟩ := Session.mediaSections_eq_ok hsections
  rw [if_pos rfl] at hpresents
  have hat : gateway.serverStates.endpointAt ids = some endpoint := by
    simp [ServerStates.endpointAt, hsession, hendpoint]
  obtain ⟨hlisted, hnodup⟩ := listedOnce_of_run hfresh hrun hnever ids endpoint hat
  have hmids : session.midsOf ids.2 = endpoint.mids := by simp [Session.midsOf, hendpoint]
  have htransceivers : session.transceiversOf ids.2 = endpoint.transceivers := by
    simp [Session.transceiversOf, hendpoint]
  rw [htransceivers, hmids] at hpresents
  refine ⟨offered, hparsed, ?_⟩
  intro mid transceiver htransceiver
  have hmem : mid ∈ endpoint.mids := by
    rw [hlisted.mids, HashMap.containsKey, htransceiver]
    rfl
  have hdata : ∀ m media, Presents endpoint.transceivers m media → m.mid = mid →
      m.data = false := by
    rintro m media hpresented rfl
    cases hpresented with
    | data hdata hfree => simp [hfree] at htransceiver
    | media hdata => exact hdata
  have hmedia := ((List.forall₂_and_left _ _).mp (hpresents.imp fun m media hpresented =>
    And.intro (hdata m media hpresented) hpresented)).1
  have hasks : (done.mediaSections.map MediaSection.mid).Nodup := by
    rw [hasked]
    exact hremote.sublist (Session.map_mid_sublist _ _)
  obtain ⟨m, honce, hfrom⟩ := Session.filter_withUnmatched hasks hmatched hnodup hmem hmedia
  have hoffered : m.offeredDirection = none := by
    rcases hfrom with hm | rfl
    · rw [hasked] at hm
      obtain ⟨media, -, hfor⟩ := List.mem_filterMap.mp hm
      exact offeredDirection_of_sectionFor hfor
    · rfl
  have hfilter : List.Forall₂ (Presents endpoint.transceivers) [m]
      (offered.mediaDescriptions.filter fun media => getMidValue media = some mid) := by
    rw [← honce]
    refine List.rel_filter ?_ hpresents
    intro m media hpresented
    simp [hpresented.mid]
  obtain ⟨media, rest, hpresented, hrest, heq⟩ := List.forall₂_cons_left_iff.mp hfilter
  obtain rfl := List.forall₂_nil_left_iff.mp hrest
  refine ⟨media, heq, ?_⟩
  have hmid : m.mid = mid := by
    have hm : m ∈ [m] := List.mem_singleton_self m
    rw [← honce] at hm
    exact of_decide_eq_true (List.mem_filter.mp hm).2
  cases hpresented with
  | data hdata hfree =>
      rw [hmid, htransceiver] at hfree
      contradiction
  | media hdata held hheld hmedia _ hdirection hsender =>
      rw [hmid, htransceiver] at hheld
      obtain rfl := Option.some.inj hheld
      have hsame : getPeerDirection media = transceiver.direction := by
        rw [hdirection, hoffered]
        rfl
      exact ⟨hmedia, hsame, fun hsendonly => hsender (hsame.trans hsendonly)⟩

/-- The peer that joins is offered the audio and the video of the one that was there. -/
theorem offered_once_joining :
    ∃ session endpoint offer offered,
      (sfuAfter plainLibraries plainGateway joining).serverStates.sessions.get 1 = some session ∧
        session.endpoints.get 20 = some endpoint ∧
        RTCSessionDescription.parsed offer = some offered ∧
        (∃ transceiver, endpoint.transceivers.get "10-1" = some transceiver ∧
          transceiver.direction = .sendonly) ∧
        ∀ mid transceiver, endpoint.transceivers.get mid = some transceiver →
          ∃ media, offered.mediaDescriptions.filter
              (fun media => getMidValue media = some mid) = [media] ∧
            media.media = transceiver.kind.toStr ∧
            getPeerDirection media = transceiver.direction ∧
            (transceiver.direction = .sendonly → ∃ sender,
              transceiver.sender = some sender ∧ senderAttributes sender ⊆ media.attributes) := by
  let remote : RTCSessionDescription :=
    ⟨.offer, dataOffer, (plainLibraries.unmarshal dataOffer).toOption⟩
  have hsome : (((sfuAfter plainLibraries plainGateway joining).serverStates.sessions.get 1).bind
      fun session => (session.endpoints.get 20).bind fun endpoint =>
        ((endpoint.transceivers.get "10-1").filter (·.direction = .sendonly)).bind fun _ =>
          (session.createOffer plainLibraries (momentWith 3 "").orders 20 remote
            ⟨"b", "p"⟩).toOption).isSome := by decide +kernel
  obtain ⟨offer, hfound⟩ := Option.isSome_iff_exists.mp hsome
  obtain ⟨session, hsession, hrest⟩ := Option.bind_eq_some_iff.mp hfound
  obtain ⟨endpoint, hendpoint, hrest⟩ := Option.bind_eq_some_iff.mp hrest
  obtain ⟨transceiver, hheld, hoffer⟩ := Option.bind_eq_some_iff.mp hrest
  obtain ⟨htransceiver, hdirection⟩ := Option.filter_eq_some_iff.mp hheld
  have hoffered : session.createOffer plainLibraries (momentWith 3 "").orders 20 remote
      ⟨"b", "p"⟩ = .ok offer := by
    cases hmade : session.createOffer plainLibraries (momentWith 3 "").orders 20 remote
        ⟨"b", "p"⟩ with
    | error error => simp [hmade, Except.toOption] at hoffer
    | ok made => simpa [hmade, Except.toOption] using hoffer
  have hnever : ∀ move ∈ sfuMoves plainLibraries plainGateway joining, ¬Relists move := by
    decide +kernel
  have hremote : ((Session.remoteMedias remote).filterMap getMidValue).Nodup := by decide +kernel
  have hrun := run_sfuMoves plainLibraries plainGateway joining
  have hat : (sfuAfter plainLibraries plainGateway joining).serverStates.sessions.get
      ((1, 20) : SessionId × EndpointId).1 = some session := hsession
  obtain ⟨offered, hparsed, hsections⟩ := offered_once documented_plain fresh_plain hrun hnever
    hat hendpoint hremote hoffered
  exact ⟨session, endpoint, offer, offered, hsession, hendpoint, hparsed,
    ⟨transceiver, htransceiver, of_decide_eq_true hdirection⟩, hsections⟩

end Runs

end Sfu
end MediaServer
