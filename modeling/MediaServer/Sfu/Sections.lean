import MediaServer.Sfu.Session

/-!
# What is in a description

The server reads two things of a media section, its mid and its direction, and puts both
in every section it writes.  `MediaDescription.face` is the part of a section they are read
from.  Most steps that build a section do not show in its face, so the sections of a
description present what they were built from (`presents_of_populateSections`): a section
for data, or the transceiver of its mid.
-/

namespace MediaServer
namespace Sfu

open Foundation

namespace MediaDescription

/-- The attributes that mids and directions are read from. -/
def readAttributes (m : MediaDescription) : List Attribute :=
  m.attributes.filter fun attr => isReadKey attr.key

/-- The part of a section that the server reads. -/
def face (m : MediaDescription) : String × List Attribute := (m.media, m.readAttributes)

end MediaDescription

/-- What only the attributes that are read can have is found among them. -/
theorem find?_readAttributes {wanted : Attribute → Bool}
    (hwanted : ∀ attr, wanted attr = true → isReadKey attr.key = true) (m : MediaDescription) :
    m.readAttributes.find? wanted = m.attributes.find? wanted := by
  rw [MediaDescription.readAttributes, List.find?_filter]
  congr 1
  funext attr
  by_cases hattr : wanted attr = true
  · simp [hattr, hwanted attr hattr]
  · simp [hattr]

theorem getMidValue_eq (m : MediaDescription) :
    getMidValue m = (m.readAttributes.find? fun attr => attr.key = "mid").bind Attribute.value := by
  rw [find?_readAttributes (by simp +contextual [isReadKey]), getMidValue]
  cases m.attributes.find? fun attr => decide (attr.key = "mid") <;> rfl

theorem getPeerDirection_eq (m : MediaDescription) :
    getPeerDirection m = ((m.readAttributes.find? fun attr =>
      RTCRtpTransceiverDirection.ofStr attr.key ≠ .unspecified).map fun attr =>
        RTCRtpTransceiverDirection.ofStr attr.key).getD .unspecified := by
  rw [find?_readAttributes (by simp +contextual [isReadKey]), getPeerDirection]
  cases m.attributes.find? fun attr =>
    decide (RTCRtpTransceiverDirection.ofStr attr.key ≠ .unspecified) <;> rfl

theorem Extends.face {before after : MediaDescription} {added : List Attribute}
    (hextends : Extends before after added) :
    after.face = (before.media, before.readAttributes ++
      added.filter fun attr => isReadKey attr.key) := by
  simp [MediaDescription.face, MediaDescription.readAttributes, hextends.media,
    hextends.attributes]

/-- Attributes that nobody reads do not show. -/
theorem Extends.face_of_unread {before after : MediaDescription} {added : List Attribute}
    (hextends : Extends before after added) (hunread : Unread added) :
    after.face = before.face := by
  have hnone : added.filter (fun attr => isReadKey attr.key) = [] := by
    rw [List.filter_eq_nil_iff]
    intro attr hmem
    simp [hunread attr hmem]
  rw [hextends.face, hnone, List.append_nil]
  rfl

/-- Steps that do not show, one after another. -/
theorem face_foldl {α : Type} {step : MediaDescription → α → MediaDescription}
    (hstep : ∀ m item, (step m item).face = m.face) (items : List α) (m : MediaDescription) :
    (items.foldl step m).face = m.face := by
  induction items generalizing m with
  | nil => rfl
  | cons item items ih => rw [List.foldl_cons, ih, hstep]

/-- A key with a colon in it is not read. -/
theorem isReadKey_of_colon {key : String} (hcolon : ':' ∈ key.toList) :
    isReadKey key = false := by
  have hne : ∀ other : String, ':' ∉ other.toList → key ≠ other := by
    rintro other hother rfl
    exact hother hcolon
  simp [isReadKey, RTCRtpTransceiverDirection.ofStr, hne "mid" (by decide),
    hne "sendrecv" (by decide), hne "sendonly" (by decide), hne "recvonly" (by decide),
    hne "inactive" (by decide)]

/-! ## What is said of a sender -/

/-- What was there stays, and what is added is there. -/
theorem Extends.subset {before after : MediaDescription} {added wanted : List Attribute}
    (hextends : Extends before after added) (hwanted : wanted ⊆ added) :
    before.attributes ⊆ after.attributes ∧ wanted ⊆ after.attributes := by
  rw [hextends.attributes]
  exact ⟨List.subset_append_left _ _, List.Subset.trans hwanted (List.subset_append_right _ _)⟩

/-- What every step adds is there after all of them. -/
theorem subset_attributes_foldl {α : Type} {step : MediaDescription → α → MediaDescription}
    {added : α → List Attribute}
    (hstep : ∀ m item, m.attributes ⊆ (step m item).attributes ∧
      added item ⊆ (step m item).attributes) (items : List α) (m : MediaDescription) :
    m.attributes ⊆ (items.foldl step m).attributes ∧
      items.flatMap added ⊆ (items.foldl step m).attributes := by
  induction items generalizing m with
  | nil => simp
  | cons item items ih =>
      obtain ⟨hkept, hadded⟩ := hstep m item
      obtain ⟨hlater, hrest⟩ := ih (step m item)
      rw [List.foldl_cons, List.flatMap_cons]
      exact ⟨List.Subset.trans hkept hlater,
        List.append_subset.mpr ⟨List.Subset.trans hadded hlater, hrest⟩⟩

/-- The attribute of a stream. -/
def msidAttribute (msid : MediaStreamId) : Attribute :=
  ⟨"msid:" ++ msid.streamId ++ " " ++ msid.trackId, none⟩

/-- The attribute of a group of sources. -/
def groupAttribute (group : SsrcGroup) : Attribute :=
  ⟨"ssrc-group:" ++ group.name ++ " " ++ " ".intercalate (group.ssrcs.map toString), none⟩

/-- The attributes that describe a sender: its stream, its groups, and its sources. -/
def senderAttributes (sender : RTCRtpSender) : List Attribute :=
  [msidAttribute sender.msid] ++ (sender.ssrcGroups.flatMap fun group => [groupAttribute group]) ++
    sender.ssrcs.flatMap fun ssrc =>
      sourceAttributes ssrc sender.cname sender.msid.streamId sender.msid.trackId

/-! ## The steps that build a section -/

/-- The attributes of a direction; what is not specified is not read. -/
def directionAttributes (direction : RTCRtpTransceiverDirection) : List Attribute :=
  [⟨direction.toStr, none⟩].filter fun attr => isReadKey attr.key

section Steps

variable {lib : Libraries} (hdoc : lib.Documented)
include hdoc

theorem face_withValueAttribute {key : String} (hkey : isReadKey key = false)
    (m : MediaDescription) (value : String) :
    (lib.withValueAttribute m key value).face = m.face := by
  apply (hdoc.withValueAttribute m key value).face_of_unread
  intro attr hmem
  rw [List.mem_singleton.mp hmem]
  exact hkey

theorem face_withPropertyAttribute {key : String} (hkey : isReadKey key = false)
    (m : MediaDescription) : (lib.withPropertyAttribute m key).face = m.face := by
  apply (hdoc.withPropertyAttribute m key).face_of_unread
  intro attr hmem
  rw [List.mem_singleton.mp hmem]
  exact hkey

/-- The mid of a section shows. -/
theorem face_withMid (m : MediaDescription) (mid : Mid) :
    (lib.withValueAttribute m "mid" mid).face =
      (m.face.1, m.face.2 ++ [⟨"mid", some mid⟩]) :=
  (hdoc.withValueAttribute m "mid" mid).face

/-- So does its direction. -/
theorem face_withDirection (m : MediaDescription) (direction : RTCRtpTransceiverDirection) :
    (lib.withPropertyAttribute m direction.toStr).face =
      (m.face.1, m.face.2 ++ directionAttributes direction) :=
  (hdoc.withPropertyAttribute m direction.toStr).face

theorem face_newJsepMediaDescription (media : String) :
    (lib.newJsepMediaDescription media).face = (media, []) := by
  obtain ⟨hmedia, hattributes⟩ := hdoc.newJsepMediaDescription media
  simp [MediaDescription.face, MediaDescription.readAttributes, hmedia, hattributes]

theorem face_withIceCredentials (m : MediaDescription) (username password : String) :
    (lib.withIceCredentials m username password).face = m.face := by
  obtain ⟨added, hextends, hunread⟩ := hdoc.withIceCredentials m username password
  exact hextends.face_of_unread hunread

theorem face_withFingerprints (fingerprints : List RTCDtlsFingerprint) (m : MediaDescription) :
    (fingerprints.foldl (fun media f => lib.withFingerprint media f.algorithm f.value.toUpper)
      m).face = m.face := by
  apply face_foldl
  intro m f
  obtain ⟨added, hextends, hunread⟩ := hdoc.withFingerprint m f.algorithm f.value.toUpper
  exact hextends.face_of_unread hunread

theorem face_withCandidates (shouldAddCandidates : Bool) (candidate : Transcription.SocketAddr)
    (m : MediaDescription) :
    (if shouldAddCandidates then addCandidateToMediaDescriptions lib candidate m else m).face =
      m.face := by
  have happended : (appendCandidateIfNew lib candidate 1 m).face = m.face := by
    unfold appendCandidateIfNew
    dsimp only
    split
    · rfl
    · exact face_withValueAttribute hdoc rfl _ _
  split
  · unfold addCandidateToMediaDescriptions
    dsimp only
    split
    · exact happended
    · rw [face_withPropertyAttribute hdoc rfl, happended]
  · rfl

theorem face_addCodecs (codecs : List RTCRtpCodecParameters) (m : MediaDescription) :
    (addCodecs lib codecs m).face = m.face := by
  apply face_foldl
  intro m codec
  rw [face_foldl]
  · obtain ⟨added, hextends, hunread⟩ := hdoc.withCodec m codec.payloadType
      (codecName codec.mimeType) codec.clockRate codec.channels codec.sdpFmtpLine
    exact hextends.face_of_unread hunread
  · intro m feedback
    exact face_withValueAttribute hdoc rfl _ _

theorem face_addHeaderExtensions (extensions : List RTCRtpHeaderExtensionParameters)
    {m built : MediaDescription} (hbuilt : addHeaderExtensions lib extensions m = .ok built) :
    built.face = m.face := by
  unfold addHeaderExtensions at hbuilt
  induction extensions generalizing m with
  | nil =>
      obtain rfl := Except.ok.inj hbuilt
      rfl
  | cons extension extensions ih =>
      rw [List.foldlM_cons] at hbuilt
      simp only [bind, Except.bind] at hbuilt
      split at hbuilt
      · contradiction
      · rename_i next hnext
        split at hnext
        · rename_i url hurl
          obtain rfl := Except.ok.inj hnext
          obtain ⟨added, hextends, hunread⟩ := hdoc.withExtmap m extension.id url
          rw [ih hbuilt, hextends.face_of_unread hunread]
        · contradiction

theorem face_addRids (names : Enumeration String) (ridMap : HashMap String String)
    (m : MediaDescription) : (addRids lib names ridMap m).face = m.face := by
  unfold addRids
  split
  · rfl
  · dsimp only
    rw [face_withValueAttribute hdoc rfl, face_foldl]
    intro m rid
    exact face_withValueAttribute hdoc rfl _ _

theorem face_addSender (sender : RTCRtpSender) (m : MediaDescription) :
    (addSender lib sender m).face = m.face := by
  unfold addSender
  dsimp only
  rw [face_foldl, face_foldl, face_withPropertyAttribute hdoc]
  · exact isReadKey_of_colon (by simp)
  · intro m group
    exact face_withPropertyAttribute hdoc (isReadKey_of_colon (by simp)) _
  · intro m ssrc
    obtain ⟨added, hextends, hunread, -⟩ := hdoc.withMediaSource m ssrc sender.cname
      sender.msid.streamId sender.msid.trackId
    exact hextends.face_of_unread hunread

/-- The stream of a sender, the groups of its sources and the sources are described. -/
theorem subset_attributes_addSender (sender : RTCRtpSender) (m : MediaDescription) :
    senderAttributes sender ⊆ (addSender lib sender m).attributes := by
  have hproperty : ∀ m key, m.attributes ⊆ (lib.withPropertyAttribute m key).attributes ∧
      [⟨key, none⟩] ⊆ (lib.withPropertyAttribute m key).attributes := fun m key =>
    (hdoc.withPropertyAttribute m key).subset (List.Subset.refl _)
  have hsource : ∀ m ssrc, m.attributes ⊆ (lib.withMediaSource m ssrc sender.cname
        sender.msid.streamId sender.msid.trackId).attributes ∧
      sourceAttributes ssrc sender.cname sender.msid.streamId sender.msid.trackId ⊆
        (lib.withMediaSource m ssrc sender.cname sender.msid.streamId
          sender.msid.trackId).attributes := by
    intro m ssrc
    obtain ⟨added, hextends, -, hadded⟩ := hdoc.withMediaSource m ssrc sender.cname
      sender.msid.streamId sender.msid.trackId
    exact hextends.subset hadded
  -- the stream is written first, then the groups, then the sources, and nothing is taken away
  obtain ⟨-, hmsid⟩ := hproperty m (msidAttribute sender.msid).key
  obtain ⟨hkept, hgroups⟩ := subset_attributes_foldl
    (fun m group => hproperty m (groupAttribute group).key) sender.ssrcGroups
    (lib.withPropertyAttribute m (msidAttribute sender.msid).key)
  obtain ⟨hlater, hsources⟩ := subset_attributes_foldl hsource sender.ssrcs
    (sender.ssrcGroups.foldl
      (fun m group => lib.withPropertyAttribute m (groupAttribute group).key)
      (lib.withPropertyAttribute m (msidAttribute sender.msid).key))
  have hstream := List.Subset.trans hmsid (List.Subset.trans hkept hlater)
  have hgrouped := List.append_subset.mpr ⟨hstream, List.Subset.trans hgroups hlater⟩
  exact List.append_subset.mpr ⟨hgrouped, hsources⟩

end Steps

/-! ## The sections of a description -/

/-- What a mid and a direction were written into can be read from it. -/
theorem read_of_face {m : MediaDescription} {media : String} {mid : Mid}
    {direction : RTCRtpTransceiverDirection}
    (hface : m.face = (media, ⟨"mid", some mid⟩ :: directionAttributes direction)) :
    m.media = media ∧ getMidValue m = some mid ∧ getPeerDirection m = direction := by
  obtain ⟨hmedia, hread⟩ := Prod.mk.inj hface
  refine ⟨hmedia, ?_, ?_⟩
  · rw [getMidValue_eq, hread]
    rfl
  · rw [getPeerDirection_eq, hread]
    cases direction <;> rfl

/-- A section presents the data channel, or the transceiver of its mid. -/
inductive Presents (transceivers : HashMap Mid RTCRtpTransceiver) (m : MediaSection)
    (media : MediaDescription) : Prop
  | data (hdata : m.data = true) (hfree : transceivers.get m.mid = none)
      (hmedia : media.media = mediaSectionApplication) (hmid : getMidValue media = some m.mid)
      (hdirection : getPeerDirection media = .sendrecv)
  | media (hdata : m.data = false) (transceiver : RTCRtpTransceiver)
      (htransceiver : transceivers.get m.mid = some transceiver)
      (hmedia : media.media = transceiver.kind.toStr) (hmid : getMidValue media = some m.mid)
      (hdirection : getPeerDirection media =
        sectionDirection m.offeredDirection transceiver.direction)
      (hsender : getPeerDirection media = .sendonly → ∃ sender,
        transceiver.sender = some sender ∧ senderAttributes sender ⊆ media.attributes)

theorem Presents.mid {transceivers : HashMap Mid RTCRtpTransceiver} {m : MediaSection}
    {media : MediaDescription} (hpresents : Presents transceivers m media) :
    getMidValue media = some m.mid := by
  cases hpresents with
  | data hdata hfree hmedia hmid hdirection => exact hmid
  | media hdata transceiver htransceiver hmedia hmid hdirection hsender => exact hmid

section Populate

variable {lib : Libraries} (hdoc : lib.Documented)
include hdoc

/-- A data section has its mid, and goes both ways. -/
theorem mediaDescriptions_addDataMediaSection (d : SessionDescription)
    (fingerprints : List RTCDtlsFingerprint) (sessionConfig : SessionConfig)
    (shouldAddCandidates : Bool) (mid : Mid) (iceParams : RTCIceParameters)
    (dtlsRole : ConnectionRole) :
    ∃ media, (addDataMediaSection lib d fingerprints sessionConfig shouldAddCandidates mid
        iceParams dtlsRole).mediaDescriptions = d.mediaDescriptions ++ [media] ∧
      media.face = (mediaSectionApplication,
        ⟨"mid", some mid⟩ :: directionAttributes .sendrecv) := by
  refine ⟨_, hdoc.withMedia d _, ?_⟩
  rw [face_withCandidates hdoc, face_withFingerprints hdoc, face_withIceCredentials hdoc,
    face_withValueAttribute hdoc rfl, face_withValueAttribute hdoc rfl,
    face_withDirection hdoc, face_withMid hdoc, face_withValueAttribute hdoc rfl]
  rfl

/-- The section of a transceiver. -/
theorem addTransceiverSdp_eq_ok {names : Enumeration String} {d built : SessionDescription}
    {fingerprints : List RTCDtlsFingerprint} {iceParams : RTCIceParameters}
    {sessionConfig : SessionConfig} {m : MediaSection} {transceiver : RTCRtpTransceiver}
    {shouldAddCandidates shouldAddId : Bool} {dtlsRole : ConnectionRole}
    (hbuilt : addTransceiverSdp lib names d fingerprints iceParams sessionConfig m transceiver
      shouldAddCandidates dtlsRole = .ok (built, shouldAddId)) :
    ∃ media, built.mediaDescriptions = d.mediaDescriptions ++ [media] ∧
      media.face = (transceiver.kind.toStr, ⟨"mid", some m.mid⟩ ::
        directionAttributes (sectionDirection m.offeredDirection transceiver.direction)) ∧
      (sectionDirection m.offeredDirection transceiver.direction = .sendonly → ∃ sender,
        transceiver.sender = some sender ∧ senderAttributes sender ⊆ media.attributes) := by
  unfold addTransceiverSdp at hbuilt
  dsimp only at hbuilt
  simp only [bind, Except.bind] at hbuilt
  split at hbuilt
  · contradiction
  · rename_i extended hextended
    have hface := face_addHeaderExtensions hdoc _ hextended
    rw [face_addCodecs hdoc, face_withCandidates hdoc, face_withFingerprints hdoc,
      face_withPropertyAttribute hdoc rfl, face_withPropertyAttribute hdoc rfl,
      face_withIceCredentials hdoc, face_withMid hdoc, face_withValueAttribute hdoc rfl,
      face_newJsepMediaDescription hdoc] at hface
    have hsection := face_withDirection hdoc (addRids lib names m.ridMap extended)
      (sectionDirection m.offeredDirection transceiver.direction)
    rw [face_addRids hdoc, hface] at hsection
    split at hbuilt
    · split at hbuilt
      · rename_i sender hsender
        obtain ⟨rfl, -⟩ := Prod.mk.inj (Except.ok.inj hbuilt)
        refine ⟨_, hdoc.withMedia _ _, ?_, fun _ =>
          ⟨sender, hsender, subset_attributes_addSender hdoc sender _⟩⟩
        rw [face_addSender hdoc, hsection]
        rfl
      · contradiction
    · rename_i hdirection
      obtain ⟨rfl, -⟩ := Prod.mk.inj (Except.ok.inj hbuilt)
      refine ⟨_, hdoc.withMedia _ _, ?_, fun hsendonly => absurd hsendonly hdirection⟩
      rw [hsection]
      rfl

/-- Every section of a description presents the one it was asked for. -/
theorem presents_of_populateSections {names : Enumeration String}
    {fingerprints : List RTCDtlsFingerprint} {sessionConfig : SessionConfig}
    {iceParams : RTCIceParameters} {connectionRole : ConnectionRole}
    {transceivers : HashMap Mid RTCRtpTransceiver} {index : Nat} {sections : List MediaSection}
    {d built : SessionDescription} {bundle bundled : String}
    (hbuilt : populateSections lib names fingerprints sessionConfig iceParams connectionRole
      transceivers index sections (d, bundle) = .ok (built, bundled)) :
    ∃ medias, built.mediaDescriptions = d.mediaDescriptions ++ medias ∧
      List.Forall₂ (Presents transceivers) sections medias := by
  induction sections generalizing index d bundle with
  | nil =>
      obtain ⟨rfl, -⟩ := Prod.mk.inj (Except.ok.inj hbuilt)
      exact ⟨[], by simp, .nil⟩
  | cons m rest ih =>
      have hfirst : ∃ media next, next.mediaDescriptions = d.mediaDescriptions ++ [media] ∧
          Presents transceivers m media ∧ ∃ bundle', populateSections lib names fingerprints
            sessionConfig iceParams connectionRole transceivers (index + 1) rest
              (next, bundle') = .ok (built, bundled) := by
        rw [populateSections] at hbuilt
        cases hdata : m.data with
        | true =>
            cases hfree : transceivers.get m.mid with
            | some transceiver =>
                simp [hdata, HashMap.containsKey, hfree, bind, Except.bind] at hbuilt
            | none =>
                obtain ⟨media, hadded, hface⟩ := mediaDescriptions_addDataMediaSection hdoc d
                  fingerprints sessionConfig (decide (index = 0)) m.mid iceParams connectionRole
                obtain ⟨hmedia, hmid, hdirection⟩ := read_of_face hface
                simp only [hdata, HashMap.containsKey, hfree] at hbuilt
                exact ⟨media, _, hadded, .data hdata hfree hmedia hmid hdirection, _, hbuilt⟩
        | false =>
            cases htransceiver : transceivers.get m.mid with
            | none => simp [hdata, htransceiver, bind, Except.bind] at hbuilt
            | some transceiver =>
                simp only [hdata, htransceiver, bind, Except.bind, Bool.false_and,
                  Bool.false_eq_true, if_false] at hbuilt
                split at hbuilt
                · contradiction
                · rename_i added hadded
                  obtain ⟨next, shouldAddId⟩ := added
                  obtain ⟨media, hnext, hface, hsender⟩ := addTransceiverSdp_eq_ok hdoc hadded
                  obtain ⟨hmedia, hmid, hdirection⟩ := read_of_face hface
                  rw [← hdirection] at hsender
                  exact ⟨media, next, hnext, .media hdata transceiver htransceiver hmedia hmid
                    hdirection hsender, _, hbuilt⟩
      obtain ⟨media, next, hnext, hpresents, bundle', hrest⟩ := hfirst
      obtain ⟨medias, hmedias, hpresented⟩ := ih hrest
      exact ⟨media :: medias, by simp [hmedias, hnext], .cons hpresents hpresented⟩

end Populate

end Sfu
end MediaServer
