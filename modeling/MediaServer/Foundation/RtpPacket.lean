import MediaServer.Foundation.ByteOrder
import Mathlib.Tactic.SplitIfs

/-!
# RTP packets and their bytes

A version-2 packet of RFC 3550 as a structure (`Packet`) and as bytes
(`Packet.serialise`).  Read from the side of the bytes, the flags and counts of a
packet say where its headers end and where its padding begins; `WellFormed` says that
these places are there.  `wellFormed_iff` connects the two sides: the well-formed byte
strings are the serialisations of packets, and their payload is what lies between
headers and padding.
-/

namespace Foundation
namespace Rtp

/-- A header extension. -/
structure Extension where
  profile : UInt16
  words : List UInt32
  words_length : words.length ≤ 65535

/-- A version-2 packet.  The padding is kept without its last byte, which counts it. -/
structure Packet where
  marker : Bool
  payloadType : UInt8
  sequenceNumber : UInt16
  timestamp : UInt32
  ssrc : UInt32
  csrcs : List UInt32
  extension : Option Extension
  payload : List UInt8
  padding : Option (List UInt8)
  payloadType_lt : payloadType.toNat < 128
  csrcs_length : csrcs.length ≤ 15
  padding_length : ∀ filler, padding = some filler → filler.length ≤ 254

/-- Words of 32 bits. -/
def wordBytes (words : List UInt32) : List UInt8 :=
  words.flatMap fun word => beBytes 4 word.toNat

@[simp] theorem length_wordBytes (words : List UInt32) :
    (wordBytes words).length = 4 * words.length :=
  length_flatMap_beBytes 4 UInt32.toNat words

def Extension.bytes (extension : Extension) : List UInt8 :=
  beBytes 2 extension.profile.toNat ++ (beBytes 2 extension.words.length ++
    wordBytes extension.words)

namespace Packet

/-- Version, padding flag, extension flag and CSRC count. -/
def flagByte (packet : Packet) : Nat :=
  128 + (if packet.padding.isSome then 32 else 0) + (if packet.extension.isSome then 16 else 0) +
    packet.csrcs.length

/-- Marker and payload type. -/
def typeByte (packet : Packet) : Nat :=
  (if packet.marker then 128 else 0) + packet.payloadType.toNat

def extensionBytes (packet : Packet) : List UInt8 :=
  match packet.extension with
  | none => []
  | some extension => extension.bytes

def paddingBytes (packet : Packet) : List UInt8 :=
  match packet.padding with
  | none => []
  | some filler => filler ++ [UInt8.ofNat (filler.length + 1)]

/-- The first twelve bytes. -/
def fixedBytes (packet : Packet) : List UInt8 :=
  UInt8.ofNat packet.flagByte :: UInt8.ofNat packet.typeByte ::
    (beBytes 2 packet.sequenceNumber.toNat ++
      (beBytes 4 packet.timestamp.toNat ++ beBytes 4 packet.ssrc.toNat))

/-- All that goes before the payload. -/
def headerBytes (packet : Packet) : List UInt8 :=
  packet.fixedBytes ++ (wordBytes packet.csrcs ++ packet.extensionBytes)

def serialise (packet : Packet) : List UInt8 :=
  packet.headerBytes ++ (packet.payload ++ packet.paddingBytes)

end Packet

/-! ## The side of the bytes -/

/-- A byte as a number; `0` where there is none. -/
def byteAt (data : List UInt8) (position : Nat) : Nat := (data.getD position 0).toNat

/-- The number spelled by `width` bytes at a position. -/
def numberAt (data : List UInt8) (position width : Nat) : Nat :=
  beValue ((data.drop position).take width)

def version (data : List UInt8) : Nat := byteAt data 0 / 64

def hasPadding (data : List UInt8) : Bool := byteAt data 0 / 32 % 2 = 1

def hasExtension (data : List UInt8) : Bool := byteAt data 0 / 16 % 2 = 1

def csrcCount (data : List UInt8) : Nat := byteAt data 0 % 16

def payloadTypeOf (data : List UInt8) : Nat := byteAt data 1 % 128

def sequenceNumberOf (data : List UInt8) : UInt16 := UInt16.ofNat (numberAt data 2 2)

def timestampOf (data : List UInt8) : UInt32 := UInt32.ofNat (numberAt data 4 4)

def ssrcOf (data : List UInt8) : UInt32 := UInt32.ofNat (numberAt data 8 4)

/-- Where the list of CSRCs ends. -/
def csrcEnd (data : List UInt8) : Nat := 12 + 4 * csrcCount data

/-- The number of words of the extension, if there is one. -/
def extensionWords (data : List UInt8) : Nat := numberAt data (csrcEnd data + 2) 2

/-- Where the headers end. -/
def headerEnd (data : List UInt8) : Nat :=
  if hasExtension data then csrcEnd data + 4 + 4 * extensionWords data else csrcEnd data

/-- The words of 32 bits from a position on. -/
def wordsAt (data : List UInt8) (position count : Nat) : List UInt32 :=
  (List.range count).map fun i => UInt32.ofNat (numberAt data (position + 4 * i) 4)

/-- The number of bytes of padding. -/
def paddingCount (data : List UInt8) : Nat :=
  if hasPadding data then byteAt data (data.length - 1) else 0

/-- What lies between headers and padding. -/
def payloadOf (data : List UInt8) : List UInt8 :=
  (data.drop (headerEnd data)).take (data.length - paddingCount data - headerEnd data)

/-- The bytes are those of a packet: everything its flags and counts announce is
there. -/
structure WellFormed (data : List UInt8) : Prop where
  fixed : 12 ≤ data.length
  version : version data = 2
  extension : hasExtension data = true → csrcEnd data + 4 ≤ data.length
  headers : headerEnd data ≤ data.length
  padded : hasPadding data = true → 1 ≤ paddingCount data
  padding : headerEnd data + paddingCount data ≤ data.length

/-! ## A packet read from its bytes -/

namespace Packet

variable (packet : Packet)

theorem byteAt_last (front : List UInt8) (byte : UInt8) :
    byteAt (front ++ [byte]) ((front ++ [byte]).length - 1) = byte.toNat := by
  simp [byteAt]

theorem flagByte_lt : packet.flagByte < 256 := by
  have hcsrcs := packet.csrcs_length
  unfold flagByte
  split_ifs <;> omega

theorem typeByte_lt : packet.typeByte < 256 := by
  have htype := packet.payloadType_lt
  unfold typeByte
  split_ifs <;> omega

theorem byteAt_zero : byteAt packet.serialise 0 = packet.flagByte := by
  show (UInt8.ofNat packet.flagByte).toNat = packet.flagByte
  exact UInt8.toNat_ofNat_of_lt' packet.flagByte_lt

theorem byteAt_one : byteAt packet.serialise 1 = packet.typeByte := by
  show (UInt8.ofNat packet.typeByte).toNat = packet.typeByte
  exact UInt8.toNat_ofNat_of_lt' packet.typeByte_lt

@[simp] theorem version_serialise : version packet.serialise = 2 := by
  have hcsrcs := packet.csrcs_length
  rw [version, byteAt_zero, flagByte]
  split_ifs <;> omega

@[simp] theorem csrcCount_serialise : csrcCount packet.serialise = packet.csrcs.length := by
  have hcsrcs := packet.csrcs_length
  rw [csrcCount, byteAt_zero, flagByte]
  split_ifs <;> omega

@[simp] theorem hasPadding_serialise :
    hasPadding packet.serialise = packet.padding.isSome := by
  have hcsrcs := packet.csrcs_length
  rw [hasPadding, byteAt_zero, flagByte]
  cases packet.padding <;> cases packet.extension <;> simp <;> omega

@[simp] theorem hasExtension_serialise :
    hasExtension packet.serialise = packet.extension.isSome := by
  have hcsrcs := packet.csrcs_length
  rw [hasExtension, byteAt_zero, flagByte]
  cases packet.padding <;> cases packet.extension <;> simp <;> omega

@[simp] theorem payloadType_serialise :
    payloadTypeOf packet.serialise = packet.payloadType.toNat := by
  have htype := packet.payloadType_lt
  rw [payloadTypeOf, byteAt_one, typeByte]
  split_ifs <;> omega

@[simp] theorem length_fixedBytes : packet.fixedBytes.length = 12 := by
  simp [fixedBytes]

/-- What stands behind some bytes is found after their length. -/
theorem numberAt_append {front rest : List UInt8} {position width value : Nat}
    (hposition : front.length = position) (hvalue : value < 256 ^ width) :
    numberAt (front ++ (beBytes width value ++ rest)) position width = value := by
  rw [numberAt, List.drop_left' hposition, List.take_left' (length_beBytes width value),
    beValue_beBytes hvalue]

@[simp] theorem sequenceNumber_serialise :
    sequenceNumberOf packet.serialise = packet.sequenceNumber := by
  have hvalue : packet.sequenceNumber.toNat < 256 ^ 2 := packet.sequenceNumber.toNat_lt
  have hsplit : packet.serialise =
      [UInt8.ofNat packet.flagByte, UInt8.ofNat packet.typeByte] ++
      (beBytes 2 packet.sequenceNumber.toNat ++ (beBytes 4 packet.timestamp.toNat ++
        (beBytes 4 packet.ssrc.toNat ++
        (wordBytes packet.csrcs ++ packet.extensionBytes ++
          (packet.payload ++ packet.paddingBytes))))) := by
    simp [serialise, headerBytes, fixedBytes]
  rw [sequenceNumberOf, hsplit, numberAt_append (by simp) hvalue, UInt16.ofNat_toNat]

@[simp] theorem timestamp_serialise : timestampOf packet.serialise = packet.timestamp := by
  have hvalue : packet.timestamp.toNat < 256 ^ 4 := packet.timestamp.toNat_lt
  have hsplit : packet.serialise =
      (UInt8.ofNat packet.flagByte :: UInt8.ofNat packet.typeByte ::
        beBytes 2 packet.sequenceNumber.toNat) ++
      (beBytes 4 packet.timestamp.toNat ++ (beBytes 4 packet.ssrc.toNat ++
        (wordBytes packet.csrcs ++ packet.extensionBytes ++
          (packet.payload ++ packet.paddingBytes)))) := by
    simp [serialise, headerBytes, fixedBytes]
  rw [timestampOf, hsplit, numberAt_append (by simp) hvalue, UInt32.ofNat_toNat]

@[simp] theorem ssrc_serialise : ssrcOf packet.serialise = packet.ssrc := by
  have hvalue : packet.ssrc.toNat < 256 ^ 4 := packet.ssrc.toNat_lt
  have hsplit : packet.serialise =
      (UInt8.ofNat packet.flagByte :: UInt8.ofNat packet.typeByte ::
        (beBytes 2 packet.sequenceNumber.toNat ++ beBytes 4 packet.timestamp.toNat)) ++
      (beBytes 4 packet.ssrc.toNat ++
        (wordBytes packet.csrcs ++ packet.extensionBytes ++
          (packet.payload ++ packet.paddingBytes))) := by
    simp [serialise, headerBytes, fixedBytes]
  rw [ssrcOf, hsplit, numberAt_append (by simp) hvalue, UInt32.ofNat_toNat]

@[simp] theorem csrcEnd_serialise : csrcEnd packet.serialise = 12 + 4 * packet.csrcs.length := by
  rw [csrcEnd, csrcCount_serialise]

theorem extensionWords_serialise {extension : Extension}
    (hextension : packet.extension = some extension) :
    extensionWords packet.serialise = extension.words.length := by
  have hvalue : extension.words.length < 256 ^ 2 := by
    have hwords := extension.words_length
    omega
  have hsplit : packet.serialise =
      (packet.fixedBytes ++ (wordBytes packet.csrcs ++ beBytes 2 extension.profile.toNat)) ++
      (beBytes 2 extension.words.length ++ (wordBytes extension.words ++
        (packet.payload ++ packet.paddingBytes))) := by
    simp [serialise, headerBytes, extensionBytes, hextension, Extension.bytes]
  have hposition : (packet.fixedBytes ++ (wordBytes packet.csrcs ++
      beBytes 2 extension.profile.toNat)).length = csrcEnd packet.serialise + 2 := by
    simp
    omega
  rw [extensionWords, ← hposition, hsplit, numberAt_append rfl hvalue]

@[simp] theorem headerEnd_serialise :
    headerEnd packet.serialise = packet.headerBytes.length := by
  unfold headerEnd
  rw [hasExtension_serialise, csrcEnd_serialise]
  cases hextension : packet.extension with
  | none => simp [headerBytes, extensionBytes, hextension]
  | some extension =>
      rw [extensionWords_serialise packet hextension]
      simp [headerBytes, extensionBytes, hextension, Extension.bytes]
      omega

@[simp] theorem paddingCount_serialise :
    paddingCount packet.serialise = packet.paddingBytes.length := by
  unfold paddingCount
  rw [hasPadding_serialise]
  cases hpadding : packet.padding with
  | none => simp [paddingBytes, hpadding]
  | some filler =>
      have hlength := packet.padding_length filler hpadding
      have hlast : packet.serialise =
          (packet.headerBytes ++ (packet.payload ++ filler)) ++
            [UInt8.ofNat (filler.length + 1)] := by
        simp [serialise, paddingBytes, hpadding]
      have hcount : (UInt8.ofNat (filler.length + 1)).toNat = filler.length + 1 := by
        rw [UInt8.toNat_ofNat']
        omega
      rw [if_pos Option.isSome_some, hlast, byteAt_last, hcount]
      simp [paddingBytes, hpadding]

theorem length_serialise :
    packet.serialise.length =
      packet.headerBytes.length + packet.payload.length + packet.paddingBytes.length := by
  simp [serialise]
  omega

@[simp] theorem payloadOf_serialise : payloadOf packet.serialise = packet.payload := by
  have hlength : packet.serialise.length - packet.paddingBytes.length -
      packet.headerBytes.length = packet.payload.length := by
    rw [length_serialise]
    omega
  rw [payloadOf, headerEnd_serialise, paddingCount_serialise, hlength, serialise,
    List.drop_left' rfl, List.take_left' rfl]

theorem wellFormed_serialise : WellFormed packet.serialise where
  fixed := by
    rw [length_serialise, headerBytes, List.length_append, length_fixedBytes]
    omega
  version := packet.version_serialise
  extension := by
    intro hflag
    rw [hasExtension_serialise] at hflag
    obtain ⟨extension, hextension⟩ := Option.isSome_iff_exists.mp hflag
    rw [csrcEnd_serialise, length_serialise]
    simp [headerBytes, extensionBytes, hextension, Extension.bytes]
    omega
  headers := by
    rw [headerEnd_serialise, length_serialise]
    omega
  padded := by
    intro hflag
    rw [hasPadding_serialise] at hflag
    obtain ⟨filler, hpadding⟩ := Option.isSome_iff_exists.mp hflag
    rw [paddingCount_serialise]
    simp [paddingBytes, hpadding]
  padding := by
    rw [headerEnd_serialise, paddingCount_serialise, length_serialise]
    omega

end Packet

/-! ## A packet built from well-formed bytes -/

section Build

variable {data : List UInt8}

theorem numberAt_lt (data : List UInt8) (position width : Nat) :
    numberAt data position width < 256 ^ width := by
  refine (beValue_lt _).trans_le (Nat.pow_le_pow_right (by omega) ?_)
  rw [List.length_take]
  exact Nat.min_le_left _ _

theorem beBytes_numberAt {position width : Nat} (hlength : position + width ≤ data.length) :
    beBytes width (numberAt data position width) = (data.drop position).take width := by
  have hbytes := beBytes_beValue ((data.drop position).take width)
  rwa [List.length_take, List.length_drop, Nat.min_eq_left (by omega)] at hbytes

theorem wordBytes_wordsAt {position : Nat} (count : Nat)
    (hlength : position + 4 * count ≤ data.length) :
    wordBytes (wordsAt data position count) = (data.drop position).take (4 * count) := by
  induction count with
  | zero => rfl
  | succ count ih =>
      have hvalue : (UInt32.ofNat (numberAt data (position + 4 * count) 4)).toNat =
          numberAt data (position + 4 * count) 4 :=
        UInt32.toNat_ofNat_of_lt' (numberAt_lt data (position + 4 * count) 4)
      have hlast : wordBytes (wordsAt data position (count + 1)) =
          wordBytes (wordsAt data position count) ++
            beBytes 4 (numberAt data (position + 4 * count) 4) := by
        simp [wordBytes, wordsAt, List.range_succ, hvalue]
      rw [hlast, ih (by omega), beBytes_numberAt (by omega), Nat.mul_succ, List.take_add,
        List.drop_drop]

/-- The packet that well-formed bytes spell. -/
def packetOf (data : List UInt8) : Packet where
  marker := decide (128 ≤ byteAt data 1)
  payloadType := UInt8.ofNat (payloadTypeOf data)
  sequenceNumber := sequenceNumberOf data
  timestamp := timestampOf data
  ssrc := ssrcOf data
  csrcs := wordsAt data 12 (csrcCount data)
  extension :=
    if hasExtension data then
      some
        { profile := UInt16.ofNat (numberAt data (csrcEnd data) 2)
          words := wordsAt data (csrcEnd data + 4) (extensionWords data)
          words_length := by
            have hlt := numberAt_lt data (csrcEnd data + 2) 2
            simp only [wordsAt, List.length_map, List.length_range, extensionWords]
            omega }
    else none
  payload := payloadOf data
  padding :=
    if hasPadding data then
      some ((data.drop (data.length - paddingCount data)).take (paddingCount data - 1))
    else none
  payloadType_lt := by
    rw [UInt8.toNat_ofNat', payloadTypeOf]
    omega
  csrcs_length := by
    simp only [wordsAt, List.length_map, List.length_range, csrcCount]
    omega
  padding_length := by
    intro filler hfiller
    have hbyte : paddingCount data < 256 := by
      unfold paddingCount byteAt
      split
      · exact UInt8.toNat_lt _
      · omega
    split at hfiller
    · obtain rfl := Option.some.inj hfiller
      rw [List.length_take]
      omega
    · contradiction

theorem fixedBytes_packetOf (hwell : WellFormed data) :
    (packetOf data).fixedBytes = data.take 12 := by
  have hfixed := hwell.fixed
  have hversion := hwell.version
  have hfirst : byteAt data 0 < 256 := UInt8.toNat_lt _
  have hsecond : byteAt data 1 < 256 := UInt8.toNat_lt _
  have hflag : (packetOf data).flagByte = byteAt data 0 := by
    have hcount : (packetOf data).csrcs.length = byteAt data 0 % 16 := by
      simp [packetOf, wordsAt, csrcCount]
    have hpadding : (packetOf data).padding.isSome = hasPadding data := by
      cases hflag : hasPadding data <;> simp [packetOf, hflag]
    have hextension : (packetOf data).extension.isSome = hasExtension data := by
      cases hflag : hasExtension data <;> simp [packetOf, hflag]
    rw [Packet.flagByte, hcount, hpadding, hextension]
    rw [version] at hversion
    simp only [hasPadding, hasExtension, decide_eq_true_eq]
    split_ifs <;> omega
  have htype : (packetOf data).typeByte = byteAt data 1 := by
    have hvalue : (UInt8.ofNat (payloadTypeOf data)).toNat = byteAt data 1 % 128 := by
      rw [UInt8.toNat_ofNat', payloadTypeOf]
      omega
    simp only [Packet.typeByte, packetOf, hvalue, decide_eq_true_eq]
    split_ifs <;> omega
  have hsequence : (packetOf data).sequenceNumber.toNat = numberAt data 2 2 :=
    UInt16.toNat_ofNat_of_lt' (numberAt_lt data 2 2)
  have htimestamp : (packetOf data).timestamp.toNat = numberAt data 4 4 :=
    UInt32.toNat_ofNat_of_lt' (numberAt_lt data 4 4)
  have hssrc : (packetOf data).ssrc.toNat = numberAt data 8 4 :=
    UInt32.toNat_ofNat_of_lt' (numberAt_lt data 8 4)
  have hbytes :
      UInt8.ofNat (byteAt data 0) :: UInt8.ofNat (byteAt data 1) :: data.drop 2 = data := by
    match data, hfixed with
    | first :: second :: rest, _ => simp [byteAt]
  calc
    (packetOf data).fixedBytes =
        UInt8.ofNat (byteAt data 0) :: UInt8.ofNat (byteAt data 1) ::
          ((data.drop 2).take 2 ++ ((data.drop 4).take 4 ++ (data.drop 8).take 4)) := by
      rw [Packet.fixedBytes, hflag, htype, hsequence, htimestamp, hssrc,
        beBytes_numberAt (by omega), beBytes_numberAt (by omega), beBytes_numberAt (by omega)]
    _ = UInt8.ofNat (byteAt data 0) :: UInt8.ofNat (byteAt data 1) :: (data.drop 2).take 10 := by
      have hten : (data.drop 2).take 10 = (data.drop 2).take (2 + (4 + 4)) := rfl
      rw [hten, List.take_add, List.take_add, List.drop_drop, List.drop_drop]
    _ = (UInt8.ofNat (byteAt data 0) :: UInt8.ofNat (byteAt data 1) :: data.drop 2).take 12 := rfl
    _ = data.take 12 := by rw [hbytes]

theorem extensionBytes_packetOf (hwell : WellFormed data) :
    (packetOf data).extensionBytes =
      (data.drop (csrcEnd data)).take (headerEnd data - csrcEnd data) := by
  have hheaders := hwell.headers
  rw [Packet.extensionBytes, headerEnd] at *
  cases hflag : hasExtension data with
  | false => simp [packetOf, hflag]
  | true =>
      have hextension := hwell.extension hflag
      rw [if_pos hflag] at hheaders
      have hprofile : (UInt16.ofNat (numberAt data (csrcEnd data) 2)).toNat =
          numberAt data (csrcEnd data) 2 :=
        UInt16.toNat_ofNat_of_lt' (numberAt_lt data (csrcEnd data) 2)
      have hwords : (wordsAt data (csrcEnd data + 4) (extensionWords data)).length =
          numberAt data (csrcEnd data + 2) 2 := by
        simp [wordsAt, extensionWords]
      have hlength : csrcEnd data + 4 + 4 * extensionWords data - csrcEnd data =
          2 + (2 + 4 * extensionWords data) := by
        omega
      simp only [packetOf, hflag, if_true, Extension.bytes, hprofile, hwords]
      rw [beBytes_numberAt (by omega), beBytes_numberAt (by omega), wordBytes_wordsAt _ (by omega),
        hlength, List.take_add, List.take_add, List.drop_drop, List.drop_drop]

theorem headerBytes_packetOf (hwell : WellFormed data) :
    (packetOf data).headerBytes = data.take (headerEnd data) := by
  have hheaders := hwell.headers
  have hcsrcs : csrcEnd data ≤ headerEnd data := by
    unfold headerEnd
    split <;> omega
  have hwords : wordBytes (packetOf data).csrcs = (data.drop 12).take (4 * csrcCount data) := by
    refine wordBytes_wordsAt (csrcCount data) ?_
    rw [csrcEnd] at hcsrcs
    omega
  have hend : headerEnd data = 12 + (4 * csrcCount data + (headerEnd data - csrcEnd data)) := by
    rw [csrcEnd] at hcsrcs ⊢
    omega
  rw [Packet.headerBytes, fixedBytes_packetOf hwell, hwords, extensionBytes_packetOf hwell]
  conv_rhs => rw [hend, List.take_add, List.take_add, List.drop_drop]
  rfl

theorem paddingBytes_packetOf (hwell : WellFormed data) :
    (packetOf data).paddingBytes = data.drop (data.length - paddingCount data) := by
  rw [Packet.paddingBytes]
  cases hflag : hasPadding data with
  | false => simp [packetOf, hflag, paddingCount]
  | true =>
      have hcount := hwell.padded hflag
      have hfits := hwell.padding
      obtain ⟨front, last, rfl⟩ : ∃ front last, data = front ++ [last] := by
        rcases List.eq_nil_or_concat' data with rfl | hconcat
        · have hfixed := hwell.fixed
          simp at hfixed
        · exact hconcat
      have hlast : paddingCount (front ++ [last]) = last.toNat := by
        rw [paddingCount, if_pos hflag, Packet.byteAt_last]
      rw [hlast] at hcount hfits ⊢
      rw [List.length_append, List.length_singleton] at hfits ⊢
      have hdrop : (front ++ [last]).drop (front.length + 1 - last.toNat) =
          front.drop (front.length + 1 - last.toNat) ++ [last] :=
        List.drop_append_of_le_length (by omega)
      have hrest : (front.drop (front.length + 1 - last.toNat)).length = last.toNat - 1 := by
        rw [List.length_drop]
        omega
      have hbyte : UInt8.ofNat (last.toNat - 1 + 1) = last := by
        rw [Nat.sub_add_cancel hcount, UInt8.ofNat_toNat]
      simp only [packetOf, hflag, if_true, hlast, List.length_append, List.length_singleton]
      rw [hdrop, List.take_left' hrest, hrest, hbyte]

/-- Building a packet and serialising it gives the bytes back. -/
theorem serialise_packetOf (hwell : WellFormed data) : (packetOf data).serialise = data := by
  have hfits := hwell.padding
  have hpayload : (packetOf data).payload = payloadOf data := rfl
  have hend : data.length - paddingCount data =
      headerEnd data + (data.length - paddingCount data - headerEnd data) := by
    omega
  calc
    (packetOf data).serialise =
        data.take (headerEnd data) ++
          ((data.drop (headerEnd data)).take
              (data.length - paddingCount data - headerEnd data) ++
            data.drop (data.length - paddingCount data)) := by
      rw [Packet.serialise, headerBytes_packetOf hwell, paddingBytes_packetOf hwell, hpayload,
        payloadOf]
    _ = data.take (data.length - paddingCount data) ++
          data.drop (data.length - paddingCount data) := by
      conv_rhs => rw [hend, List.take_add]
      rw [List.append_assoc, ← hend]
    _ = data := List.take_append_drop _ _

/-- The well-formed byte strings are the serialisations of packets, each with the
packet's payload. -/
theorem wellFormed_iff {payload : List UInt8} :
    WellFormed data ∧ payloadOf data = payload ↔
      ∃ packet : Packet, packet.serialise = data ∧ packet.payload = payload := by
  constructor
  · rintro ⟨hwell, hpayload⟩
    exact ⟨packetOf data, serialise_packetOf hwell, hpayload⟩
  · rintro ⟨packet, rfl, rfl⟩
    exact ⟨packet.wellFormed_serialise, packet.payloadOf_serialise⟩

end Build

end Rtp
end Foundation
