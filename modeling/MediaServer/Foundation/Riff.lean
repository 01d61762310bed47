import MediaServer.Foundation.Samples

/-!
# RIFF and WAVE files

A RIFF file is the identifier `RIFF`, a size, the type of the file, and chunks.  A chunk
is an identifier, the size of its body, its body, and a byte of padding if this size is
odd.  Sizes are numbers of four bytes, least significant byte first; the size of the file
counts what follows it.  A WAVE file is one with a chunk `fmt ` that describes the samples
and a chunk `data` that holds them.

* `readChunk`, `readForm`: the readers, which take nothing that is cut short or too long;
* `readForm_bytes`: what is written is read back;
* `readWave`: the reader of WAVE files of 16-bit PCM.
-/

namespace Foundation
namespace Riff

/-- The number of `width` bytes at a position. -/
def fieldAt (bytes : List UInt8) (position width : Nat) : Nat :=
  leValue ((bytes.drop position).take width)

theorem fieldAt_lt (bytes : List UInt8) (position width : Nat) :
    fieldAt bytes position width < 256 ^ width :=
  lt_of_lt_of_le (leValue_lt _) (Nat.pow_le_pow_right (by decide) (List.length_take_le _ _))

theorem fieldAt_append {earlier later : List UInt8} {position width value : Nat}
    (hposition : earlier.length = position) (hvalue : value < 256 ^ width) :
    fieldAt (earlier ++ (leBytes width value ++ later)) position width = value := by
  rw [fieldAt, List.drop_left' hposition, List.take_left' (length_leBytes width value),
    leValue_leBytes hvalue]

/-- Numbers of some widths, one after the other. -/
def fieldBytes (fields : List (Nat × Nat)) : List UInt8 :=
  fields.flatMap fun field => leBytes field.1 field.2

/-- Read numbers of these widths. -/
def readFields : List Nat → List UInt8 → Option (List Nat)
  | [], _ => some []
  | width :: widths, bytes =>
      if width ≤ bytes.length then
        (readFields widths (bytes.drop width)).map (leValue (bytes.take width) :: ·)
      else none

theorem readFields_fieldBytes {fields : List (Nat × Nat)}
    (hfits : ∀ field ∈ fields, field.2 < 256 ^ field.1) (rest : List UInt8) :
    readFields (fields.map Prod.fst) (fieldBytes fields ++ rest) = some (fields.map Prod.snd) := by
  induction fields with
  | nil => rfl
  | cons field fields ih =>
      have hlength := length_leBytes field.1 field.2
      have hbytes : fieldBytes (field :: fields) ++ rest =
          leBytes field.1 field.2 ++ (fieldBytes fields ++ rest) :=
        List.append_assoc _ _ _
      have hlong : field.1 ≤ (leBytes field.1 field.2 ++ (fieldBytes fields ++ rest)).length := by
        rw [List.length_append, hlength]
        omega
      rw [List.map_cons, hbytes, readFields, if_pos hlong, List.drop_left' hlength,
        List.take_left' hlength, leValue_leBytes (hfits field List.mem_cons_self),
        ih fun other hmem => hfits other (List.mem_cons_of_mem _ hmem)]
      rfl

/-! ## Chunks -/

/-- A chunk that can be written. -/
@[ext] structure Chunk where
  id : List UInt8
  body : List UInt8
  id_length : id.length = 4
  body_lt : body.length < 256 ^ 4

/-- The chunk as it is written. -/
def Chunk.bytes (chunk : Chunk) : List UInt8 :=
  chunk.id ++ leBytes 4 chunk.body.length ++ chunk.body ++
    List.replicate (chunk.body.length % 2) 0

/-- Read one chunk and return what follows it. -/
def readChunk (bytes : List UInt8) : Option (Chunk × List UInt8) :=
  let size := fieldAt bytes 4 4
  if hsize : 8 + size + size % 2 ≤ bytes.length then
    some ({ id := bytes.take 4
            body := (bytes.drop 8).take size
            id_length := by
              rw [List.length_take]
              omega
            body_lt := lt_of_le_of_lt (List.length_take_le _ _) (fieldAt_lt bytes 4 4) },
          bytes.drop (8 + size + size % 2))
  else none

/-- What is written is read back. -/
theorem readChunk_bytes (chunk : Chunk) (rest : List UInt8) :
    readChunk (chunk.bytes ++ rest) = some (chunk, rest) := by
  have hid := chunk.id_length
  have hbytes : chunk.bytes ++ rest = chunk.id ++ (leBytes 4 chunk.body.length ++
      (chunk.body ++ (List.replicate (chunk.body.length % 2) 0 ++ rest))) := by
    simp only [Chunk.bytes, List.append_assoc]
  have hsize : fieldAt (chunk.bytes ++ rest) 4 4 = chunk.body.length := by
    rw [hbytes]
    exact fieldAt_append hid chunk.body_lt
  have hname : (chunk.bytes ++ rest).take 4 = chunk.id := by
    rw [hbytes]
    exact List.take_left' hid
  have hheader : (chunk.bytes ++ rest).drop 8 =
      chunk.body ++ (List.replicate (chunk.body.length % 2) 0 ++ rest) := by
    rw [hbytes, ← List.append_assoc]
    exact List.drop_left' (by rw [List.length_append, hid, length_leBytes])
  have hrest : (chunk.bytes ++ rest).drop (8 + chunk.body.length + chunk.body.length % 2) =
      rest := by
    rw [Nat.add_assoc, ← List.drop_drop, hheader, ← List.append_assoc]
    exact List.drop_left' (by rw [List.length_append, List.length_replicate])
  have hfits : 8 + chunk.body.length + chunk.body.length % 2 ≤ (chunk.bytes ++ rest).length := by
    rw [hbytes]
    simp only [List.length_append, length_leBytes, List.length_replicate, hid]
    omega
  unfold readChunk
  simp only [hsize, dif_pos hfits, hrest]
  refine congrArg some (Prod.ext (Chunk.ext hname ?_) rfl)
  show ((chunk.bytes ++ rest).drop 8).take chunk.body.length = chunk.body
  rw [hheader]
  exact List.take_left' rfl

theorem length_bytes (chunk : Chunk) :
    chunk.bytes.length = 8 + chunk.body.length + chunk.body.length % 2 := by
  simp only [Chunk.bytes, List.length_append, length_leBytes, List.length_replicate,
    chunk.id_length]

/-- Read chunks to the end of the bytes, at most `count` of them. -/
def readChunks : Nat → List UInt8 → Option (List Chunk)
  | 0, bytes => if bytes = [] then some [] else none
  | count + 1, bytes =>
      if bytes = [] then some []
      else
        match readChunk bytes with
        | none => none
        | some (chunk, rest) => (readChunks count rest).map (chunk :: ·)

/-- The chunks one after the other. -/
def chunkBytes (chunks : List Chunk) : List UInt8 := chunks.flatMap Chunk.bytes

theorem length_le_chunkBytes (chunks : List Chunk) :
    chunks.length ≤ (chunkBytes chunks).length := by
  induction chunks with
  | nil => exact Nat.zero_le _
  | cons chunk chunks ih =>
      rw [chunkBytes, List.flatMap_cons, List.length_append, length_bytes, List.length_cons]
      rw [chunkBytes] at ih
      omega

theorem readChunks_chunkBytes {chunks : List Chunk} {count : Nat}
    (hcount : chunks.length ≤ count) : readChunks count (chunkBytes chunks) = some chunks := by
  induction chunks generalizing count with
  | nil => cases count <;> rfl
  | cons chunk chunks ih =>
      obtain ⟨count, rfl⟩ : ∃ less, count = less + 1 :=
        ⟨count - 1, by rw [List.length_cons] at hcount; omega⟩
      have hbytes : chunkBytes (chunk :: chunks) = chunk.bytes ++ chunkBytes chunks := rfl
      have hnonempty : chunk.bytes ++ chunkBytes chunks ≠ [] := by
        intro hnil
        have hlength := congrArg List.length hnil
        rw [List.length_append, length_bytes, List.length_nil] at hlength
        omega
      rw [readChunks, hbytes, if_neg hnonempty, readChunk_bytes]
      simp only
      rw [ih (Nat.le_of_succ_le_succ hcount), Option.map_some]

/-! ## Files -/

/-- `RIFF` -/
def riffId : List UInt8 := [0x52, 0x49, 0x46, 0x46]

/-- A file that can be written: its type and its chunks. -/
@[ext] structure Form where
  formType : List UInt8
  chunks : List Chunk
  type_length : formType.length = 4
  size_lt : 4 + (chunkBytes chunks).length < 256 ^ 4

/-- The size in the header of the file. -/
def Form.size (form : Form) : Nat := 4 + (chunkBytes form.chunks).length

/-- The file as it is written. -/
def Form.bytes (form : Form) : List UInt8 :=
  riffId ++ leBytes 4 form.size ++ form.formType ++ chunkBytes form.chunks

/-- What the reader of a file reports. -/
structure FormRead where
  size : Nat
  formType : List UInt8
  chunks : List Chunk

/-- Read a file; its size must be that of the bytes. -/
def readForm (bytes : List UInt8) : Option FormRead :=
  let size := fieldAt bytes 4 4
  if bytes.take 4 = riffId ∧ 4 ≤ size ∧ bytes.length = 8 + size then
    (readChunks bytes.length (bytes.drop 12)).map fun chunks =>
      { size := size, formType := (bytes.drop 8).take 4, chunks := chunks }
  else none

theorem Form.length_bytes (form : Form) : form.bytes.length = 8 + form.size := by
  simp only [Form.bytes, Form.size, List.length_append, length_leBytes, form.type_length]
  have hid : riffId.length = 4 := rfl
  omega

/-- What is written is read back. -/
theorem readForm_bytes (form : Form) :
    readForm form.bytes = some ⟨form.size, form.formType, form.chunks⟩ := by
  have hid : riffId.length = 4 := rfl
  have hbytes : form.bytes = riffId ++ (leBytes 4 form.size ++
      (form.formType ++ chunkBytes form.chunks)) := by
    simp only [Form.bytes, List.append_assoc]
  have hsize : fieldAt form.bytes 4 4 = form.size := by
    rw [hbytes]
    exact fieldAt_append hid form.size_lt
  have hheader : form.bytes.drop 8 = form.formType ++ chunkBytes form.chunks := by
    rw [hbytes, ← List.append_assoc]
    exact List.drop_left' (by rw [List.length_append, hid, length_leBytes])
  have hchunks : form.bytes.drop 12 = chunkBytes form.chunks := by
    have hsplit : form.bytes.drop 12 = (form.bytes.drop 8).drop 4 := by rw [List.drop_drop]
    rw [hsplit, hheader]
    exact List.drop_left' form.type_length
  have haccepted : form.bytes.take 4 = riffId ∧ 4 ≤ form.size ∧
      form.bytes.length = 8 + form.size := by
    refine ⟨?_, Nat.le_add_right 4 _, form.length_bytes⟩
    rw [hbytes]
    exact List.take_left' hid
  have hcount : form.chunks.length ≤ form.bytes.length := by
    have hle := length_le_chunkBytes form.chunks
    rw [form.length_bytes, Form.size]
    omega
  unfold readForm
  simp only [hsize, if_pos haccepted, hchunks, readChunks_chunkBytes hcount, Option.map_some,
    hheader]
  rw [List.take_left' form.type_length]

/-! ## WAVE files -/

/-- `WAVE` -/
def waveId : List UInt8 := [0x57, 0x41, 0x56, 0x45]

/-- `fmt ` -/
def formatId : List UInt8 := [0x66, 0x6D, 0x74, 0x20]

/-- `data` -/
def dataId : List UInt8 := [0x64, 0x61, 0x74, 0x61]

/-- The fields of a chunk `fmt `. -/
structure Format where
  tag : Nat
  channels : Nat
  sampleRate : Nat
  byteRate : Nat
  blockAlign : Nat
  bitsPerSample : Nat
  deriving DecidableEq

/-- The widths of these fields and their values. -/
def Format.fields (format : Format) : List (Nat × Nat) :=
  [(2, format.tag), (2, format.channels), (4, format.sampleRate), (4, format.byteRate),
    (2, format.blockAlign), (2, format.bitsPerSample)]

/-- The body of a chunk `fmt `. -/
def Format.bytes (format : Format) : List UInt8 := fieldBytes format.fields

/-- Read the body of a chunk `fmt `, which may have further fields. -/
def readFormat (body : List UInt8) : Option Format :=
  match readFields [2, 2, 4, 4, 2, 2] body with
  | some [tag, channels, sampleRate, byteRate, blockAlign, bitsPerSample] =>
      some ⟨tag, channels, sampleRate, byteRate, blockAlign, bitsPerSample⟩
  | _ => none

theorem readFormat_bytes {format : Format}
    (hfits : ∀ field ∈ format.fields, field.2 < 256 ^ field.1) :
    readFormat format.bytes = some format := by
  have hfields := readFields_fieldBytes hfits []
  rw [List.append_nil] at hfields
  unfold readFormat
  rw [Format.bytes, show [2, 2, 4, 4, 2, 2] = format.fields.map Prod.fst from rfl, hfields]
  rfl

theorem Format.length_bytes (format : Format) : format.bytes.length = 16 := by
  simp [Format.bytes, Format.fields, fieldBytes]

/-- Read samples of 16 bits to the end of the bytes. -/
def readSamples (bytes : List UInt8) : Option (List Int16) :=
  if bytes.length % 2 = 0 then some (Samples.pairs bytes) else none

theorem readSamples_bytesOf (samples : List Int16) :
    readSamples (Samples.bytesOf samples) = some samples := by
  have heven : (Samples.bytesOf samples).length % 2 = 0 := by
    rw [Samples.length_bytesOf, Nat.mul_mod_right]
  rw [readSamples, if_pos heven, Samples.pairs_bytesOf]

/-- What the reader of a WAVE file reports. -/
structure Wave where
  /-- the size in the header of the file -/
  riffSize : Nat
  format : Format
  /-- the size of the chunk `data` -/
  dataSize : Nat
  samples : List Int16
  deriving DecidableEq

/-- Read a WAVE file of 16-bit PCM. -/
def readWave (bytes : List UInt8) : Option Wave := do
  let form ← readForm bytes
  guard (form.formType = waveId)
  let formatChunk ← form.chunks.find? fun chunk => chunk.id = formatId
  let format ← readFormat formatChunk.body
  guard (format.tag = 1 ∧ format.bitsPerSample = 16)
  let dataChunk ← form.chunks.find? fun chunk => chunk.id = dataId
  let samples ← readSamples dataChunk.body
  some { riffSize := form.size, format := format, dataSize := dataChunk.body.length,
         samples := samples }

/-- A WAVE file with the two chunks it must have. -/
def waveForm (format : Format) (samples : List Int16)
    (hsize : 36 + 2 * samples.length < 256 ^ 4) : Form where
  formType := waveId
  chunks :=
    [{ id := formatId
       body := format.bytes
       id_length := rfl
       body_lt := by
         rw [format.length_bytes]
         decide },
     { id := dataId
       body := Samples.bytesOf samples
       id_length := rfl
       body_lt := by
         rw [Samples.length_bytesOf]
         omega }]
  type_length := rfl
  size_lt := by
    simp only [chunkBytes, List.flatMap_cons, List.flatMap_nil, List.length_append,
      length_bytes, format.length_bytes, Samples.length_bytesOf, List.length_nil]
    omega

theorem size_waveForm (format : Format) (samples : List Int16)
    (hsize : 36 + 2 * samples.length < 256 ^ 4) :
    (waveForm format samples hsize).size = 36 + 2 * samples.length := by
  simp only [Form.size, waveForm, chunkBytes, List.flatMap_cons, List.flatMap_nil,
    List.length_append, length_bytes, format.length_bytes, Samples.length_bytesOf,
    List.length_nil]
  omega

/-- The reader takes such a file, and reports what was written. -/
theorem readWave_waveForm {format : Format} {samples : List Int16}
    (hsize : 36 + 2 * samples.length < 256 ^ 4)
    (hfits : ∀ field ∈ format.fields, field.2 < 256 ^ field.1) (htag : format.tag = 1)
    (hbits : format.bitsPerSample = 16) :
    readWave (waveForm format samples hsize).bytes =
      some { riffSize := 36 + 2 * samples.length, format := format,
             dataSize := 2 * samples.length, samples := samples } := by
  have hother : ¬ formatId = dataId := by decide
  unfold readWave
  rw [readForm_bytes, size_waveForm]
  simp [waveForm, readFormat_bytes hfits, readSamples_bytesOf, htag, hbits, hother,
    guard]

end Riff
end Foundation
