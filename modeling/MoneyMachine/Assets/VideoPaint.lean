import MoneyMachine.Library.InPlace
import MoneyMachine.Library.PngFile

/-!
# VideoPaint — the screenshots of a walkthrough are decoded

The decoder reads a PNG of eight bits and three colours: chunk by chunk, then the decompressed scanlines row
by row.  A row is restored in place, each byte over bytes that are restored already, three to the left and
one row up.

* `decodePngRgb`            : the decoder;
* `rewrite_filterPixels`    : a row that is restored in place is the row that was filtered;
* `unfilterRows_encode`     : so are all rows;
* `readChunks_chunks`       : the data chunks are collected, the other ones passed over;
* `decode_inverts`          : a file with an image in it decodes to the image.
-/

namespace MoneyMachine
namespace Assets
namespace VideoPaint

open MoneyMachine.Library
open MoneyMachine.Library.PngFile
open MoneyMachine.Library.PngFilter

/-- `ValueError("png")`, `zlib.error`, or an index outside the data. -/
inductive PngError where
  | png
  | zlib
  | index
deriving DecidableEq

/-! ## Rows -/

/-- `row[index - 3] if index >= 3 else 0`. -/
def leftOf (row : Bytes) (index : Nat) : UInt8 :=
  if 3 ≤ index then row.getD (index - 3) 0 else 0

def addLeft (row : Bytes) : Bytes :=
  rewrite (fun row index => row.getD index 0 + leftOf row index) row

def addUp (row prev : Bytes) : Bytes :=
  rewrite (fun row index => row.getD index 0 + prev.getD index 0) row

def addAverage (row prev : Bytes) : Bytes :=
  rewrite (fun row index =>
    row.getD index 0 + UInt8.ofNat (((leftOf row index).toNat + (prev.getD index 0).toNat) / 2)) row

def paeth (left up upperLeft : Nat) : Nat :=
  let estimate : Int := left + up - upperLeft
  let leftDistance := (estimate - left).natAbs
  let upDistance := (estimate - up).natAbs
  let upperDistance := (estimate - upperLeft).natAbs
  if leftDistance ≤ upDistance ∧ leftDistance ≤ upperDistance then left
  else if upDistance ≤ upperDistance then up
  else upperLeft

def addPaeth (row prev : Bytes) : Bytes :=
  rewrite (fun row index =>
    row.getD index 0 +
      UInt8.ofNat (paeth (leftOf row index).toNat (prev.getD index 0).toNat (leftOf prev index).toNat)) row

/-- One row of `_unfilter`. -/
def unfilterRow (filterType : UInt8) (row prev : Bytes) : Except PngError Bytes :=
  if filterType = 1 then .ok (addLeft row)
  else if filterType = 2 then .ok (addUp row prev)
  else if filterType = 3 then .ok (addAverage row prev)
  else if filterType = 4 then .ok (addPaeth row prev)
  else if filterType ≠ 0 then .error .png
  else .ok row

/-- The rows of `_unfilter`, each over the one before it. -/
def unfilterRows (stride : Nat) : Nat → Bytes → Bytes → Except PngError (List Bytes)
  | 0, _, _ => .ok []
  | _ + 1, [], _ => .error .index
  | height + 1, filterType :: raw, prev => do
      let row ← unfilterRow filterType (raw.take stride) prev
      let rows ← unfilterRows stride height (raw.drop stride) row
      .ok (row :: rows)

def unfilter (raw : Bytes) (width height : Nat) : Except PngError Bytes :=
  let stride := width * 3
  if raw.length ≠ height * (stride + 1) then .error .png
  else do
    let rows ← unfilterRows stride height raw (List.replicate stride 0)
    .ok rows.flatten

/-! ## Chunks -/

/-- What the chunks read so far say. -/
structure Progress where
  width : Nat
  height : Nat
  idat : Bytes
  sawHeader : Bool

/-- A chunk of kind `IHDR`: `struct.unpack(">IIBBBBB", chunk)` and its checks. -/
def readHeader (chunk : Bytes) (progress : Progress) : Except PngError Progress :=
  if chunk.length ≠ 13 then .error .png
  else
    let width := Bytes.fromBigEndian (chunk.take 4)
    let height := Bytes.fromBigEndian ((chunk.drop 4).take 4)
    let bit := chunk.getD 8 0
    let colour := chunk.getD 9 0
    let comp := chunk.getD 10 0
    let filt := chunk.getD 11 0
    let inter := chunk.getD 12 0
    if bit ≠ 8 ∨ colour ≠ 2 ∨ comp ≠ 0 ∨ filt ≠ 0 ∨ inter ≠ 0 then .error .png
    else if width < 1 ∨ height < 1 then .error .png
    else .ok { progress with width := width, height := height, sawHeader := true }

def readChunk (kind chunk : Bytes) (progress : Progress) : Except PngError Progress :=
  if kind = kindHeader then readHeader chunk progress
  else if kind = kindData then .ok { progress with idat := progress.idat ++ chunk }
  else .ok progress

/-- The chunks from the position on, up to the end chunk or the end of the data. -/
def readChunks (data : Bytes) (progress : Progress) : Except PngError Progress :=
  if _h : data.length < 8 then .ok progress
  else
    let length := Bytes.fromBigEndian (data.take 4)
    let kind := (data.drop 4).take 4
    let body := data.drop 8
    if body.length < length + 4 then .error .png
    else if kind = kindEnd then .ok progress
    else
      match readChunk kind (body.take length) progress with
      | .error e => .error e
      | .ok progress => readChunks (body.drop (length + 4)) progress
termination_by data.length
decreasing_by
  simp only [List.length_drop]
  omega

/-- Decode a non-interlaced 8-bit RGB PNG.  Anything else is refused. -/
def decodePngRgb (decompress : Bytes → Option Bytes) (data : Bytes) :
    Except PngError (Nat × Nat × Bytes) :=
  if data.take 8 ≠ signature then .error .png
  else do
    let progress ← readChunks (data.drop 8) { width := 0, height := 0, idat := [], sawHeader := false }
    if progress.sawHeader = false ∨ progress.idat = [] then .error .png
    else
      match decompress progress.idat with
      | none => .error .zlib
      | some raw => do
          let pixels ← unfilter raw progress.width progress.height
          .ok (progress.width, progress.height, pixels)

/-! ## A row is restored -/

section Row

variable {row above : Bytes} {kind : UInt8} {i : Nat}

theorem leftOf_eq (row : Bytes) (i : Nat) : leftOf row i = pixelBefore 3 row i := by
  unfold leftOf pixelBefore
  by_cases h : i < 3
  · rw [if_neg (Nat.not_le.mpr h), if_pos h]
  · rw [if_pos (Nat.not_lt.mp h), if_neg h]

theorem paeth_eq (left up upperLeft : Nat) : paeth left up upperLeft = paethPredictor left up upperLeft := by
  rw [paethPredictor_eq_ite]
  rfl

/-- What is left of a position is restored when the position is reached. -/
theorem leftOf_rewritten {source : Bytes} (hi : i ≤ row.length) :
    leftOf (rewritten source row i) i = leftOf row i := by
  unfold leftOf
  split
  · rename_i h
    exact getD_rewritten_before (Nat.sub_lt (Nat.lt_of_lt_of_le (by decide) h) (by decide)) hi
  · rfl

/-- A row is restored in place when each position adds the prediction from the restored row. -/
theorem rewrite_filterPixels {value : Bytes → Nat → UInt8}
    (hvalue : ∀ (i : Nat) (cur : Bytes), leftOf cur i = leftOf row i →
      value cur i =
        cur.getD i 0 + predict kind (pixelBefore 3 row i) (above.getD i 0) (pixelBefore 3 above i)) :
    rewrite value (filterPixels 3 kind above row) = row := by
  apply rewrite_eq (length_filterPixels 3 kind above row)
  intro i hi
  calc
    value (rewritten (filterPixels 3 kind above row) row i) i
        = (filterPixels 3 kind above row).getD i 0 +
            predict kind (pixelBefore 3 row i) (above.getD i 0) (pixelBefore 3 above i) := by
          rw [hvalue i _ (leftOf_rewritten hi.le), getD_rewritten_self hi.le]
    _ = row.getD i 0 := by rw [getD_filterPixels hi, UInt8.sub_add_cancel]
    _ = row[i] := List.getD_eq_getElem _ _ hi

/-- The first filter type leaves a row as it is. -/
theorem filterPixels_none : filterPixels 3 0 above row = row := by
  apply List.ext_getElem (length_filterPixels 3 0 above row)
  intro i hi hrow
  rw [← List.getD_eq_getElem _ 0 hi, getD_filterPixels hrow, ← List.getD_eq_getElem _ 0 hrow]
  exact UInt8.sub_zero _

/-- Each filter type of a PNG is undone. -/
theorem unfilterRow_filterPixels (hkind : kind ≤ 4) :
    unfilterRow kind (filterPixels 3 kind above row) above = .ok row := by
  have hcases : kind = 0 ∨ kind = 1 ∨ kind = 2 ∨ kind = 3 ∨ kind = 4 := by
    rcases kind with ⟨bits⟩
    simp only [UInt8.le_iff_toBitVec_le] at hkind
    revert hkind
    revert bits
    decide
  rcases hcases with rfl | rfl | rfl | rfl | rfl
  · exact congrArg Except.ok filterPixels_none
  · apply congrArg Except.ok
    apply rewrite_filterPixels
    intro i cur hleft
    simp only [hleft, leftOf_eq]
    rfl
  · apply congrArg Except.ok
    apply rewrite_filterPixels
    intro i cur _
    rfl
  · apply congrArg Except.ok
    apply rewrite_filterPixels
    intro i cur hleft
    simp only [hleft, leftOf_eq]
    rfl
  · apply congrArg Except.ok
    apply rewrite_filterPixels
    intro i cur hleft
    simp only [hleft, leftOf_eq, paeth_eq]
    rfl

end Row

/-- The rows are restored from top to bottom. -/
theorem unfilterRows_encode {stride : Nat} (above : Bytes) (rows : List (UInt8 × Bytes))
    (hlength : ∀ row ∈ rows, row.2.length = stride) (hfilter : ∀ row ∈ rows, row.1 ≤ 4) :
    unfilterRows stride rows.length (encodePixelRows 3 above rows) above = .ok (rows.map Prod.snd) := by
  induction rows generalizing above with
  | nil => rfl
  | cons first rest ih =>
    rcases first with ⟨kind, row⟩
    have hrow : (filterPixels 3 kind above row).length = stride := by
      rw [length_filterPixels]
      exact hlength (kind, row) List.mem_cons_self
    have hrest := ih row (fun other hother => hlength other (List.mem_cons_of_mem _ hother))
      (fun other hother => hfilter other (List.mem_cons_of_mem _ hother))
    have hfirst : unfilterRow kind (filterPixels 3 kind above row) above = .ok row :=
      unfilterRow_filterPixels (hfilter (kind, row) List.mem_cons_self)
    rw [encodePixelRows, List.length_cons, unfilterRows, List.take_left' hrow, List.drop_left' hrow, hfirst]
    simp only [bind, Except.bind, hrest, List.map_cons]

theorem unfilter_scanlines (image : RgbImage) :
    unfilter image.scanlines image.width image.height = .ok image.pixels := by
  have hrows := unfilterRows_encode (List.replicate (image.width * 3) 0) image.rows image.row_length
    image.row_filter
  rw [image.rows_length] at hrows
  unfold unfilter
  rw [if_neg (not_not.mpr image.length_scanlines), RgbImage.scanlines, hrows]
  simp only [bind, Except.bind, RgbImage.pixels, List.flatMap]

/-! ## The chunks are read -/

section Chunks

variable {progress : Progress} {rest : Bytes}

/-- A chunk in front of other data, as the decoder takes it apart. -/
theorem chunk_parts (chunk : Chunk) :
    (chunk.bytes ++ rest).take 4 = bigEndian chunk.content.length ∧
      ((chunk.bytes ++ rest).drop 4).take 4 = chunk.kind ∧
      (chunk.bytes ++ rest).drop 8 = chunk.content ++ (chunk.checksum ++ rest) := by
  have hbytes : chunk.bytes ++ rest =
      bigEndian chunk.content.length ++ (chunk.kind ++ (chunk.content ++ (chunk.checksum ++ rest))) := by
    simp only [Chunk.bytes, List.append_assoc]
  have hdrop : (chunk.bytes ++ rest).drop 4 =
      chunk.kind ++ (chunk.content ++ (chunk.checksum ++ rest)) := by
    rw [hbytes, List.drop_left' (length_bigEndian _)]
  refine ⟨?_, ?_, ?_⟩
  · rw [hbytes, List.take_left' (length_bigEndian _)]
  · rw [hdrop, List.take_left' chunk.kind_length]
  · calc
      (chunk.bytes ++ rest).drop 8 = ((chunk.bytes ++ rest).drop 4).drop 4 := by rw [List.drop_drop]
      _ = chunk.content ++ (chunk.checksum ++ rest) := by rw [hdrop, List.drop_left' chunk.kind_length]

/-- One round of the loop on a chunk in front. -/
theorem readChunks_bytes (chunk : Chunk) :
    readChunks (chunk.bytes ++ rest) progress =
      if chunk.kind = kindEnd then .ok progress
      else
        match readChunk chunk.kind chunk.content progress with
        | .error e => .error e
        | .ok progress => readChunks rest progress := by
  obtain ⟨hlength, hkind, hbody⟩ := @chunk_parts rest chunk
  have hlong : ¬ (chunk.bytes ++ rest).length < 8 := by
    simp only [Chunk.bytes, List.length_append, length_bigEndian, chunk.kind_length]
    omega
  have hinside : ¬ (chunk.content ++ (chunk.checksum ++ rest)).length < chunk.content.length + 4 := by
    simp only [List.length_append, chunk.checksum_length]
    omega
  -- Behind the content and the checksum the other chunks follow.
  have hlater : (chunk.content ++ (chunk.checksum ++ rest)).drop (chunk.content.length + 4) = rest := by
    rw [← List.append_assoc]
    apply List.drop_left'
    rw [List.length_append, chunk.checksum_length]
  rw [readChunks, dif_neg hlong]
  simp only [hlength, hkind, hbody, fromBigEndian_bigEndian chunk.size, if_neg hinside, hlater,
    List.take_left]

/-- Only the data chunks leave something: their contents, one behind the other. -/
theorem readChunks_chunks (chunks : List Chunk)
    (hkinds : ∀ chunk ∈ chunks, chunk.kind ≠ kindHeader ∧ chunk.kind ≠ kindEnd) :
    readChunks (chunks.flatMap Chunk.bytes ++ rest) progress =
      readChunks rest { progress with idat := progress.idat ++ dataOf chunks } := by
  induction chunks generalizing progress with
  | nil => simp [dataOf]
  | cons chunk chunks ih =>
    obtain ⟨hheader, hend⟩ := hkinds chunk List.mem_cons_self
    have hrest := fun progress => @ih progress
      (fun other hother => hkinds other (List.mem_cons_of_mem _ hother))
    rw [List.flatMap_cons, List.append_assoc, readChunks_bytes, if_neg hend, readChunk, if_neg hheader]
    by_cases hdata : chunk.kind = kindData
    · rw [if_pos hdata]
      simp only [hrest, dataOf, List.filter_cons, hdata, decide_true, if_true, List.flatMap_cons,
        List.append_assoc]
    · rw [if_neg hdata]
      simp only [hrest, dataOf, List.filter_cons, hdata, decide_false, Bool.false_eq_true, if_false]

/-- The header gives the size of the image. -/
theorem readHeader_header (image : RgbImage) :
    readHeader image.header progress =
      .ok { progress with width := image.width, height := image.height, sawHeader := true } := by
  have hlength : image.header.length = 13 := rfl
  have hwidth : Bytes.fromBigEndian (image.header.take 4) = image.width :=
    fromBigEndian_bigEndian image.width_lt
  have hheight : Bytes.fromBigEndian ((image.header.drop 4).take 4) = image.height :=
    fromBigEndian_bigEndian image.height_lt
  have hpositive : ¬ (image.width < 1 ∨ image.height < 1) :=
    not_or.mpr ⟨Nat.not_lt.mpr image.width_pos, Nat.not_lt.mpr image.height_pos⟩
  have hkinds : ¬ (image.header.getD 8 0 ≠ 8 ∨ image.header.getD 9 0 ≠ 2 ∨ image.header.getD 10 0 ≠ 0 ∨
      image.header.getD 11 0 ≠ 0 ∨ image.header.getD 12 0 ≠ 0) := by
    have h8 : image.header.getD 8 0 = 8 := rfl
    have h9 : image.header.getD 9 0 = 2 := rfl
    have h10 : image.header.getD 10 0 = 0 := rfl
    have h11 : image.header.getD 11 0 = 0 := rfl
    have h12 : image.header.getD 12 0 = 0 := rfl
    simp only [h8, h9, h10, h11, h12, ne_eq, not_true_eq_false, or_self, not_false_eq_true]
  unfold readHeader
  rw [if_neg (not_not.mpr hlength)]
  simp only [hwidth, hheight, if_neg hkinds, if_neg hpositive]

end Chunks

/-! ## The decoder -/

/-- A file with an image in it is read up to its end. -/
theorem readChunks_file {compress : Bytes → Bytes} {image : RgbImage} (file : RgbFile compress image)
    (progress : Progress) :
    readChunks (file.header.bytes ++ (file.chunks.flatMap Chunk.bytes ++ file.last.bytes)) progress =
      .ok { width := image.width
            height := image.height
            idat := progress.idat ++ compress image.scanlines
            sawHeader := true } := by
  have hnotEnd : file.header.kind ≠ kindEnd := by
    rw [file.header_kind]
    decide
  have hlast := fun progress => @readChunks_bytes progress [] file.last
  simp only [if_pos file.last_kind, List.append_nil] at hlast
  rw [readChunks_bytes, if_neg hnotEnd, readChunk, if_pos file.header_kind, file.header_content,
    readHeader_header]
  simp only
  rw [readChunks_chunks file.chunks file.inner_kinds, hlast, file.data]

/-- Decompression undoes compression, and refuses a stream with nothing in it. -/
structure Inverts (compress : Bytes → Bytes) (decompress : Bytes → Option Bytes) : Prop where
  decompress_compress : ∀ raw, decompress (compress raw) = some raw
  empty_refused : decompress [] = none

/-- A file with an image in it decodes to the image, whatever the filters, the pieces of the compressed
scanlines and the chunks between them. -/
theorem decode_inverts (compress : Bytes → Bytes) (decompress : Bytes → Option Bytes)
    (hzlib : Inverts compress decompress) (image : RgbImage) (file : RgbFile compress image) :
    decodePngRgb decompress file.bytes = .ok (image.width, image.height, image.pixels) := by
  have hidat : compress image.scanlines ≠ [] := by
    intro hempty
    have hnone := hzlib.empty_refused
    rw [← hempty, hzlib.decompress_compress] at hnone
    cases hnone
  have hsignature : file.bytes.take 8 = signature := List.take_left' rfl
  have hchunks : file.bytes.drop 8 =
      file.header.bytes ++ (file.chunks.flatMap Chunk.bytes ++ file.last.bytes) := List.drop_left' rfl
  unfold decodePngRgb
  rw [if_neg (not_not.mpr hsignature), hchunks, readChunks_file]
  simp only [bind, Except.bind, List.nil_append, hidat, or_false, Bool.true_eq_false, if_false,
    hzlib.decompress_compress, unfilter_scanlines]

/-! ### A file of two pixels by two -/

/-- The checksum at the end of a compressed stream. -/
def adler32 (raw : Bytes) : Bytes :=
  let sums := raw.foldl (fun (a, b) x => ((a + x.toNat) % 65521, (b + a + x.toNat) % 65521)) (1, 0)
  bigEndian (sums.2 * 65536 + sums.1)

/-- A compressed stream with its content stored in one block. -/
def stored (raw : Bytes) : Bytes :=
  let low := UInt8.ofNat raw.length
  let high := UInt8.ofNat (raw.length / 256)
  [0x78, 0x01, 0x01, low, high, 255 - low, 255 - high] ++ (raw ++ adler32 raw)

/-- The content of a stored block. -/
def unstored (data : Bytes) : Option Bytes :=
  if data.length < 11 then none else some ((data.drop 7).take (data.length - 11))

theorem stored_inverts : Inverts stored unstored where
  decompress_compress := by
    intro raw
    have hlength : (stored raw).length = raw.length + 11 := by
      simp only [stored, adler32, List.length_append, List.length_cons, List.length_nil, length_bigEndian]
      omega
    have hdrop : (stored raw).drop 7 = raw ++ adler32 raw := rfl
    rw [unstored, if_neg (by omega), hdrop, hlength, Nat.add_sub_cancel, List.take_left]
  empty_refused := rfl

/-- Two rows of two pixels, the second one by the Paeth filter. -/
def smallImage : RgbImage where
  width := 2
  height := 2
  rows := [(1, [250, 10, 20, 30, 40, 50]), (4, [1, 2, 3, 200, 100, 0])]
  width_pos := by decide
  height_pos := by decide
  width_lt := by decide
  height_lt := by decide
  rows_length := by decide
  row_length := by decide
  row_filter := by decide

/-- The scanlines in two pieces, with a text between them. -/
def smallFile : RgbFile stored smallImage where
  header :=
    { kind := kindHeader
      content := smallImage.header
      checksum := [0, 0, 0, 0]
      kind_length := by decide
      checksum_length := by decide
      size := by decide }
  chunks :=
    [{ kind := kindData
       content := (stored smallImage.scanlines).take 9
       checksum := [0, 0, 0, 0]
       kind_length := by decide
       checksum_length := by decide
       size := by decide },
     { kind := [0x74, 0x45, 0x58, 0x74]
       content := [0x61, 0, 0x62]
       checksum := [0, 0, 0, 0]
       kind_length := by decide
       checksum_length := by decide
       size := by decide },
     { kind := kindData
       content := (stored smallImage.scanlines).drop 9
       checksum := [0, 0, 0, 0]
       kind_length := by decide
       checksum_length := by decide
       size := by decide }]
  last :=
    { kind := kindEnd
      content := []
      checksum := [0, 0, 0, 0]
      kind_length := by decide
      checksum_length := by decide
      size := by decide }
  header_kind := rfl
  header_content := rfl
  last_kind := rfl
  inner_kinds := by decide
  data := by decide +kernel

theorem decode_inverts_small :
    decodePngRgb unstored smallFile.bytes =
      .ok (2, 2, [250, 10, 20, 30, 40, 50, 1, 2, 3, 200, 100, 0]) :=
  decode_inverts stored unstored stored_inverts smallImage smallFile

end VideoPaint
end Assets
end MoneyMachine
