import MoneyMachine.Library.Bytes
import MoneyMachine.Library.PngFilter

/-!
# PngFile — the chunks of a PNG file

A PNG file is a signature and chunks: a header, chunks of any kinds among which the ones of kind `IDAT`
carry the compressed scanlines in pieces, and an end.

* `bigEndian`  : a number in four bytes, read back by `fromBigEndian_bigEndian`;
* `Chunk`      : a chunk that can be written: its length fits four bytes;
* `RgbImage`   : rows of pixels of three bytes, each with the filter type it is written with;
* `RgbFile`    : the chunks of a file and the image in it.
-/

namespace MoneyMachine
namespace Library
namespace PngFile

open PngFilter

/-- A number below `2 ^ 32` in four bytes. -/
def bigEndian (n : Nat) : Bytes :=
  [UInt8.ofNat (n / 2 ^ 24), UInt8.ofNat (n / 2 ^ 16), UInt8.ofNat (n / 2 ^ 8), UInt8.ofNat n]

theorem fromBigEndian_bigEndian {n : Nat} (h : n < 2 ^ 32) : Bytes.fromBigEndian (bigEndian n) = n := by
  have hvalue : Bytes.fromBigEndian (bigEndian n) =
      256 * (256 * (256 * (256 * 0 + n / 2 ^ 24 % 256) + n / 2 ^ 16 % 256) + n / 2 ^ 8 % 256) + n % 256 := rfl
  rw [hvalue]
  omega

@[simp]
theorem length_bigEndian (n : Nat) : (bigEndian n).length = 4 := rfl

def signature : Bytes := [0x89, 0x50, 0x4E, 0x47, 0x0D, 0x0A, 0x1A, 0x0A]

def kindHeader : Bytes := [0x49, 0x48, 0x44, 0x52]
def kindData : Bytes := [0x49, 0x44, 0x41, 0x54]
def kindEnd : Bytes := [0x49, 0x45, 0x4E, 0x44]

/-- A chunk that can be written. -/
structure Chunk where
  kind : Bytes
  content : Bytes
  checksum : Bytes
  kind_length : kind.length = 4
  checksum_length : checksum.length = 4
  size : content.length < 2 ^ 32

def Chunk.bytes (chunk : Chunk) : Bytes :=
  bigEndian chunk.content.length ++ (chunk.kind ++ (chunk.content ++ chunk.checksum))

/-- An image of three bytes a pixel, with a filter type for each row. -/
structure RgbImage where
  width : Nat
  height : Nat
  rows : List (UInt8 × Bytes)
  width_pos : 1 ≤ width
  height_pos : 1 ≤ height
  width_lt : width < 2 ^ 32
  height_lt : height < 2 ^ 32
  rows_length : rows.length = height
  row_length : ∀ row ∈ rows, row.2.length = width * 3
  row_filter : ∀ row ∈ rows, row.1 ≤ 4

/-- The pixels, row after row. -/
def RgbImage.pixels (image : RgbImage) : Bytes := image.rows.flatMap Prod.snd

/-- The rows as they are compressed: each behind its filter type, against the row above it. -/
def RgbImage.scanlines (image : RgbImage) : Bytes :=
  encodePixelRows 3 (List.replicate (image.width * 3) 0) image.rows

theorem RgbImage.length_scanlines (image : RgbImage) :
    image.scanlines.length = image.height * (image.width * 3 + 1) := by
  rw [scanlines, length_encodePixelRows _ image.rows image.row_length, image.rows_length]

/-- What a header says of an image: eight bits, three colours, no interlacing. -/
def RgbImage.header (image : RgbImage) : Bytes :=
  bigEndian image.width ++ (bigEndian image.height ++ [8, 2, 0, 0, 0])

/-- The pieces of the compressed scanlines. -/
def dataOf (chunks : List Chunk) : Bytes :=
  (chunks.filter (fun chunk => decide (chunk.kind = kindData))).flatMap Chunk.content

/-- A file with an image in it, compressed by some function. -/
structure RgbFile (compress : Bytes → Bytes) (image : RgbImage) where
  header : Chunk
  chunks : List Chunk
  last : Chunk
  header_kind : header.kind = kindHeader
  header_content : header.content = image.header
  last_kind : last.kind = kindEnd
  inner_kinds : ∀ chunk ∈ chunks, chunk.kind ≠ kindHeader ∧ chunk.kind ≠ kindEnd
  /-- Whatever the pieces are, together they are the compressed scanlines. -/
  data : dataOf chunks = compress image.scanlines

def RgbFile.bytes {compress : Bytes → Bytes} {image : RgbImage} (file : RgbFile compress image) : Bytes :=
  signature ++ (file.header.bytes ++ (file.chunks.flatMap Chunk.bytes ++ file.last.bytes))

end PngFile
end Library
end MoneyMachine
