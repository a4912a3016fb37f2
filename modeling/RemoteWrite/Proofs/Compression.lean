import RemoteWrite.Compression
import RemoteWrite.Proofs.Snappy.RoundTrip

/-!
Contract: compressed data comes back, whatever the buffer held before.

Owns:
- the bytes of a finished compression;
- their announced length and their decompression;
- the length of whatever is decompressed.

Does not own: data that is too long to be compressed.
-/

namespace RemoteWrite.Compression

variable (compression : Compression) {data : Bytes}

/-- The front of the buffer is the block, and nothing of it depends on what
the buffer held. -/
theorem compress_eq (fits : Snappy.worstCase data.length < 2 ^ 32) (buffer : Bytes) :
    ∃ compressed, compression.compress data buffer = .ok compressed ∧
      compressed.bytes = Snappy.write data := by
  have short : Snappy.worstCase data.length ≤ Snappy.maxLength := Nat.le_sub_one_of_lt fits
  cases compression with
  | snappy =>
      refine ⟨_, by rw [compress, Snappy.compress?, if_pos short], ?_⟩
      rw [Compressed.bytes, Buffer.overwrite, List.take_left' rfl]

theorem announcedLength_block (fits : data.length ≤ Snappy.maxLength) :
    compression.announcedLength (Snappy.write data) = .ok data.length := by
  cases compression with
  | snappy => rw [announcedLength, Snappy.announcedLength_write fits]

theorem decompress_block (fits : data.length ≤ Snappy.maxLength) :
    compression.decompress (Snappy.write data) = .ok data := by
  cases compression with
  | snappy => rw [decompress, Snappy.decompress_write fits]

/-- Decompressed data is as long as announced, whoever made the block. -/
theorem announcedLength_of_decompress {block plain : Bytes}
    (read : compression.decompress block = .ok plain) :
    compression.announcedLength block = .ok plain.length := by
  cases compression with
  | snappy =>
      simp only [decompress] at read
      cases found : Snappy.decompress? block with
      | none =>
          rw [found] at read
          cases read
      | some result =>
          rw [found] at read
          cases read
          simp only [announcedLength, Snappy.announcedLength_of_decompress found]

end RemoteWrite.Compression
