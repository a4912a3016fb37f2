import RemoteWrite.Proofs.Compression
import RemoteWrite.Proofs.Snappy.Size

/-!
Contract: one buffer serves any number of compressions.

The buffer grows to the worst case for the data before anything is written
into it, and no block takes up more than that. So writing never changes the
length of the buffer, and what earlier blocks left behind is not part of the
new one.

Owns:
- the buffer after a number of compressions;
- what the next compression yields, and the length of the buffer after it.

Does not own: the size of blocks.
-/

namespace RemoteWrite

namespace Compression

variable (compression : Compression)

/-- A buffer only grows, and exactly to the worst case for the data. -/
theorem length_buffer_compress {data buffer : Bytes} {compressed : Compressed}
    (compresses : compression.compress data buffer = .ok compressed) :
    compressed.buffer.length = max buffer.length (Snappy.worstCase data.length) := by
  cases compression with
  | snappy =>
      unfold compress Snappy.compress? at compresses
      by_cases short : Snappy.worstCase data.length ≤ Snappy.maxLength
      · rw [if_pos short] at compresses
        cases compresses
        have fits : data.length ≤ Snappy.maxLength := by
          unfold Snappy.worstCase at short
          omega
        have block : (Snappy.write data).length ≤
            (Buffer.grow (Snappy.worstCase data.length) buffer).length := by
          rw [Buffer.length_grow]
          exact Nat.le_trans (Snappy.length_write_le fits) (Nat.le_max_right _ _)
        exact (Buffer.length_overwrite block).trans (Buffer.length_grow _ _)
      · rw [if_neg short] at compresses
        cases compresses

/-- The buffer after data was compressed into it. A compression that fails
leaves it as it is. -/
def bufferAfter (buffer data : Bytes) : Bytes :=
  match compression.compress data buffer with
  | .ok compressed => compressed.buffer
  | .error _ => buffer

/-- The buffer after a number of inputs, one after the other. -/
def reused (buffer : Bytes) (inputs : List Bytes) : Bytes :=
  inputs.foldl compression.bufferAfter buffer

/-- Data that is compressed after any other inputs, into a buffer of any
contents. Its block depends on neither, is no longer than the worst case, and
gives the data back. -/
theorem compress_reused (buffer : Bytes) (earlier : List Bytes) (data : Bytes)
    (fits : 32 + data.length + data.length / 6 < 2 ^ 32) :
    let before := compression.reused buffer earlier
    ∃ compressed, compression.compress data before = .ok compressed ∧
      compressed.bytes.length ≤ 32 + data.length + data.length / 6 ∧
      compression.decompress compressed.bytes = .ok data ∧
      compression.announcedLength compressed.bytes = .ok data.length ∧
      (∀ other : Bytes, (compression.compress data other).map Compressed.bytes =
        .ok compressed.bytes) ∧
      compression.reused buffer (earlier ++ [data]) = compressed.buffer ∧
      compressed.buffer.length = max before.length (32 + data.length + data.length / 6) := by
  intro before
  have short : data.length ≤ Snappy.maxLength := by
    unfold Snappy.maxLength
    omega
  obtain ⟨compressed, compresses, block⟩ := compression.compress_eq fits before
  refine ⟨compressed, compresses, ?_, ?_, ?_, ?_, ?_, ?_⟩
  · rw [block]
    exact Snappy.length_write_le short
  · rw [block]
    exact compression.decompress_block short
  · rw [block]
    exact compression.announcedLength_block short
  · intro other
    obtain ⟨again, compressesAgain, sameBlock⟩ := compression.compress_eq fits other
    rw [compressesAgain, Except.map, sameBlock, block]
  · unfold reused
    rw [List.foldl_append, List.foldl_cons, List.foldl_nil]
    show compression.bufferAfter before data = compressed.buffer
    unfold bufferAfter
    rw [compresses]
  · exact compression.length_buffer_compress compresses

/-- Five bytes after three hundred that repeat, in a buffer that was full of
other bytes. -/
theorem compress_reused_shorter :
    let buffer : Bytes := List.replicate 100 0xFF
    let long : Bytes := List.replicate 300 7
    let short : Bytes := [1, 2, 3, 4, 5]
    let before := snappy.reused buffer [long]
    32 + short.length + short.length / 6 < 2 ^ 32 ∧ before.length = 382 ∧
      ∃ compressed, snappy.compress short before = .ok compressed ∧
        compressed.bytes.length ≤ 37 ∧ snappy.decompress compressed.bytes = .ok short ∧
        snappy.announcedLength compressed.bytes = .ok 5 ∧ compressed.buffer.length = 382 := by
  intro buffer long short before
  have full : buffer.length = 100 := List.length_replicate
  have repeats : long.length = 300 := List.length_replicate
  have five : short.length = 5 := rfl
  have longFits : 32 + long.length + long.length / 6 < 2 ^ 32 := by
    rw [repeats]
    decide
  obtain ⟨first, _, _, _, _, _, after, grown⟩ := snappy.compress_reused buffer [] long longFits
  have held : before.length = 382 := by
    calc before.length = first.buffer.length := congrArg List.length after
      _ = max buffer.length (32 + long.length + long.length / 6) := grown
      _ = 382 := by rw [full, repeats]; rfl
  obtain ⟨compressed, compresses, bound, restored, announced, _, _, kept⟩ :=
    snappy.compress_reused buffer [long] short (by decide)
  rw [five] at bound announced kept
  refine ⟨by decide, held, compressed, compresses, bound, restored, announced, ?_⟩
  calc compressed.buffer.length = max before.length 37 := kept
    _ = 382 := by rw [held]; rfl

end Compression
end RemoteWrite
