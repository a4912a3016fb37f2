import RemoteWrite.Proofs.Wire.Field

/-!
Contract: what it means that bytes are skipped as the value of a field that is
not declared.

A value ends where its wire type says. A group ends at the end key with its own
number, and what is in it is skipped field by field, with less recursion budget
than the group had.

Owns:
- skipping bytes in front of any others;
- the values of every wire type, groups included.

Does not own: which bytes a decoder skips, or how deep groups are nested.
-/

namespace RemoteWrite.Wire

theorem Input.skip_append (front rest : Bytes) :
    (ofBytes (front ++ rest)).skip front.length = .ok (ofBytes rest) := by
  have fits : front.length ≤ (ofBytes (front ++ rest)).size := by simp
  rw [skip, if_pos fits, drop_append]

/-- Some bytes, in front of any others, are skipped. -/
def Skips {ε : Type} (skip : Input → Except ε Input) (bytes : Bytes) : Prop :=
  ∀ rest, skip (.ofBytes (bytes ++ rest)) = .ok (.ofBytes rest)

section Groups

variable {skip : Key → Input → Except Fault Input} {number : Nat}

theorem skips_groupEnd {bytes : Bytes} (reads : Reads Key.read bytes ⟨number, .endGroup⟩) :
    Skips (skipGroup skip number) bytes := by
  intro rest
  rw [skipGroup, reads rest]
  simp only [↓reduceIte]

theorem skips_groupField {key : Key} {keyBytes payload bytes : Bytes}
    (reads : Reads Key.read keyBytes key) (notEnd : key.wireType ≠ .endGroup)
    (skips : Skips (skip key) payload) (others : Skips (skipGroup skip number) bytes) :
    Skips (skipGroup skip number) (keyBytes ++ payload ++ bytes) := by
  intro rest
  have keyLength : 0 < keyBytes.length := List.length_pos_iff.mpr (reads_key_ne_nil reads)
  have shorter : (Input.ofBytes (bytes ++ rest)).size <
      (Input.ofBytes (keyBytes ++ (payload ++ (bytes ++ rest)))).size := by
    simp only [Input.ofBytes_size, List.length_append]
    omega
  rw [List.append_assoc, List.append_assoc, skipGroup,
    reads (payload ++ (bytes ++ rest))]
  simp only [notEnd, ↓reduceIte, skips (bytes ++ rest), shorter, others rest]

end Groups

section Fields

variable {budget number : Nat}

theorem skips_varint {bytes : Bytes} {value : UInt64} (reads : Reads readVarint bytes value) :
    Skips (skipField (budget + 1) ⟨number, .varint⟩) bytes := by
  intro rest
  simp only [skipField, reads rest]

theorem skips_sixtyFourBit {bytes : Bytes} (length : bytes.length = 8) :
    Skips (skipField (budget + 1) ⟨number, .sixtyFourBit⟩) bytes := by
  intro rest
  simp only [skipField, ← length, Input.skip_append]

theorem skips_thirtyTwoBit {bytes : Bytes} (length : bytes.length = 4) :
    Skips (skipField (budget + 1) ⟨number, .thirtyTwoBit⟩) bytes := by
  intro rest
  simp only [skipField, ← length, Input.skip_append]

theorem skips_lengthDelimited {lengthBytes bytes : Bytes} {length : UInt64}
    (announced : Reads readVarint lengthBytes length) (exact : length.toNat = bytes.length) :
    Skips (skipField (budget + 1) ⟨number, .lengthDelimited⟩) (lengthBytes ++ bytes) := by
  intro rest
  simp only [skipField, List.append_assoc, announced (bytes ++ rest), exact, Input.skip_append]

theorem skips_startGroup {bytes : Bytes}
    (skips : Skips (skipGroup (skipField budget) number) bytes) :
    Skips (skipField (budget + 1) ⟨number, .startGroup⟩) bytes := by
  intro rest
  simp only [skipField, skips rest]

end Fields

end RemoteWrite.Wire
