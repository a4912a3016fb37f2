import RemoteWrite.Text.Utf8

/-!
Contract: the UTF-8 bytes of a text are read back as the text.

Owns:
- the length of the bytes and their strict reading;
- the bytes of texts that are put together, down to single characters;
- visible ASCII text as bytes and back.

Does not own: the lossy reading of bytes that are no text.
-/

namespace RemoteWrite.Text

private theorem toArray_utf8 (text : String) :
    (⟨(utf8 text).toArray⟩ : ByteArray) = text.toByteArray := by
  simp [utf8]

theorem length_utf8 (text : String) : (utf8 text).length = text.utf8ByteSize := by
  rw [← String.size_toByteArray, ← toArray_utf8]
  rfl

theorem ofUtf8?_utf8 (text : String) : ofUtf8? (utf8 text) = some text := by
  rw [ofUtf8?, toArray_utf8, String.fromUTF8?, dif_pos text.isValidUTF8]
  rfl

theorem utf8_inj {left right : String} : utf8 left = utf8 right ↔ left = right := by
  constructor
  · intro same
    have read := ofUtf8?_utf8 left
    rw [same, ofUtf8?_utf8] at read
    exact (Option.some.inj read).symm
  · rintro rfl
    rfl

/-! ## Characters -/

theorem toNat_ofNat {code : Nat} (valid : code.isValidChar) : (Char.ofNat code).toNat = code := by
  rw [Char.ofNat, dif_pos valid]
  rfl

theorem utf8_append (front rest : String) : utf8 (front ++ rest) = utf8 front ++ utf8 rest := by
  show (front ++ rest).toByteArray.data.toList = _
  rw [String.toByteArray_append, ByteArray.data_append, Array.toList_append]
  rfl

theorem utf8_singleton (c : Char) : utf8 (.singleton c) = String.utf8EncodeChar c := by
  show (String.ofList [c]).toByteArray.data.toList = _
  rw [String.toByteArray_ofList, List.utf8Encode_singleton, List.data_toByteArray]

theorem utf8_cons (c : Char) (rest : List Char) :
    utf8 (String.ofList (c :: rest)) =
      String.utf8EncodeChar c ++ utf8 (String.ofList rest) := by
  rw [String.ofList_cons, utf8_append, utf8_singleton]

theorem utf8EncodeChar_of_le {c : Char} (ascii : c.toNat ≤ 127) :
    String.utf8EncodeChar c = [UInt8.ofNat c.toNat] := by
  have size : c.utf8Size = 1 :=
    Char.utf8Size_eq_one_iff.mpr (UInt32.le_iff_toNat_le.mpr ascii)
  rw [String.utf8EncodeChar_eq_singleton size]
  exact congrArg (· :: []) (UInt8.ofNat_uInt32ToNat _).symm

/-! ## Visible text -/

/-- A character that header values may show: visible ASCII, a space, or a
tab. -/
def IsVisible (c : Char) : Prop :=
  c.toNat = 0x09 ∨ 0x20 ≤ c.toNat ∧ c.toNat ≤ 0x7E

namespace IsVisible

variable {c : Char}

theorem toNat_le (visible : IsVisible c) : c.toNat ≤ 127 := by
  rcases visible with tab | ⟨_, high⟩
  · omega
  · omega

theorem toNat_byte (visible : IsVisible c) : (UInt8.ofNat c.toNat).toNat = c.toNat := by
  have code := visible.toNat_le
  rw [UInt8.toNat_ofNat']
  omega

theorem isVisibleAscii_byte (visible : IsVisible c) :
    isVisibleAscii (UInt8.ofNat c.toNat) = true := by
  have byte := visible.toNat_byte
  rw [isVisibleAscii, Bool.or_eq_true, Bool.and_eq_true, decide_eq_true_eq, decide_eq_true_eq,
    decide_eq_true_eq, ← UInt8.toNat_inj, UInt8.le_iff_toNat_le, UInt8.le_iff_toNat_le, byte]
  exact visible

theorem utf8EncodeChar_eq (visible : IsVisible c) :
    String.utf8EncodeChar c = [UInt8.ofNat c.toNat] :=
  utf8EncodeChar_of_le visible.toNat_le

end IsVisible

theorem utf8_of_visible {text : List Char} (visible : ∀ c ∈ text, IsVisible c) :
    utf8 (String.ofList text) = text.map fun c => UInt8.ofNat c.toNat := by
  induction text with
  | nil => rfl
  | cons c rest inductionHypothesis =>
      rw [utf8_cons, (visible c List.mem_cons_self).utf8EncodeChar_eq,
        inductionHypothesis fun other member => visible other (List.mem_cons_of_mem c member)]
      rfl

/-- Visible text is a readable header value. -/
theorem visible?_utf8 {text : List Char} (visible : ∀ c ∈ text, IsVisible c) :
    visible? (utf8 (String.ofList text)) = some (String.ofList text) := by
  have shown : (utf8 (String.ofList text)).all isVisibleAscii = true := by
    rw [utf8_of_visible visible, List.all_map, List.all_eq_true]
    intro c member
    exact (visible c member).isVisibleAscii_byte
  have back : (utf8 (String.ofList text)).map (fun byte => Char.ofNat byte.toNat) = text := by
    rw [utf8_of_visible visible, List.map_map]
    refine (List.map_congr_left fun c member => ?_).trans (List.map_id text)
    show Char.ofNat (UInt8.ofNat c.toNat).toNat = c
    rw [(visible c member).toNat_byte, Char.ofNat_toNat]
  rw [visible?, if_pos shown, back]

theorem toNat_char_of_isVisibleAscii {byte : UInt8} (shown : isVisibleAscii byte = true) :
    (Char.ofNat byte.toNat).toNat = byte.toNat ∧ IsVisible (Char.ofNat byte.toNat) := by
  rw [isVisibleAscii, Bool.or_eq_true, Bool.and_eq_true, decide_eq_true_eq, decide_eq_true_eq,
    decide_eq_true_eq, ← UInt8.toNat_inj, UInt8.le_iff_toNat_le, UInt8.le_iff_toNat_le] at shown
  have code : (Char.ofNat byte.toNat).toNat = byte.toNat :=
    toNat_ofNat (.inl (by have := byte.toNat_lt; omega))
  refine ⟨code, ?_⟩
  rw [IsVisible, code]
  exact shown

/-- Header values that read as text are the bytes of visible text. -/
theorem utf8_of_visible?_eq_some {bytes : Bytes} {text : String}
    (read : visible? bytes = some text) :
    bytes = utf8 text ∧ ∀ c ∈ text.toList, IsVisible c := by
  rw [visible?, Option.ite_none_right_eq_some, Option.some.injEq] at read
  obtain ⟨shown, rfl⟩ := read
  rw [List.all_eq_true] at shown
  have visible : ∀ c ∈ bytes.map fun byte => Char.ofNat byte.toNat, IsVisible c := by
    intro c member
    obtain ⟨byte, present, rfl⟩ := List.mem_map.mp member
    exact (toNat_char_of_isVisibleAscii (shown byte present)).2
  refine ⟨?_, by rwa [String.toList_ofList]⟩
  rw [utf8_of_visible visible, List.map_map]
  refine ((List.map_congr_left fun byte present => ?_).trans (List.map_id bytes)).symm
  show UInt8.ofNat (Char.ofNat byte.toNat).toNat = byte
  rw [(toNat_char_of_isVisibleAscii (shown byte present)).1, UInt8.ofNat_toNat]

end RemoteWrite.Text
