import RemoteWrite.Proofs.Text.Utf8

/-!
Contract: the lossy reading of bytes keeps what is text.

Owns:
- wide characters as a lead byte and the continuation bytes it announces;
- text in front of any bytes, which is read as it is;
- what is shown of a text whose bytes are cut;
- how much longer than the bytes the reading can be.

Does not own: who cuts bytes, and where.
-/

namespace RemoteWrite.Text

/-! ## Continuation bytes -/

/-- The continuation byte for the last six bits of a number. -/
def tailByte (bits : Nat) : UInt8 := UInt8.ofNat (bits % 64 + 128)

theorem toNat_tailByte (bits : Nat) : (tailByte bits).toNat = bits % 64 + 128 := by
  rw [tailByte, UInt8.toNat_ofNat']
  omega

theorem isContinuation_tailByte (bits : Nat) : isContinuation (tailByte bits) = true := by
  simp only [isContinuation, Bool.and_eq_true, decide_eq_true_eq, UInt8.le_iff_toNat_le,
    toNat_tailByte, UInt8.reduceToNat]
  omega

/-- The bits of a continuation byte behind those in front of it. -/
def withTail (bits : Nat) (byte : UInt8) : Nat := bits * 64 + (byte.toNat - 0x80)

theorem withTail_tailByte (front bits : Nat) :
    withTail front (tailByte bits) = front * 64 + bits % 64 := by
  have code := toNat_tailByte bits
  show front * 64 + ((tailByte bits).toNat - 0x80) = _
  omega

theorem readContinuations_append {tail : Bytes}
    (continues : ∀ byte ∈ tail, isContinuation byte = true) (bits : Nat) (rest : Bytes) :
    readContinuations tail.length bits (tail ++ rest) =
      (some (tail.foldl withTail bits), rest) := by
  induction tail generalizing bits with
  | nil => rfl
  | cons byte tail inductionHypothesis =>
      rw [List.length_cons, List.cons_append, readContinuations,
        if_pos (continues byte List.mem_cons_self), List.foldl_cons]
      exact inductionHypothesis (fun other member => continues other (.tail byte member))
        (withTail bits byte)

/-- Continuation bytes that end too soon are read up to their end. -/
theorem readContinuations_of_lt {tail : Bytes} {count : Nat}
    (continues : ∀ byte ∈ tail, isContinuation byte = true) (short : tail.length < count)
    (bits : Nat) : readContinuations count bits tail = (none, []) := by
  induction tail generalizing count bits with
  | nil =>
      obtain ⟨count, rfl⟩ := Nat.exists_eq_succ_of_ne_zero (Nat.ne_of_gt short)
      rfl
  | cons byte tail inductionHypothesis =>
      have more : count ≠ 0 := Nat.ne_of_gt (Nat.zero_lt_of_lt short)
      obtain ⟨count, rfl⟩ := Nat.exists_eq_succ_of_ne_zero more
      rw [readContinuations, if_pos (continues byte List.mem_cons_self)]
      exact inductionHypothesis (fun other member => continues other (.tail byte member))
        (Nat.lt_of_succ_lt_succ short) _

/-! ## Lead bytes -/

theorem lead?_of_two {byte : UInt8} (low : 0xC2 ≤ byte.toNat) (high : byte.toNat ≤ 0xDF) :
    lead? byte = some ⟨1, byte.toNat - 0xC0, 0x80, 0xBF⟩ := by
  simp only [lead?, UInt8.le_iff_toNat_le, ← UInt8.toNat_inj, Bool.and_eq_true, decide_eq_true_eq]
  exact if_pos ⟨low, high⟩

/-- Lead bytes of three: the first one allows no short forms, and another one
no surrogates. -/
theorem lead?_of_three {byte : UInt8} (low : 0xE0 ≤ byte.toNat) (high : byte.toNat ≤ 0xEF) :
    lead? byte = some ⟨2, byte.toNat - 0xE0, if byte.toNat = 0xE0 then 0xA0 else 0x80,
      if byte.toNat = 0xED then 0x9F else 0xBF⟩ := by
  simp only [lead?, UInt8.le_iff_toNat_le, ← UInt8.toNat_inj, Bool.and_eq_true, decide_eq_true_eq,
    UInt8.reduceToNat]
  grind

theorem lead?_of_four {byte : UInt8} (low : 0xF0 ≤ byte.toNat) (high : byte.toNat ≤ 0xF4) :
    lead? byte = some ⟨3, byte.toNat - 0xF0, if byte.toNat = 0xF0 then 0x90 else 0x80,
      if byte.toNat = 0xF4 then 0x8F else 0xBF⟩ := by
  simp only [lead?, UInt8.le_iff_toNat_le, ← UInt8.toNat_inj, Bool.and_eq_true, decide_eq_true_eq,
    UInt8.reduceToNat]
  grind

/-! ## Wide characters -/

/-- A character that is not ASCII is spelled by a lead byte, a second byte in
the range that this one allows, and as many more as it announces. -/
structure IsSpelled (c : Char) (first : UInt8) (lead : Lead) (second : UInt8)
    (tail : Bytes) : Prop where
  bytes : String.utf8EncodeChar c = first :: second :: tail
  wide : ¬first < 0x80
  announces : lead? first = some lead
  allows : (lead.secondLow ≤ second && second ≤ lead.secondHigh) = true
  counts : lead.continuations - 1 = tail.length
  continues : ∀ byte ∈ tail, isContinuation byte = true
  spells : tail.foldl withTail (withTail lead.bits second) = c.toNat

/-- Surrogates are no characters, nor is anything from `0x110000` on. -/
theorem isValidChar_toNat (c : Char) :
    c.toNat < 0xD800 ∨ 0xDFFF < c.toNat ∧ c.toNat < 0x110000 :=
  c.valid

theorem not_lt_of_le_toNat {byte : UInt8} (high : 0x80 ≤ byte.toNat) : ¬byte < 0x80 := by
  rw [UInt8.lt_iff_toNat_lt]
  exact Nat.not_lt_of_le high

theorem allows_iff {low high byte : UInt8} :
    (low ≤ byte && byte ≤ high) = true ↔
      low.toNat ≤ byte.toNat ∧ byte.toNat ≤ high.toNat := by
  rw [Bool.and_eq_true, decide_eq_true_eq, decide_eq_true_eq, UInt8.le_iff_toNat_le,
    UInt8.le_iff_toNat_le]

theorem exists_isSpelled_two {c : Char} (low : 0x7F < c.toNat) (high : c.toNat ≤ 0x7FF) :
    ∃ first lead second tail, IsSpelled c first lead second tail := by
  have bytes := String.utf8EncodeChar.eq_1 c
  simp only [Char.toNat_val, if_neg (Nat.not_le_of_lt low), if_pos high] at bytes
  have code : (UInt8.ofNat (c.toNat / 64 % 32 + 192)).toNat = c.toNat / 64 + 192 := by
    rw [UInt8.toNat_ofNat']
    omega
  refine ⟨_, _, tailByte c.toNat, [], bytes, ?_, lead?_of_two ?_ ?_, ?_, rfl, nofun, ?_⟩
  · exact not_lt_of_le_toNat (by omega)
  · omega
  · omega
  · exact isContinuation_tailByte c.toNat
  · rw [List.foldl_nil, withTail_tailByte, code]
    dsimp only
    omega

theorem exists_isSpelled_three {c : Char} (low : 0x7FF < c.toNat) (high : c.toNat ≤ 0xFFFF) :
    ∃ first lead second tail, IsSpelled c first lead second tail := by
  have valid := isValidChar_toNat c
  have bytes := String.utf8EncodeChar.eq_1 c
  have narrow : ¬c.toNat ≤ 127 := by omega
  simp only [Char.toNat_val, if_neg narrow, if_neg (Nat.not_le_of_lt low), if_pos high] at bytes
  have code : (UInt8.ofNat (c.toNat / 4096 % 16 + 224)).toNat = c.toNat / 4096 + 224 := by
    rw [UInt8.toNat_ofNat']
    omega
  refine ⟨_, _, tailByte (c.toNat / 64), [tailByte c.toNat], bytes, ?_, lead?_of_three ?_ ?_, ?_,
    rfl, ?_, ?_⟩
  · exact not_lt_of_le_toNat (by omega)
  · omega
  · omega
  -- The range of the second byte excludes short forms and surrogates.
  · rw [allows_iff, toNat_tailByte, code]
    constructor
    · dsimp only
      split
      · show 0xA0 ≤ _
        omega
      · exact Nat.le_add_left _ _
    · dsimp only
      split
      · show _ ≤ 0x9F
        omega
      · show _ ≤ 0xBF
        omega
  · rintro byte member
    cases List.mem_singleton.mp member
    exact isContinuation_tailByte c.toNat
  · rw [List.foldl_cons, List.foldl_nil, withTail_tailByte, withTail_tailByte, code]
    dsimp only
    omega

theorem exists_isSpelled_four {c : Char} (low : 0xFFFF < c.toNat) :
    ∃ first lead second tail, IsSpelled c first lead second tail := by
  have valid := isValidChar_toNat c
  have bytes := String.utf8EncodeChar.eq_1 c
  have narrow : ¬c.toNat ≤ 127 := by omega
  have short : ¬c.toNat ≤ 2047 := by omega
  simp only [Char.toNat_val, if_neg narrow, if_neg short, if_neg (Nat.not_le_of_lt low)] at bytes
  have code : (UInt8.ofNat (c.toNat / 262144 % 8 + 240)).toNat = c.toNat / 262144 + 240 := by
    rw [UInt8.toNat_ofNat']
    omega
  refine ⟨_, _, tailByte (c.toNat / 4096), [tailByte (c.toNat / 64), tailByte c.toNat], bytes, ?_,
    lead?_of_four ?_ ?_, ?_, rfl, ?_, ?_⟩
  · exact not_lt_of_le_toNat (by omega)
  · omega
  · omega
  -- Here it excludes short forms and what is past the last character.
  · rw [allows_iff, toNat_tailByte, code]
    constructor
    · dsimp only
      split
      · show 0x90 ≤ _
        omega
      · exact Nat.le_add_left _ _
    · dsimp only
      split
      · show _ ≤ 0x8F
        omega
      · show _ ≤ 0xBF
        omega
  · intro byte member
    rcases List.mem_cons.mp member with rfl | member
    · exact isContinuation_tailByte (c.toNat / 64)
    · cases List.mem_singleton.mp member
      exact isContinuation_tailByte c.toNat
  · rw [List.foldl_cons, List.foldl_cons, List.foldl_nil, withTail_tailByte, withTail_tailByte,
      withTail_tailByte, code]
    dsimp only
    omega

theorem exists_isSpelled {c : Char} (wide : 127 < c.toNat) :
    ∃ first lead second tail, IsSpelled c first lead second tail := by
  by_cases two : c.toNat ≤ 0x7FF
  · exact exists_isSpelled_two wide two
  by_cases three : c.toNat ≤ 0xFFFF
  · exact exists_isSpelled_three (Nat.lt_of_not_le two) three
  · exact exists_isSpelled_four (Nat.lt_of_not_le three)

/-! ## Characters and parts of them -/

namespace IsSpelled

variable {c : Char} {first second : UInt8} {lead : Lead} {tail : Bytes}

theorem readLossy_append (spelled : IsSpelled c first lead second tail) (rest : Bytes) :
    readLossy first (second :: (tail ++ rest)) = (c, rest) := by
  have read : readContinuations (lead.continuations - 1)
      (lead.bits * 64 + (second.toNat - 0x80)) (tail ++ rest) = (some c.toNat, rest) := by
    rw [spelled.counts, ← spelled.spells]
    exact readContinuations_append spelled.continues (withTail lead.bits second) rest
  rw [readLossy.eq_def, if_neg spelled.wide, spelled.announces]
  simp only [if_pos spelled.allows, read]
  rw [Char.ofNat_toNat]

/-- Whatever is there of a character that is cut off, is replaced at once. -/
theorem readLossy_take (spelled : IsSpelled c first lead second tail) {count : Nat}
    (cut : count < tail.length + 1) :
    readLossy first ((second :: tail).take count) = (replacement, []) := by
  rw [readLossy.eq_def, if_neg spelled.wide, spelled.announces]
  cases count with
  | zero => rfl
  | succ count =>
      have short : (tail.take count).length < lead.continuations - 1 := by
        rw [spelled.counts, List.length_take]
        omega
      have read := readContinuations_of_lt
        (fun byte member => spelled.continues byte (List.mem_of_mem_take member)) short
      simp only [List.take_succ_cons, if_pos spelled.allows, read]

end IsSpelled

theorem lossyChars_utf8EncodeChar_append (c : Char) (rest : Bytes) :
    lossyChars (String.utf8EncodeChar c ++ rest) = c :: lossyChars rest := by
  by_cases ascii : c.toNat ≤ 127
  · have code : (UInt8.ofNat c.toNat).toNat = c.toNat := by
      rw [UInt8.toNat_ofNat']
      omega
    have low : UInt8.ofNat c.toNat < 0x80 := by
      rw [UInt8.lt_iff_toNat_lt, code]
      exact Nat.lt_succ_of_le ascii
    rw [utf8EncodeChar_of_le ascii, List.singleton_append, lossyChars, readLossy.eq_def, if_pos low,
      code, Char.ofNat_toNat]
  · obtain ⟨first, lead, second, tail, spelled⟩ := exists_isSpelled (Nat.lt_of_not_le ascii)
    rw [spelled.bytes, List.cons_append, List.cons_append, lossyChars, spelled.readLossy_append]

theorem lossyChars_take_utf8EncodeChar {c : Char} {count : Nat} (begins : 0 < count)
    (cut : count < c.utf8Size) :
    lossyChars ((String.utf8EncodeChar c).take count) = [replacement] := by
  obtain ⟨count, rfl⟩ := Nat.exists_eq_succ_of_ne_zero (Nat.ne_of_gt begins)
  by_cases ascii : c.toNat ≤ 127
  · rw [← String.length_utf8EncodeChar, utf8EncodeChar_of_le ascii, List.length_singleton] at cut
    omega
  · obtain ⟨first, lead, second, tail, spelled⟩ := exists_isSpelled (Nat.lt_of_not_le ascii)
    rw [← String.length_utf8EncodeChar, spelled.bytes, List.length_cons, List.length_cons] at cut
    rw [spelled.bytes, List.take_succ_cons, lossyChars,
      spelled.readLossy_take (Nat.lt_of_succ_lt_succ cut), lossyChars]

/-! ## Texts -/

theorem lossy_nil : lossy [] = "" := by
  rw [lossy, lossyChars, String.ofList_nil]

/-- Text in front of any bytes is read as it is. -/
theorem lossy_utf8_append (text : String) (rest : Bytes) :
    lossy (utf8 text ++ rest) = text ++ lossy rest := by
  have chars (front : List Char) :
      lossyChars (utf8 (String.ofList front) ++ rest) = front ++ lossyChars rest := by
    induction front with
    | nil => rfl
    | cons c front inductionHypothesis =>
        rw [utf8_cons, List.append_assoc, lossyChars_utf8EncodeChar_append, inductionHypothesis,
          List.cons_append]
  have read := chars text.toList
  rw [String.ofList_toList] at read
  rw [lossy, lossy, read, String.ofList_append, String.ofList_toList]

theorem lossy_utf8 (text : String) : lossy (utf8 text) = text := by
  have read := lossy_utf8_append text []
  rwa [List.append_nil, lossy_nil, String.append_empty] at read

theorem lossy_eq_empty_iff {bytes : Bytes} : lossy bytes = "" ↔ bytes = [] := by
  constructor
  · intro read
    cases bytes with
    | nil => rfl
    | cons byte rest =>
        rw [lossy, lossyChars, String.ofList_eq_empty_iff] at read
        cases read
  · rintro rfl
    exact lossy_nil

/-- The reading of a front part is no longer than the part, and its bytes are
in front, exactly if the part is text. -/
theorem lossy_take_isPrefix_iff (bytes : Bytes) (count : Nat) :
    (lossy (bytes.take count)).utf8ByteSize ≤ count ∧ utf8 (lossy (bytes.take count)) <+: bytes ↔
      ∃ front, bytes.take count = utf8 front := by
  constructor
  · rintro ⟨short, inFront⟩
    rw [← length_utf8] at short
    obtain ⟨rest, parts⟩ := List.prefix_take_iff.mpr ⟨inFront, short⟩
    have read := lossy_utf8_append (lossy (bytes.take count)) rest
    rw [parts, eq_comm, String.append_eq_left_iff, lossy_eq_empty_iff] at read
    rw [read, List.append_nil] at parts
    exact ⟨_, parts.symm⟩
  · rintro ⟨front, whole⟩
    rw [whole, lossy_utf8, ← length_utf8, ← whole]
    exact ⟨List.length_take_le _ _, List.take_prefix _ _⟩

/-! ## Lengths -/

theorem utf8ByteSize_ofList_cons (c : Char) (rest : List Char) :
    (String.ofList (c :: rest)).utf8ByteSize =
      c.utf8Size + (String.ofList rest).utf8ByteSize := by
  rw [String.ofList_cons, String.utf8ByteSize_append, String.utf8ByteSize_singleton]

theorem utf8ByteSize_replicate (c : Char) (count : Nat) :
    (String.ofList (List.replicate count c)).utf8ByteSize = count * c.utf8Size := by
  induction count with
  | zero =>
      rw [Nat.zero_mul]
      rfl
  | succ count inductionHypothesis =>
      rw [List.replicate_succ, utf8ByteSize_ofList_cons, inductionHypothesis, Nat.succ_mul,
        Nat.add_comm]

/-- A replacement has three bytes, and may stand for a single one. -/
theorem utf8Size_readLossy (byte : UInt8) (rest : Bytes) :
    (readLossy byte rest).1.utf8Size + 3 * (readLossy byte rest).2.length ≤
      3 * (rest.length + 1) := by
  have replaced : replacement.utf8Size = 3 := by decide
  rw [readLossy.eq_def]
  split
  next ascii =>
    have low : byte.toNat < 128 := UInt8.lt_iff_toNat_lt.mp ascii
    have code : (Char.ofNat byte.toNat).toNat = byte.toNat := toNat_ofNat (.inl (by omega))
    have narrow : (Char.ofNat byte.toNat).utf8Size = 1 := by
      rw [← String.length_utf8EncodeChar, utf8EncodeChar_of_le (by omega), List.length_singleton]
    dsimp only
    omega
  next wide =>
    split
    next =>
      dsimp only
      omega
    next =>
      dsimp only
      omega
    next lead second tail _ =>
      split
      next =>
        have bound := readContinuations_length (lead.continuations - 1)
          (lead.bits * 64 + (second.toNat - 0x80)) tail
        split
        next point rest read =>
          have widest := (Char.ofNat point).utf8Size_le_four
          rw [read] at bound
          dsimp only [List.length_cons] at bound ⊢
          omega
        next rest read =>
          rw [read] at bound
          dsimp only [List.length_cons] at bound ⊢
          omega
      next =>
        dsimp only
        omega

theorem utf8ByteSize_lossy_le (bytes : Bytes) :
    (lossy bytes).utf8ByteSize ≤ 3 * bytes.length := by
  rw [lossy]
  induction bytes using lossyChars.induct with
  | case1 =>
      rw [lossyChars]
      exact Nat.le_refl _
  | case2 byte rest inductionHypothesis =>
      have step := utf8Size_readLossy byte rest
      rw [lossyChars, utf8ByteSize_ofList_cons, List.length_cons]
      omega

/-- The front of a character is replaced as a whole, and bytes that start none
one by one. -/
example : lossy [0x61, 0xE2, 0x82, 0xFF, 0x80] = "a\uFFFD\uFFFD\uFFFD" := by
  with_unfolding_all decide

/-! ## Cut texts -/

/-- What is shown of a text whose bytes are cut: the characters in front of the
cut, and a replacement for one that it divides. -/
inductive IsTruncated (count : Nat) : String → String → Prop where
  | whole (text : String) (fits : text.utf8ByteSize ≤ count) : IsTruncated count text text
  | between (front rest : String) (cut : front.utf8ByteSize = count) :
      IsTruncated count (front ++ rest) front
  | inside (front : String) (c : Char) (rest : String) (begins : front.utf8ByteSize < count)
      (ends : count < front.utf8ByteSize + c.utf8Size) :
      IsTruncated count (front ++ .singleton c ++ rest) (front ++ .singleton replacement)

namespace IsTruncated

variable {count : Nat} {text shown : String}

theorem append (truncated : IsTruncated count text shown) (head : String) :
    IsTruncated (head.utf8ByteSize + count) (head ++ text) (head ++ shown) := by
  cases truncated with
  | whole _ fits =>
      refine .whole _ ?_
      rw [String.utf8ByteSize_append]
      omega
  | between _ rest cut =>
      rw [← String.append_assoc]
      refine .between _ _ ?_
      rw [String.utf8ByteSize_append, cut]
  | inside front c rest begins ends =>
      rw [← String.append_assoc, ← String.append_assoc, ← String.append_assoc]
      refine .inside _ _ _ ?_ ?_
      · rw [String.utf8ByteSize_append]
        omega
      · rw [String.utf8ByteSize_append]
        omega

/-- The replacement may be two bytes longer than what it replaces. -/
theorem utf8ByteSize_le (truncated : IsTruncated count text shown) :
    shown.utf8ByteSize ≤ count + 2 := by
  cases truncated with
  | whole _ fits => omega
  | between _ rest cut => omega
  | inside front c rest begins ends =>
      have replaced : replacement.utf8Size = 3 := by decide
      rw [String.utf8ByteSize_append, String.utf8ByteSize_singleton, replaced]
      omega

end IsTruncated

theorem lossy_take_singleton {c : Char} {count : Nat} (begins : 0 < count)
    (cut : count < c.utf8Size) :
    lossy ((utf8 (.singleton c)).take count) = .singleton replacement := by
  rw [utf8_singleton, lossy, lossyChars_take_utf8EncodeChar begins cut]
  rfl

/-- A character that is divided is replaced. -/
theorem lossy_take_divided (front : String) {c : Char} {offset : Nat} (begins : 0 < offset)
    (cut : offset < c.utf8Size) :
    lossy ((utf8 (front ++ .singleton c)).take (front.utf8ByteSize + offset)) =
      front ++ .singleton replacement := by
  rw [utf8_append, ← length_utf8, List.take_length_add_append, lossy_utf8_append,
    lossy_take_singleton begins cut]

/-- A cut before the end of a single character leaves nothing of it, or a
replacement. -/
theorem isTruncated_take_singleton {c : Char} {count : Nat} (cut : count < c.utf8Size)
    (rest : String) :
    IsTruncated count (.singleton c ++ rest) (lossy ((utf8 (.singleton c)).take count)) := by
  rcases Nat.eq_zero_or_pos count with rfl | begins
  · rw [List.take_zero, lossy_nil]
    have nothing : IsTruncated 0 ("" ++ (.singleton c ++ rest)) "" := .between _ _ rfl
    rwa [String.empty_append] at nothing
  · rw [lossy_take_singleton begins cut]
    have ends : count < "".utf8ByteSize + c.utf8Size := by
      rwa [String.utf8ByteSize_empty, Nat.zero_add]
    have replaced := IsTruncated.inside "" c rest begins ends
    rwa [String.empty_append, String.empty_append] at replaced

theorem isTruncated_lossy_take (text : String) (count : Nat) :
    IsTruncated count text (lossy ((utf8 text).take count)) := by
  have chars (front : List Char) : IsTruncated count (String.ofList front)
      (lossy ((utf8 (String.ofList front)).take count)) := by
    induction front generalizing count with
    | nil =>
        have none : (utf8 (String.ofList [])).take count = [] := List.take_nil
        rw [none, lossy_nil]
        exact .whole _ (Nat.zero_le count)
    | cons c rest inductionHypothesis =>
        have size : (utf8 (.singleton c)).length = c.utf8Size := by
          rw [length_utf8, String.utf8ByteSize_singleton]
        rw [String.ofList_cons, utf8_append]
        by_cases fits : c.utf8Size ≤ count
        · obtain ⟨left, rfl⟩ := Nat.exists_eq_add_of_le fits
          have behind := (inductionHypothesis left).append (.singleton c)
          rw [String.utf8ByteSize_singleton] at behind
          rw [← size, List.take_length_add_append, lossy_utf8_append, size]
          exact behind
        · rw [List.take_append_of_le_length (by omega)]
          exact isTruncated_take_singleton (Nat.lt_of_not_le fits) _
  have shown := chars text.toList
  rwa [String.ofList_toList] at shown

end RemoteWrite.Text
