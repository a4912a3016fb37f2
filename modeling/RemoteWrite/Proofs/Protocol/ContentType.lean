import Mathlib.Data.List.Basic
import RemoteWrite.Proofs.Text.Pieces
import RemoteWrite.Proofs.Text.WhiteSpace
import RemoteWrite.Protocol.ContentType

/-!
Contract: the grammar of content types.

A content type is a media type and parameters, cut at semicolons. The grammar
says what each of them may look like and which answer follows, without a
reader: a parameter has one equals sign, white space around its parts carries
no meaning, and the first parameter with the key `proto` decides.

Owns:
- parameters, those that say nothing and those that decide;
- the answers to content types, errors included;
- that the reader gives exactly these answers.

Does not own: the text of errors.
-/

namespace RemoteWrite

/-- The same error about another content type, which is all that changes. -/
def ProtocolError.quoting (contentType : String) : ProtocolError → ProtocolError
  | .unknownProtocol name => .unknownProtocol name
  | .unexpectedMediaType _ => .unexpectedMediaType contentType
  | .malformedParameter parameter _ => .malformedParameter parameter contentType

namespace Protocol

/-! ## Grammar -/

/-- The key and the value around the only equals sign of a piece. -/
structure IsParameter (piece key value : List Char) : Prop where
  parts : piece = key ++ '=' :: value
  single : piece.count '=' = 1

/-- The piece is a parameter that says nothing about the protocol. -/
def IsSilent (piece : List Char) : Prop :=
  ∃ key value, IsParameter piece key value ∧ ¬ Text.Padded "proto".toList key

/-- The piece is a parameter that decides about the protocol, by its value. -/
def Decides (piece value : List Char) : Prop :=
  ∃ key, IsParameter piece key value ∧ Text.Padded "proto".toList key

/-- What the parameters of a content type announce. -/
inductive Announces (contentType : String) :
    List (List Char) → Except ProtocolError Protocol → Prop where
  | nothing {parameters : List (List Char)} (silent : ∀ piece ∈ parameters, IsSilent piece) :
      Announces contentType parameters (.ok .v1)
  | named {before after : List (List Char)} {piece value : List Char} {protocol : Protocol}
      (silent : ∀ piece ∈ before, IsSilent piece) (decides : Decides piece value)
      (names : Text.Padded protocol.name.toList value) :
      Announces contentType (before ++ piece :: after) (.ok protocol)
  | unknown {before after : List (List Char)} {piece value : List Char}
      (silent : ∀ piece ∈ before, IsSilent piece) (decides : Decides piece value)
      (nameless : ∀ protocol : Protocol, ¬ Text.Padded protocol.name.toList value) :
      Announces contentType (before ++ piece :: after)
        (.error (.unknownProtocol (String.ofList (Text.trim value))))
  /-- The first piece that is no parameter comes before any that decides. -/
  | malformed {before after : List (List Char)} {piece : List Char}
      (silent : ∀ piece ∈ before, IsSilent piece) (uneven : piece.count '=' ≠ 1) :
      Announces contentType (before ++ piece :: after)
        (.error (.malformedParameter (String.ofList piece) contentType))

/-- The answer to a content type that has no white space around it. -/
inductive Answers (content : List Char) : Except ProtocolError Protocol → Prop where
  | foreign {media : List Char} {parameters : List (List Char)}
      (cut : Text.IsCut ';' content (media :: parameters))
      (other : ¬ Text.Padded mediaType.toList media) :
      Answers content (.error (.unexpectedMediaType (String.ofList content)))
  | protobuf {media : List Char} {parameters : List (List Char)}
      {answer : Except ProtocolError Protocol}
      (cut : Text.IsCut ';' content (media :: parameters))
      (same : Text.Padded mediaType.toList media)
      (announces : Announces (String.ofList content) parameters answer) :
      Answers content answer

/-! ## Parameters -/

/-- A piece with one equals sign is cut in two there. -/
theorem isCut_pair_iff {piece key value : List Char} :
    Text.IsCut '=' piece [key, value] ↔ IsParameter piece key value := by
  constructor
  · intro cut
    have single := cut.length_eq
    cases cut with
    | cons wholeKey rest =>
        cases rest with
        | last wholeValue => exact ⟨rfl, (Nat.succ.inj single).symm⟩
        | cons _ more => cases more
  · rintro ⟨rfl, single⟩
    rw [List.count_append, List.count_cons_self] at single
    have noneInKey : key.count '=' = 0 := by omega
    have noneInValue : value.count '=' = 0 := by omega
    exact .cons (List.count_eq_zero.mp noneInKey) (.last (List.count_eq_zero.mp noneInValue))

theorem parameter?_eq_some_iff {piece key value : List Char} :
    parameter? piece = some (key, value) ↔ IsParameter piece key value := by
  rw [← isCut_pair_iff, ← Text.pieces_eq_iff]
  unfold parameter?
  constructor
  · intro read
    split at read
    next found =>
      cases read
      exact found
    next => cases read
  · intro cut
    rw [cut]

theorem parameter?_eq_none_iff {piece : List Char} :
    parameter? piece = none ↔ piece.count '=' ≠ 1 := by
  have count := (Text.isCut_pieces '=' piece).length_eq
  unfold parameter?
  constructor
  · intro unread single
    rw [single] at count
    obtain ⟨key, value, found⟩ := List.length_eq_two.mp count
    rw [found] at unread
    cases unread
  · intro uneven
    split
    next key value found =>
      rw [found] at count
      exact absurd (Nat.succ.inj count).symm uneven
    next => rfl

/-! ## Names -/

theorem solid_name (protocol : Protocol) : Text.Solid protocol.name.toList := by
  cases protocol <;> decide

theorem ofName_name (protocol : Protocol) : ofName protocol.name = .ok protocol := by
  cases protocol <;> rfl

theorem ofName_of_ne {name : String} (other : ∀ protocol : Protocol, protocol.name ≠ name) :
    ofName name = .error (.unknownProtocol name) := by
  have nowhere : all.find? (fun protocol => protocol.name = name) = none := by
    rw [List.find?_eq_none]
    intro protocol _ same
    exact other protocol (decide_eq_true_eq.mp same)
  unfold ofName
  rw [nowhere]

/-- The errors of names quote no content type. -/
theorem quoting_ofName (contentType name : String) :
    (ofName name).mapError (ProtocolError.quoting contentType) = ofName name := by
  by_cases known : ∃ protocol : Protocol, protocol.name = name
  · obtain ⟨protocol, rfl⟩ := known
    rw [ofName_name]
    rfl
  · rw [ofName_of_ne (not_exists.mp known)]
    rfl

theorem padded_name_iff {protocol : Protocol} {value : List Char} :
    Text.Padded protocol.name.toList value ↔ protocol.name = String.ofList (Text.trim value) := by
  rw [← Text.trim_eq_iff (solid_name protocol), ← String.toList_inj, String.toList_ofList]
  exact eq_comm

/-! ## Reading parameters -/

theorem ofParameters_of_silent {contentType : String} {piece : List Char}
    (silent : IsSilent piece) (rest : List (List Char)) :
    ofParameters contentType (piece :: rest) = ofParameters contentType rest := by
  obtain ⟨key, value, isParameter, other⟩ := silent
  simp only [ofParameters, parameter?_eq_some_iff.mpr isParameter]
  exact if_neg (mt (Text.trim_eq_iff (by decide)).mp other)

theorem ofParameters_of_decides {contentType : String} {piece value : List Char}
    (decides : Decides piece value) (rest : List (List Char)) :
    ofParameters contentType (piece :: rest) = ofName (String.ofList (Text.trim value)) := by
  obtain ⟨key, isParameter, proto⟩ := decides
  simp only [ofParameters, parameter?_eq_some_iff.mpr isParameter]
  exact if_pos ((Text.trim_eq_iff (by decide)).mpr proto)

theorem ofParameters_of_uneven {contentType : String} {piece : List Char}
    (uneven : piece.count '=' ≠ 1) (rest : List (List Char)) :
    ofParameters contentType (piece :: rest) =
      .error (.malformedParameter (String.ofList piece) contentType) := by
  rw [ofParameters, parameter?_eq_none_iff.mpr uneven]

/-- Every piece is of one of three kinds. -/
theorem kinds (piece : List Char) :
    IsSilent piece ∨ (∃ value, Decides piece value) ∨ piece.count '=' ≠ 1 := by
  cases read : parameter? piece with
  | none => exact .inr (.inr (parameter?_eq_none_iff.mp read))
  | some parts =>
      have isParameter := parameter?_eq_some_iff.mp read
      by_cases proto : Text.Padded "proto".toList parts.1
      · exact .inr (.inl ⟨parts.2, parts.1, isParameter, proto⟩)
      · exact .inl ⟨parts.1, parts.2, isParameter, proto⟩

theorem ofParameters_append {contentType : String} {before : List (List Char)}
    (silent : ∀ piece ∈ before, IsSilent piece) (rest : List (List Char)) :
    ofParameters contentType (before ++ rest) = ofParameters contentType rest := by
  induction before with
  | nil => rfl
  | cons piece others inductionHypothesis =>
      obtain ⟨first, later⟩ := List.forall_mem_cons.mp silent
      rw [List.cons_append, ofParameters_of_silent first, inductionHypothesis later]

/-- The grammar gives the answer of the reader. -/
theorem ofParameters_of_announces {contentType : String} {parameters : List (List Char)}
    {answer : Except ProtocolError Protocol} (announces : Announces contentType parameters answer) :
    ofParameters contentType parameters = answer := by
  cases announces with
  | nothing silent =>
      rw [← List.append_nil parameters, ofParameters_append silent]
      rfl
  | named silent decides names =>
      rw [ofParameters_append silent, ofParameters_of_decides decides, ← padded_name_iff.mp names]
      exact ofName_name _
  | unknown silent decides nameless =>
      rw [ofParameters_append silent, ofParameters_of_decides decides]
      exact ofName_of_ne fun protocol => mt padded_name_iff.mpr (nameless protocol)
  | malformed silent uneven =>
      rw [ofParameters_append silent, ofParameters_of_uneven uneven]

/-- A silent piece in front changes no answer. -/
theorem Announces.cons {contentType : String} {parameters : List (List Char)}
    {answer : Except ProtocolError Protocol} {piece : List Char} (first : IsSilent piece)
    (announces : Announces contentType parameters answer) :
    Announces contentType (piece :: parameters) answer := by
  cases announces with
  | nothing silent => exact .nothing (List.forall_mem_cons.mpr ⟨first, silent⟩)
  | named silent decides names =>
      have silentToo := List.forall_mem_cons.mpr ⟨first, silent⟩
      exact (.named silentToo decides names : Announces contentType ((piece :: _) ++ _) _)
  | unknown silent decides nameless =>
      have silentToo := List.forall_mem_cons.mpr ⟨first, silent⟩
      exact (.unknown silentToo decides nameless : Announces contentType ((piece :: _) ++ _) _)
  | malformed silent uneven =>
      have silentToo := List.forall_mem_cons.mpr ⟨first, silent⟩
      exact (.malformed silentToo uneven : Announces contentType ((piece :: _) ++ _) _)

/-- The grammar has an answer for all parameters. -/
theorem exists_announces (contentType : String) (parameters : List (List Char)) :
    ∃ answer, Announces contentType parameters answer := by
  induction parameters with
  | nil => exact ⟨_, .nothing nofun⟩
  | cons piece rest inductionHypothesis =>
      rcases kinds piece with silent | ⟨value, decides⟩ | uneven
      · obtain ⟨answer, announces⟩ := inductionHypothesis
        exact ⟨answer, announces.cons silent⟩
      · by_cases named : ∃ protocol : Protocol, Text.Padded protocol.name.toList value
        · obtain ⟨protocol, names⟩ := named
          exact ⟨_, (.named nofun decides names : Announces contentType ([] ++ _) _)⟩
        · have nameless := not_exists.mp named
          exact ⟨_, (.unknown nofun decides nameless : Announces contentType ([] ++ _) _)⟩
      · exact ⟨_, (.malformed nofun uneven : Announces contentType ([] ++ _) _)⟩

/-! ## Reading content types -/

theorem solid_mediaType : Text.Solid mediaType.toList := by decide

theorem ofContentType_of_foreign {text : String} {media : List Char}
    {parameters : List (List Char)}
    (cut : Text.IsCut ';' (Text.trim text.toList) (media :: parameters))
    (other : ¬ Text.Padded mediaType.toList media) :
    ofContentType text =
      .error (.unexpectedMediaType (String.ofList (Text.trim text.toList))) := by
  unfold ofContentType
  simp only [Text.pieces_eq_iff.mpr cut]
  exact if_neg (mt (Text.trim_eq_iff solid_mediaType).mp other)

theorem ofContentType_of_padded {text : String} {media : List Char}
    {parameters : List (List Char)}
    (cut : Text.IsCut ';' (Text.trim text.toList) (media :: parameters))
    (same : Text.Padded mediaType.toList media) :
    ofContentType text = ofParameters (String.ofList (Text.trim text.toList)) parameters := by
  unfold ofContentType
  simp only [Text.pieces_eq_iff.mpr cut]
  exact if_pos ((Text.trim_eq_iff solid_mediaType).mpr same)

theorem exists_answers (content : List Char) : ∃ answer, Answers content answer := by
  have cut := Text.isCut_pieces ';' content
  cases found : Text.pieces ';' content with
  | nil =>
      rw [found] at cut
      cases cut
  | cons media parameters =>
      rw [found] at cut
      by_cases same : Text.Padded mediaType.toList media
      · obtain ⟨answer, announces⟩ := exists_announces (String.ofList content) parameters
        exact ⟨answer, .protobuf cut same announces⟩
      · exact ⟨_, .foreign cut same⟩

theorem ofContentType_of_answers {text : String} {answer : Except ProtocolError Protocol}
    (answers : Answers (Text.trim text.toList) answer) : ofContentType text = answer := by
  cases answers with
  | foreign cut other => exact ofContentType_of_foreign cut other
  | protobuf cut same announces =>
      rw [ofContentType_of_padded cut same]
      exact ofParameters_of_announces announces

/-! ## After the decision -/

/-- What follows a parameter that decides is not looked at, and the content
type is only quoted. -/
theorem ofParameters_after {piece value : List Char} (decides : Decides piece value)
    (quoted contentType : String) (before after rest : List (List Char)) :
    ofParameters contentType (before ++ piece :: rest) =
      (ofParameters quoted (before ++ piece :: after)).mapError
        (ProtocolError.quoting contentType) := by
  induction before with
  | nil =>
      rw [List.nil_append, List.nil_append, ofParameters_of_decides decides,
        ofParameters_of_decides decides, quoting_ofName]
  | cons first others inductionHypothesis =>
      rw [List.cons_append, List.cons_append]
      rcases kinds first with silent | ⟨earlier, decidesEarlier⟩ | uneven
      · rw [ofParameters_of_silent silent, ofParameters_of_silent silent, inductionHypothesis]
      · rw [ofParameters_of_decides decidesEarlier, ofParameters_of_decides decidesEarlier,
          quoting_ofName]
      · rw [ofParameters_of_uneven uneven, ofParameters_of_uneven uneven]
        rfl

/-- Content types that agree up to a parameter that decides have the same
answer. -/
theorem ofContentType_after {text other : String} {media piece value : List Char}
    {before after rest : List (List Char)}
    (cut : Text.IsCut ';' (Text.trim text.toList) (media :: (before ++ piece :: after)))
    (otherCut : Text.IsCut ';' (Text.trim other.toList) (media :: (before ++ piece :: rest)))
    (decides : Decides piece value) :
    ofContentType other =
      (ofContentType text).mapError
        (ProtocolError.quoting (String.ofList (Text.trim other.toList))) := by
  by_cases same : Text.Padded mediaType.toList media
  · rw [ofContentType_of_padded cut same, ofContentType_of_padded otherCut same]
    exact ofParameters_after decides _ _ before after rest
  · rw [ofContentType_of_foreign cut same, ofContentType_of_foreign otherCut same]
    rfl

/-- If it is a parameter that decides, nothing at all changes. -/
theorem ofContentType_decided {text other : String} {media piece value : List Char}
    {before after rest : List (List Char)}
    (cut : Text.IsCut ';' (Text.trim text.toList) (media :: (before ++ piece :: after)))
    (otherCut : Text.IsCut ';' (Text.trim other.toList) (media :: (before ++ piece :: rest)))
    (same : Text.Padded mediaType.toList media) (silent : ∀ first ∈ before, IsSilent first)
    (decides : Decides piece value) : ofContentType other = ofContentType text := by
  rw [ofContentType_of_padded cut same, ofContentType_of_padded otherCut same,
    ofParameters_append silent, ofParameters_append silent, ofParameters_of_decides decides,
    ofParameters_of_decides decides]

/-! ## Every content type -/

/-- The reader gives exactly the answers of the grammar. After the first
parameter that decides nothing has any influence, but that errors about an
earlier part quote the whole content type. The canonical content types
announce their protocols. -/
theorem ofContentType_eq_iff (text : String) :
    (∀ answer, ofContentType text = answer ↔ Answers (Text.trim text.toList) answer) ∧
      (∀ (other : String) (media piece value : List Char) (before after rest : List (List Char)),
        Text.IsCut ';' (Text.trim text.toList) (media :: (before ++ piece :: after)) →
        Text.IsCut ';' (Text.trim other.toList) (media :: (before ++ piece :: rest)) →
        Decides piece value →
        ofContentType other =
            (ofContentType text).mapError
              (ProtocolError.quoting (String.ofList (Text.trim other.toList))) ∧
          (Text.Padded mediaType.toList media → (∀ first ∈ before, IsSilent first) →
            ofContentType other = ofContentType text)) ∧
      ∀ protocol : Protocol, ofContentType protocol.contentType = .ok protocol := by
  refine ⟨fun answer => ⟨?_, ofContentType_of_answers⟩, ?_, ?_⟩
  · rintro rfl
    obtain ⟨answer, answers⟩ := exists_answers (Text.trim text.toList)
    rwa [ofContentType_of_answers answers]
  · intro other media piece value before after rest cut otherCut decides
    exact ⟨ofContentType_after cut otherCut decides,
      fun same silent => ofContentType_decided cut otherCut same silent decides⟩
  · intro protocol
    cases protocol <;> decide +kernel

/-- White space beyond ASCII, an empty key, and a decision before a piece with
two equals signs, which alone would be malformed. -/
theorem ofContentType_eq_iff_spaced :
    Answers
        (Text.trim ("\u00A0application/x-protobuf ;=;\u2003proto= " ++
          "io.prometheus.write.v2.Request\u3000;a=b=c").toList)
        (.ok .v2) ∧
      Answers (Text.trim "application/x-protobuf;a=b=c;proto=prometheus.WriteRequest".toList)
        (.error (.malformedParameter "a=b=c"
          "application/x-protobuf;a=b=c;proto=prometheus.WriteRequest")) := by
  refine ⟨((ofContentType_eq_iff _).1 _).mp ?_, ((ofContentType_eq_iff _).1 _).mp ?_⟩
  · decide +kernel
  · decide +kernel

end Protocol
end RemoteWrite
