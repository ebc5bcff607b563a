import Mathlib.Data.List.Forall2
import StaticServer.Http.Multipart
import StaticServer.Proofs.Http.Range
import StaticServer.Proofs.Text.Graphic
import StaticServer.Proofs.Text.Utf8

/-!
# Bodies with several ranges, read back

A reader of a body with several ranges knows the boundary from the type of the body, and nothing
else. It cuts the body wherever two hyphens and the boundary stand (`pieces`), takes the headers off
each piece line by line (`readHead?`), and what is left are the bytes of a range.

Cutting finds the place that is meant when no separator stands before it and none begins before it
and ends behind it (`StopsBefore`). For the line breaks behind the headers this is so because
headers hold none. For the boundary it has to be assumed of the bytes of the file, but only that the
boundary does not stand among them: every part ends in a line break, so that no boundary goes over
the end of one (`stopsBefore_piece`). Then reading gives back exactly the parts that were written
(`read?_body`).

The length of a body that is told beforehand is the one that it has (`length_body`), since each
range lies inside the file and all else in a part is as long in bytes as in characters.
-/

namespace StaticServer.Multipart

open Text (isGraphic)
open Text.Utf8 (encode)

/-- A boundary as it is drawn for one body: thirteen bytes in hexadecimal digits. -/
structure IsBoundary (boundary : Text) : Prop where
  /-- Two digits stand for each byte. -/
  length : boundary.length = 26
  /-- They are digits and small letters. -/
  digits : ∀ c ∈ boundary, c.isDigit = true ∨ 'a' ≤ c ∧ c ≤ 'f'

theorem isBoundary_replicate : IsBoundary (List.replicate 26 '0') :=
  ⟨List.length_replicate, fun c hc ↦ .inl (by rw [List.eq_of_mem_replicate hc]; rfl)⟩

/-! ### Cutting at separators -/

/-- What stands behind a separator is shorter, which is why the reading ends. -/
theorem length_lt_of_dropInfix? {sep bytes before after : Bytes} (hsep : sep ≠ [])
    (h : bytes.dropInfix? sep = some (before, after)) : after.length < bytes.length := by
  obtain ⟨⟨sep', rfl, heq⟩, -⟩ := List.dropInfix?_eq_some_iff.1 h
  have hpos := List.length_pos_iff.2 hsep
  rw [← eq_of_beq heq] at hpos
  simp only [List.length_append]
  omega

/-- The bytes between the places where a separator stands, from left to right. -/
def pieces (sep bytes : Bytes) : List Bytes :=
  if hsep : sep = [] then [bytes]
  else
    match h : bytes.dropInfix? sep with
    | none => [bytes]
    | some (before, after) =>
      have := length_lt_of_dropInfix? hsep h
      before :: pieces sep after
termination_by bytes.length

/-- No separator stands in some bytes, and none begins there that could end behind them. -/
def StopsBefore (sep bytes : Bytes) : Prop :=
  ∀ c, c ≠ [] → c <:+ bytes → ¬ c <+: sep ∧ ¬ sep <+: c

variable {sep bytes : Bytes}

theorem stopsBefore_nil (sep : Bytes) : StopsBefore sep [] :=
  fun _ hne hsuffix ↦ absurd (List.suffix_nil.1 hsuffix) hne

/-- What does not hold the first byte of a separator stops before it. -/
theorem stopsBefore_of_not_mem {first : UInt8} {more : Bytes} (h : first ∉ bytes) :
    StopsBefore (first :: more) bytes := by
  intro c hne hsuffix
  obtain ⟨b, c, rfl⟩ := List.exists_cons_of_ne_nil hne
  have hb : b ∈ bytes := hsuffix.subset List.mem_cons_self
  have hfirst : b ≠ first := fun heq ↦ h (heq ▸ hb)
  rw [List.cons_prefix_cons, List.cons_prefix_cons]
  exact ⟨fun hbegin ↦ hfirst hbegin.1, fun hbegin ↦ hfirst hbegin.1.symm⟩

/-- What ends in a byte that no separator holds stops before it, if no separator stands in it. -/
theorem stopsBefore_concat {front : Bytes} {last : UInt8} (hlast : last ∉ sep)
    (h : ¬ sep <:+: front ++ [last]) : StopsBefore sep (front ++ [last]) := by
  intro c hne hsuffix
  refine ⟨fun hbegin ↦ ?_, fun hbegin ↦ h (hbegin.isInfix.trans hsuffix.isInfix)⟩
  -- every end of the bytes holds the last of them
  have hends : c.getLast? = some last := by
    rw [List.getLast?_eq_some_getLast hne, hsuffix.getLast hne, List.getLast_concat]
  exact hlast (hbegin.subset (List.mem_of_getLast? hends))

/-- **A cut is made where a separator stands behind bytes that stop before it.** -/
theorem StopsBefore.dropInfix?_eq (h : StopsBefore sep bytes) (rest : Bytes) :
    (bytes ++ (sep ++ rest)).dropInfix? sep = some (bytes, rest) := by
  refine List.dropInfix?_eq_some_iff.2
    ⟨⟨sep, (List.append_assoc ..).symm, beq_self_eq_true sep⟩, ?_⟩
  intro before sep' after heq hsep
  obtain rfl := eq_of_beq hsep
  rw [List.append_assoc] at heq
  rcases List.append_eq_append_iff.1 heq with ⟨c, rfl, -⟩ | ⟨c, rfl, hc⟩
  · rw [List.length_append]
    omega
  · -- a cut further to the left would be at a separator that begins in the bytes
    by_cases hne : c = []
    · have happend : before ++ c = before := by rw [hne, List.append_nil]
      exact Nat.le_of_eq (congrArg List.length happend)
    obtain ⟨hbegins, hstands⟩ := h c hne (List.suffix_append before c)
    rcases List.append_eq_append_iff.1 hc with ⟨d, rfl, -⟩ | ⟨d, rfl, -⟩
    · exact absurd (List.prefix_append _ _) hstands
    · exact absurd (List.prefix_append _ _) hbegins

/-- Bytes with a separator are the piece before it and the pieces behind it. -/
theorem pieces_of_cut {before after : Bytes} (hsep : sep ≠ [])
    (h : bytes.dropInfix? sep = some (before, after)) :
    pieces sep bytes = before :: pieces sep after := by
  rw [pieces, dif_neg hsep]
  split <;> simp_all

theorem pieces_of_not_infix (hsep : sep ≠ []) (h : ¬ sep <:+: bytes) :
    pieces sep bytes = [bytes] := by
  rw [pieces, dif_neg hsep]
  split
  · rfl
  · next before after hsome =>
    obtain ⟨⟨sep', rfl, heq⟩, -⟩ := List.dropInfix?_eq_some_iff.1 hsome
    rw [eq_of_beq heq] at h
    exact absurd ⟨before, after, rfl⟩ h

/-! ### The reader -/

/-- A part of a body: its headers, their names in lower case, and its bytes. -/
structure Part where
  /-- The headers. -/
  headers : Headers
  /-- The bytes. -/
  data : Bytes

/-- A line with a header, its name in lower case. -/
def readHeader? (line : Bytes) : Option (Text × Text) :=
  (line.dropInfix? (encode ": ")).map fun (name, value) ↦
    (Text.asciiLower (Text.Utf8.decode name), Text.Utf8.decode value)

theorem lineBreak_ne_nil : encode lineBreak ≠ [] := by
  decide

/-- Headers, each in a line of its own, and what stands behind the empty line that ends them. -/
def readHead? (bytes : Bytes) : Option (Headers × Bytes) :=
  match h : bytes.dropInfix? (encode lineBreak) with
  | none => none
  | some ([], rest) => some ([], rest)
  | some (line, rest) =>
    have := length_lt_of_dropInfix? lineBreak_ne_nil h
    match readHeader? line, readHead? rest with
    | some header, some (headers, data) => some (header :: headers, data)
    | _, _ => none
termination_by bytes.length

/-- An empty line ends the head of a part. -/
theorem readHead?_of_cut_nil {rest : Bytes}
    (h : bytes.dropInfix? (encode lineBreak) = some ([], rest)) :
    readHead? bytes = some ([], rest) := by
  rw [readHead?]
  split <;> simp_all

/-- Any other line is a header of it. -/
theorem readHead?_of_cut {line rest data : Bytes} {header : Text × Text} {headers : Headers}
    (h : bytes.dropInfix? (encode lineBreak) = some (line, rest)) (hne : line ≠ [])
    (hline : readHeader? line = some header) (hrest : readHead? rest = some (headers, data)) :
    readHead? bytes = some (header :: headers, data) := by
  rw [readHead?]
  split <;> simp_all

/-- What stands behind a boundary: a line break, headers, an empty line, bytes and a line break. -/
def readPart? (piece : Bytes) : Option Part := do
  let rest ← piece.dropPrefix? (encode lineBreak)
  let (headers, rest) ← readHead? rest
  let data ← rest.dropSuffix? (encode lineBreak)
  some ⟨headers, data⟩

/-- What parts of a body are kept apart by. -/
def delimiter (boundary : Text) : Text :=
  "--" ++ boundary

/-- The parts of a body: it starts with a boundary, and two hyphens stand behind the last one. -/
def read? (boundary : Text) (body : Bytes) : Option (List Part) :=
  match pieces (encode (delimiter boundary)) body with
  | [] :: rest =>
    if rest.getLast? = some (encode "--") then rest.dropLast.mapM readPart? else none
  | _ => none

/-! ### What is written -/

variable {boundary contentType : Text} {content : Bytes} {r : ByteRange} {rs : List ByteRange}

/-- What stands between the boundary of a part and the bytes of its range. -/
def fields (contentType : Text) (size : Nat) (r : ByteRange) : Text :=
  lineBreak ++ ("Content-Type: " ++ (contentType ++ (lineBreak ++ ("Content-Range: " ++
    (r.contentRange size ++ (lineBreak ++ lineBreak))))))

/-- What stands behind the boundary of a part. -/
def piece (contentType : Text) (content : Bytes) (r : ByteRange) : Bytes :=
  encode (fields contentType content.length r) ++ (r.slice content ++ encode lineBreak)

/-- A part is the separator and what stands between two of them. -/
theorem part_eq (boundary contentType : Text) (content : Bytes) (r : ByteRange) :
    part boundary contentType content r =
      encode (delimiter boundary) ++ piece contentType content r := by
  have hhead : partHead boundary contentType content.length r =
      delimiter boundary ++ fields contentType content.length r := by
    rw [partHead, delimiter, fields, List.append_assoc]
  rw [part, hhead, Text.Utf8.encode_append, List.append_assoc, piece]

/-- The end of a body starts with a separator, too. -/
theorem encode_close (boundary : Text) :
    encode (close boundary) = encode (delimiter boundary) ++ encode "--" := by
  rw [close, delimiter, ← List.append_assoc, Text.Utf8.encode_append]

/-- The part that is read for a range. -/
def Part.ofRange (contentType : Text) (content : Bytes) (r : ByteRange) : Part :=
  ⟨[("content-type", contentType), ("content-range", r.contentRange content.length)],
    r.slice content⟩

/-! ### Reading a part -/

theorem isGraphic_contentRange (size : Nat) (r : ByteRange) :
    isGraphic (r.contentRange size) = true := by
  have hbytes : isGraphic "bytes " = true := by decide
  have hhyphen : Text.isGraphicChar '-' = true := by decide
  have hslash : Text.isGraphicChar '/' = true := by decide
  have hplace : isGraphic (Text.ofInt r.first ++ '-' :: Text.ofInt (r.stop - 1) ++
      '/' :: Text.ofNat size) = true := by
    simp only [Text.isGraphic_append, Text.isGraphic_cons, hhyphen, hslash, Text.isGraphic_ofInt,
      Text.isGraphic_ofNat, Bool.and_true]
  exact Text.isGraphic_append.trans (Bool.and_eq_true_iff.2 ⟨hbytes, hplace⟩)

/-- A header of graphic characters is read back from its line. -/
theorem readHeader?_encode {name : Text} (hcolon : 58 ∉ encode name) (value : Text) :
    readHeader? (encode (name ++ (": " ++ value))) = some (Text.asciiLower name, value) := by
  have hstops : StopsBefore (encode ": ") (encode name) := stopsBefore_of_not_mem hcolon
  rw [Text.Utf8.encode_append, Text.Utf8.encode_append, readHeader?, hstops.dropInfix?_eq,
    Option.map_some]
  simp only [Text.Utf8.decode_encode]

/-- A graphic text has no line break, not even with what follows it. -/
theorem stopsBefore_lineBreak {t : Text} (h : isGraphic t = true) :
    StopsBefore (encode lineBreak) (encode t) := by
  show StopsBefore [13, 10] (encode t)
  refine stopsBefore_of_not_mem fun hmem ↦ ?_
  exact absurd (Text.le_of_mem_encode h hmem) (by decide)

/-- The empty line ends the headers. -/
theorem readHead?_lineBreak (rest : Bytes) :
    readHead? (encode lineBreak ++ rest) = some ([], rest) :=
  readHead?_of_cut_nil ((stopsBefore_nil (encode lineBreak)).dropInfix?_eq rest)

/-- The headers go on behind a line with one. -/
theorem readHead?_line (name : Text) {value : Text} {rest data : Bytes} {headers : Headers}
    (hcolon : 58 ∉ encode name) (hname : isGraphic name = true) (hvalue : isGraphic value = true)
    (hrest : readHead? rest = some (headers, data)) :
    readHead? (encode (name ++ (": " ++ value)) ++ (encode lineBreak ++ rest)) =
      some ((Text.asciiLower name, value) :: headers, data) := by
  have hmiddle : isGraphic ": " = true := by decide
  have hgraphic : isGraphic (name ++ (": " ++ value)) = true := by
    simp only [Text.isGraphic_append, hname, hmiddle, hvalue, Bool.and_true]
  have hheader := readHeader?_encode hcolon value
  have hne : encode (name ++ (": " ++ value)) ≠ [] := by
    intro hnil
    rw [hnil] at hheader
    cases hheader
  exact readHead?_of_cut ((stopsBefore_lineBreak hgraphic).dropInfix?_eq rest) hne hheader hrest

/-- **A part is read back.** -/
theorem readPart?_piece (htype : isGraphic contentType = true) (content : Bytes) (r : ByteRange) :
    readPart? (piece contentType content r) = some (Part.ofRange contentType content r) := by
  have hrange := readHead?_line "Content-Range" (by decide) (by decide)
    (isGraphic_contentRange content.length r) (readHead?_lineBreak (r.slice content ++
      encode lineBreak))
  have hhead := readHead?_line "Content-Type" (by decide) (by decide) htype hrange
  have hpiece : piece contentType content r = encode lineBreak ++
      (encode ("Content-Type" ++ (": " ++ contentType)) ++ (encode lineBreak ++
        (encode ("Content-Range" ++ (": " ++ r.contentRange content.length)) ++
          (encode lineBreak ++ (encode lineBreak ++ (r.slice content ++ encode lineBreak)))))) := by
    have htypeName : ("Content-Type: " : Text) = "Content-Type" ++ ": " := rfl
    have hrangeName : ("Content-Range: " : Text) = "Content-Range" ++ ": " := rfl
    simp only [piece, fields, htypeName, hrangeName, Text.Utf8.encode_append, List.append_assoc]
  have hbegin (rest : Bytes) : (encode lineBreak ++ rest).dropPrefix? (encode lineBreak) =
      some rest := List.dropPrefix?_append_of_beq rest (beq_self_eq_true _)
  have hsuffix : (r.slice content ++ encode lineBreak).dropSuffix? (encode lineBreak) =
      some (r.slice content) :=
    List.dropSuffix?_eq_some_iff.2 ⟨_, rfl, beq_self_eq_true _⟩
  have hlower : Text.asciiLower "Content-Type" = "content-type" ∧
      Text.asciiLower "Content-Range" = "content-range" := by decide
  simp only [readPart?, hpiece, hbegin, hhead, hsuffix, hlower, Part.ofRange, Option.bind_eq_bind,
    Option.bind_some]

/-! ### Reading a body -/

theorem IsBoundary.isGraphic (h : IsBoundary boundary) : isGraphic boundary = true := by
  refine List.all_eq_true.2 fun c hc ↦ Text.isGraphicChar_of_isAlphanum ?_
  rcases h.digits c hc with hdigit | ⟨hlow, hhigh⟩
  · exact Bool.or_eq_true_iff.2 (.inr hdigit)
  · have hlower : c.isLower = true := Bool.and_eq_true_iff.2
      ⟨decide_eq_true hlow, decide_eq_true (UInt32.le_trans hhigh (by decide))⟩
    have halpha : c.isAlpha = true := Bool.or_eq_true_iff.2 (.inr hlower)
    exact Bool.or_eq_true_iff.2 (.inl halpha)

theorem delimiter_ne_nil (boundary : Text) : encode (delimiter boundary) ≠ [] :=
  List.cons_ne_nil _ _

/-- **No boundary goes over the end of a part**, and when none stands in it, a body is cut exactly
where the part ends. -/
theorem stopsBefore_piece (h : IsBoundary boundary)
    (hpiece : ¬ encode boundary <:+: piece contentType content r) :
    StopsBefore (encode (delimiter boundary)) (piece contentType content r) := by
  have hlast : piece contentType content r =
      (encode (fields contentType content.length r) ++ (r.slice content ++ [13])) ++ [10] := by
    rw [piece, List.append_assoc, List.append_assoc]
    rfl
  have hhyphens : Text.isGraphic "--" = true := by decide
  have hgraphic : Text.isGraphic (delimiter boundary) = true := by
    rw [delimiter, Text.isGraphic_append, hhyphens, h.isGraphic]
    rfl
  rw [hlast] at hpiece ⊢
  refine stopsBefore_concat (fun hmem ↦ ?_) fun hinfix ↦ hpiece ?_
  · exact absurd (Text.le_of_mem_encode hgraphic hmem) (by decide)
  · refine List.IsInfix.trans ?_ hinfix
    rw [delimiter, Text.Utf8.encode_append]
    exact (List.suffix_append _ _).isInfix

/-- A body is cut into what stands before its first boundary, its parts, and two hyphens. -/
theorem pieces_body (h : IsBoundary boundary)
    (hparts : ∀ r ∈ rs, ¬ encode boundary <:+: piece contentType content r) {before : Bytes}
    (hbefore : StopsBefore (encode (delimiter boundary)) before) :
    pieces (encode (delimiter boundary)) (before ++ body boundary contentType content rs) =
      before :: (rs.map (piece contentType content) ++ [encode "--"]) := by
  have hne := delimiter_ne_nil boundary
  induction rs generalizing before with
  | nil =>
    have hshort : ¬ encode (delimiter boundary) <:+: encode "--" := by
      intro hinfix
      have hle := hinfix.length_le
      have hsize := Text.size_of_isGraphic h.isGraphic
      rw [delimiter, Text.Utf8.encode_append, List.length_append, ← Text.Utf8.size,
        ← Text.Utf8.size, hsize, h.length] at hle
      exact absurd hle (by decide)
    rw [body, List.flatMap_nil, List.nil_append, encode_close,
      pieces_of_cut hne (hbefore.dropInfix?_eq _), pieces_of_not_infix hne hshort]
    rfl
  | cons r rest ih =>
    obtain ⟨hr, hrest⟩ := List.forall_mem_cons.1 hparts
    have hbody : body boundary contentType content (r :: rest) = encode (delimiter boundary) ++
        (piece contentType content r ++ body boundary contentType content rest) := by
      rw [body, List.flatMap_cons, part_eq, List.append_assoc, List.append_assoc, body]
    rw [hbody, pieces_of_cut hne (hbefore.dropInfix?_eq _), ih hrest (stopsBefore_piece h hr),
      List.map_cons, List.cons_append]

/-- All parts are read back. -/
theorem mapM_readPart? (htype : isGraphic contentType = true) (content : Bytes)
    (rs : List ByteRange) : (rs.map (piece contentType content)).mapM readPart? =
      some (rs.map (Part.ofRange contentType content)) := by
  induction rs with
  | nil => rfl
  | cons r rest ih =>
    rw [List.map_cons, List.mapM_cons, readPart?_piece htype, ih]
    rfl

/-- **A body is read back**: its parts are those that have been written, in order. -/
theorem read?_body (h : IsBoundary boundary) (htype : isGraphic contentType = true)
    (hparts : ∀ r ∈ rs, ¬ encode boundary <:+: piece contentType content r) :
    read? boundary (body boundary contentType content rs) =
      some (rs.map (Part.ofRange contentType content)) := by
  have hpieces := pieces_body h hparts (stopsBefore_nil _)
  rw [List.nil_append] at hpieces
  rw [read?, hpieces]
  simp only [List.getLast?_concat, List.dropLast_concat, if_true, mapM_readPart? htype]

/-- A part says which bytes of a file it holds, from the first to the last one, and holds them. -/
def Part.IsOf (contentType : Text) (content : Bytes) (r : ByteRange) (p : Part) : Prop :=
  ∃ first last : Nat, r = ⟨first, last + 1⟩ ∧ first ≤ last ∧ last < content.length ∧
    p.headers = [(("content-type" : Text), contentType), (("content-range" : Text), "bytes " ++
      (Text.ofNat first ++ '-' :: Text.ofNat last ++ '/' :: Text.ofNat content.length))] ∧
    p.data = (content.drop first).take (last + 1 - first)

/-- A part is that of its range. -/
theorem isOf_ofRange (contentType : Text) (hr : r.IsWithin content.length) :
    (Part.ofRange contentType content r).IsOf contentType content r := by
  obtain ⟨first, last, rfl, hle, hlast⟩ := hr.exists_eq
  refine ⟨first, last, rfl, hle, hlast, ?_, ByteRange.slice_eq first last content⟩
  rw [← ByteRange.contentRange_eq]
  rfl

/-- **Whoever reads a body gets the bytes of each range**, and is told which they are. -/
theorem exists_read?_body (h : IsBoundary boundary) (htype : isGraphic contentType = true)
    (hrs : ∀ r ∈ rs, r.IsWithin content.length)
    (hparts : ∀ r ∈ rs, ¬ encode boundary <:+: piece contentType content r) :
    ∃ parts, read? boundary (body boundary contentType content rs) = some parts ∧
      List.Forall₂ (Part.IsOf contentType content) rs parts := by
  refine ⟨_, read?_body h htype hparts, ?_⟩
  rw [List.forall₂_map_right_iff, List.forall₂_same]
  exact fun r hr ↦ isOf_ofRange contentType (hrs r hr)

/-! ### The length of a body -/

theorem size_contentRange (size : Nat) (r : ByteRange) : Text.Utf8.size (r.contentRange size) =
    8 + (Text.ofInt r.first).length + (Text.ofInt (r.stop - 1)).length +
      (Text.ofNat size).length := by
  have hbytes : ("bytes " : Text).length = 6 := rfl
  refine (Text.size_of_isGraphic (isGraphic_contentRange size r)).trans ?_
  unfold ByteRange.contentRange
  simp only [List.length_append, List.length_cons, hbytes]
  omega

/-- A part is as long as it was reckoned to be. -/
theorem length_part (boundary contentType : Text) (hr : r.IsWithin content.length) :
    (part boundary contentType content r).length =
      partLength boundary contentType content.length r := by
  have hhyphens : Text.Utf8.size "--" = 2 := rfl
  have hbreak : Text.Utf8.size lineBreak = 2 := rfl
  have htype : Text.Utf8.size "Content-Type: " = 14 := rfl
  have hrange : Text.Utf8.size "Content-Range: " = 15 := rfl
  have hsize := size_contentRange content.length r
  rw [part, List.length_append, List.length_append, ByteRange.length_slice hr, ← Text.Utf8.size,
    ← Text.Utf8.size, partHead]
  simp only [Text.Utf8.size_append, hhyphens, hbreak, htype, hrange, hsize, partLength, fixedLength]
  omega

/-- **A body is as long as is said of it beforehand.** -/
theorem length_body (boundary contentType : Text)
    (hrs : ∀ r ∈ rs, r.IsWithin content.length) :
    (body boundary contentType content rs).length =
      length boundary contentType content.length rs := by
  induction rs with
  | nil =>
    have hhyphens : Text.Utf8.size "--" = 2 := rfl
    rw [body, List.flatMap_nil, List.nil_append, ← Text.Utf8.size, close, Text.Utf8.size_append,
      Text.Utf8.size_append, hhyphens, length, List.foldr_nil]
    omega
  | cons r rest ih =>
    obtain ⟨hr, hrest⟩ := List.forall_mem_cons.1 hrs
    have hbody : body boundary contentType content (r :: rest) =
        part boundary contentType content r ++ body boundary contentType content rest := by
      rw [body, List.flatMap_cons, List.append_assoc, body]
    rw [hbody, List.length_append, length_part boundary contentType hr, ih hrest, length, length,
      List.foldr_cons]

end StaticServer.Multipart
