import StaticServer.Http.FileResponse
import StaticServer.Proofs.Http.Multipart

/-!
# What is written into headers

The values of headers are made of names of types, numbers, dates, digests and boundaries, and each
of these is a graphic text (`Text.isGraphic`). Nothing else of a file comes into a header: its name
only chooses the type out of a table, and its bytes and its modification time only count.
-/

namespace StaticServer

open Text (isGraphic isGraphicChar)

/-! ### Types -/

namespace MediaType

/-- Every media type that a name gives is graphic. -/
theorem isGraphic_ofName (name : Text) : isGraphic (ofName name) = true := by
  have htable : ∀ row ∈ table, isGraphic row.1 = true := by decide +kernel
  rcases htype : (extension? name).bind ofExtension? with - | mediaType
  · rw [ofName, htype]
    decide
  · rw [ofName, htype, Option.getD_some]
    obtain ⟨ext, -, hext⟩ := Option.bind_eq_some_iff.1 htype
    obtain ⟨row, hrow, rfl⟩ := Option.map_eq_some_iff.1 hext
    exact htable row (List.mem_of_find?_eq_some hrow)

/-- **The type of a file is a graphic text**, whatever its name. -/
theorem isGraphic_header_ofName (name : Text) : isGraphic (header (ofName name)) = true := by
  have hcharset : isGraphic "; charset=utf-8" = true := by decide
  rw [header]
  split
  · exact Text.isGraphic_append.trans (Bool.and_eq_true_iff.2 ⟨isGraphic_ofName name, hcharset⟩)
  · exact isGraphic_ofName name

end MediaType

namespace ServedFile

theorem isGraphic_contentType (f : ServedFile) : isGraphic f.contentType = true :=
  MediaType.isGraphic_header_ofName f.name

end ServedFile

/-! ### Tags and dates -/

/-- A digest is written in hexadecimal digits. -/
theorem Md5.exists_digit_of_mem_hexDigest {t : Text} {c : Char} (h : c ∈ hexDigest t) :
    ∃ n < 16, c = Nat.digitChar n := by
  obtain ⟨b, -, hb⟩ := List.mem_flatMap.1 h
  have hhigh : b.toNat / 16 < 16 := Nat.div_lt_of_lt_mul b.toNat_lt
  have hlow : b.toNat % 16 < 16 := Nat.mod_lt _ (by decide)
  simp only [hexByte, List.mem_cons, List.not_mem_nil, or_false] at hb
  rcases hb with rfl | rfl
  · exact ⟨_, hhigh, rfl⟩
  · exact ⟨_, hlow, rfl⟩

theorem Md5.isGraphic_hexDigest (t : Text) : isGraphic (hexDigest t) = true := by
  have hdigit : ∀ n < 16, isGraphicChar (Nat.digitChar n) = true := by decide
  refine List.all_eq_true.2 fun c hc ↦ ?_
  obtain ⟨n, hn, rfl⟩ := exists_digit_of_mem_hexDigest hc
  exact hdigit n hn

namespace Calendar

theorem isGraphic_padded (width : Nat) (n : Int) : isGraphic (padded width n) = true := by
  have hzero : isGraphicChar '0' = true := by decide
  have hzeros (k : Nat) : isGraphic (List.replicate k '0') = true :=
    List.all_eq_true.2 fun c hc ↦ by rw [List.eq_of_mem_replicate hc, hzero]
  rw [padded, Text.padZero, Text.isGraphic_append, hzeros, Text.isGraphic_ofInt]
  rfl

theorem isGraphic_getD {names : List Text} (h : ∀ name ∈ names, isGraphic name = true) (i : Nat) :
    isGraphic (names.getD i []) = true := by
  rw [List.getD_eq_getElem?_getD]
  rcases hname : names[i]? with - | name
  · rfl
  · exact h name (List.mem_of_getElem? hname)

/-- **A date is a graphic text**, also one that no header could show. -/
theorem HttpDate.isGraphic_print (seconds : Int) : isGraphic (print seconds) = true := by
  have hdays (i : Nat) : isGraphic (dayNames.getD i []) = true := isGraphic_getD (by decide) i
  have hmonths (i : Nat) : isGraphic (monthNames.getD i []) = true := isGraphic_getD (by decide) i
  have hcomma : isGraphic ", " = true := by decide
  have hzone : isGraphic " GMT" = true := by decide
  have hmarks : isGraphicChar ' ' = true ∧ isGraphicChar ':' = true := by decide
  simp only [print, Text.isGraphic_append, Text.isGraphic_cons, isGraphic_padded, hdays, hmonths,
    hcomma, hzone, hmarks, Bool.and_true]

end Calendar

namespace Validator

theorem isGraphic_etagOf (data : FileData) : isGraphic (etagOf data) = true := by
  have hmark : isGraphicChar '\x22' = true := by decide
  simp only [etagOf, Text.isGraphic_append, Text.isGraphic_cons, Text.isGraphic_nil,
    Md5.isGraphic_hexDigest, hmark, Bool.and_true]

/-- Both texts of a validator are graphic. -/
theorem isGraphic_of_ofFile? {data : FileData} {v : Validator} (h : ofFile? data = some v) :
    isGraphic v.etag = true ∧ isGraphic v.lastModified = true := by
  rw [ofFile?] at h
  split at h
  · obtain rfl := Option.some_inj.1 h
    exact ⟨isGraphic_etagOf data, Calendar.HttpDate.isGraphic_print _⟩
  · cases h

end Validator

/-- A file of a tree has a validator of graphic texts. -/
theorem ServedFile.isGraphic_of_of? {name : Text} {data : FileData} {f : ServedFile}
    (h : of? name data = some f) :
    isGraphic f.validator.etag = true ∧ isGraphic f.validator.lastModified = true := by
  obtain ⟨v, hv, rfl⟩ := Option.map_eq_some_iff.1 h
  exact Validator.isGraphic_of_ofFile? hv

/-! ### Several ranges, and none -/

/-- The media type of several parts is graphic, for every boundary. -/
theorem Multipart.isGraphic_mediaType {boundary : Text} (h : IsBoundary boundary) :
    isGraphic (mediaType boundary) = true := by
  have hfront : isGraphic "multipart/byteranges; boundary=" = true := by decide
  exact Text.isGraphic_append.trans (Bool.and_eq_true_iff.2 ⟨hfront, h.isGraphic⟩)

theorem ByteRange.isGraphic_noContentRange (size : Nat) :
    isGraphic (noContentRange size) = true := by
  have hfront : isGraphic "bytes */" = true := by decide
  exact Text.isGraphic_append.trans (Bool.and_eq_true_iff.2 ⟨hfront, Text.isGraphic_ofNat size⟩)

end StaticServer
