import StaticServer.Proofs.Http.RangeHeader
import StaticServer.Proofs.Site.Confinement
import StaticServer.Proofs.Site.Parts

/-!
# Partial content

A response with status 206 holds exactly the bytes of a file that the request asked for
(`App.partial_content`). The bytes asked for are told from the text of the Range header alone
(`ByteRange.IsAsked`), those that are sent by the ranges: these lie in the file, in increasing order
and with a byte between each two of them, and together they hold what was asked for. One range is
sent as it is, under a header that says where it stands; several are sent in parts
(`Response.IsOfRanges`).
-/

namespace StaticServer

open Text.Utf8 (encode)

/-- A response sends ranges of some content. -/
inductive Response.IsOfRanges (boundary contentType : Text) (content : Bytes) :
    List ByteRange → Response → Prop
  /-- One range: the bytes from the first through the last, and a header that says so. -/
  | one {first last : Nat} {a : Response}
      (hbody : a.body = (content.drop first).take (last + 1 - first))
      (hrange : a.headers.valuesOf "content-range" = ["bytes " ++
        (Text.ofNat first ++ '-' :: Text.ofNat last ++ '/' :: Text.ofNat content.length)]) :
      IsOfRanges boundary contentType content [⟨first, last + 1⟩] a
  /-- Several ranges: the head of a part before the bytes of each of them, in order, and what ends
  the body. -/
  | several {rs : List ByteRange} {a : Response} (hmany : 1 < rs.length)
      (hbody : a.body = (rs.flatMap fun range ↦
          encode (Multipart.partHead boundary contentType content.length range) ++
            (range.slice content ++ encode Multipart.lineBreak)) ++
        encode (Multipart.close boundary)) :
      IsOfRanges boundary contentType content rs a

namespace App

variable {app : App} {t : FileTree} {r : Request}

/-- One range is sent as it is, and the headers for development leave the place of it. -/
theorem isOfRanges_single {range : ByteRange} (f : ServedFile) (boundary : Text)
    (hverb : r.verb ≠ "HEAD") (hrange : range.IsWithin f.content.length) :
    (deliver r (DevHeaders.put r (f.single r range))).IsOfRanges boundary f.contentType f.content
      [range] := by
  obtain ⟨first, last, rfl, -, -⟩ := hrange.exists_eq
  rw [deliver_of_ne hverb]
  refine .one ?_ ?_
  · rw [DevHeaders.body_put, ServedFile.single, ServedFile.bodyFor_of_ne hverb, ByteRange.slice_eq]
  · rw [DevHeaders.valuesOf_put (by decide) (by decide) (by decide), ← ByteRange.contentRange_eq]
    exact (Headers.valuesOf_set_of_ne (by decide) _ _).trans (Headers.valuesOf_set_self _ _ _)

/-- Several ranges are sent in parts. -/
theorem isOfRanges_several {rs : List ByteRange} (f : ServedFile) (boundary : Text)
    (hverb : r.verb ≠ "HEAD") (hmany : 1 < rs.length) :
    (deliver r (DevHeaders.put r (f.several boundary r rs))).IsOfRanges boundary f.contentType
      f.content rs := by
  rw [deliver_of_ne hverb]
  refine .several hmany ?_
  rw [DevHeaders.body_put, ServedFile.several, ServedFile.bodyFor_of_ne hverb]
  rfl

/-- **Partial content is exactly what was asked for.** Whenever `GET` is answered with status 206,
there is a file behind the path and a Range header. The ranges that are sent are not none, lie
inside the file, are in increasing order with at least a byte between neighbours, and hold exactly
the bytes that the parts of the header ask for. The body consists of their bytes, and of the heads
and the end that go with several ranges. -/
theorem partial_content (app : App) (t : FileTree) (r : Request) (hget : r.verb = "GET")
    (hstatus : (app.handle t r).1.status = 206) :
    ∃ place q data header rs, app.site.choose ⟨t, r.denied⟩ r = .ok (.file place data) ∧
      t.resolve (Path.text place) = .ok q ∧ t.get? q = some (.file data) ∧
      r.header? "range" = some header ∧
      rs ≠ [] ∧ (∀ range ∈ rs, range.IsWithin data.content.length) ∧
      rs.Pairwise ByteRange.IsBefore ∧
      (∀ i, (∃ range ∈ rs, range.Holds i) ↔ ByteRange.IsAsked data.content.length header i) ∧
      (app.handle t r).1.IsOfRanges app.site.boundary (Site.typeOf place) data.content rs := by
  have hverb : r.verb ≠ "HEAD" := by
    rw [hget]
    decide
  obtain ⟨place, data, header, rs, f, hchoose, hheader, hselect, hfile, hinner⟩ :=
    exists_ranged_of_status hstatus
  obtain ⟨q, hresolve, hentry⟩ := exists_resolve_of_choose hchoose rfl
  obtain ⟨v, -, hf⟩ := Option.map_eq_some_iff.1 hfile
  have hcontent : f.content = data.content := by rw [← hf]
  have htype : f.contentType = Site.typeOf place := by
    rw [← hf]
    rfl
  refine ⟨place, q, data, header, rs, hchoose, hresolve, hentry, hheader,
    ByteRange.ne_nil_of_select hselect, ByteRange.isWithin_of_select hselect,
    ByteRange.pairwise_of_select hselect, fun i ↦ ByteRange.exists_holds_iff_isAsked hselect, ?_⟩
  rw [handle_of_inner? hinner, ← hcontent, ← htype]
  rw [← hcontent] at hselect
  rcases rs with - | ⟨range, - | ⟨next, rest⟩⟩
  · exact absurd rfl (ByteRange.ne_nil_of_select hselect)
  · have hwithin := ByteRange.isWithin_of_select hselect range List.mem_cons_self
    rw [ServedFile.ranged_of_single hselect]
    exact isOfRanges_single f app.site.boundary hverb hwithin
  · have hmany : 1 < (range :: next :: rest).length := by
      simp
    rw [ServedFile.ranged_of_several hselect hmany]
    exact isOfRanges_several f app.site.boundary hverb hmany

/-- A request with parts that overlap, that touch, that reach behind the end, and that are none. -/
def scatteredRequest : Request :=
  ⟨"GET", "/n", [("range", "bytes=7-20,0-1, 2-3 ,-1,x")], []⟩

/-- The case of ranges that are out of order and touch each other, reach beyond the end, or are
none. -/
theorem partial_content_rangeTree :
    (boundaryApp.handle rangeTree scatteredRequest).1.status = 206 ∧
    ∃ rs, rs ≠ [] ∧ (∀ range ∈ rs, range.IsWithin 10) ∧ rs.Pairwise ByteRange.IsBefore ∧
      (∀ i, (∃ range ∈ rs, range.Holds i) ↔
        ByteRange.IsAsked 10 "bytes=7-20,0-1, 2-3 ,-1,x" i) ∧
      (boundaryApp.handle rangeTree scatteredRequest).1.IsOfRanges (List.replicate 26 '0')
        MediaType.unknown (encode "0123456789") rs := by
  have hstatus : (boundaryApp.handle rangeTree scatteredRequest).1.status = 206 := by
    decide +kernel
  have hfile : boundaryApp.site.choose ⟨rangeTree, []⟩ scatteredRequest =
      .ok (.file ["site", "n"] tenBytes) := by
    decide +kernel
  obtain ⟨place, q, data, header, rs, hchoose, -, -, hheader, hne, hwithin, hbefore, hholds,
    hranges⟩ := partial_content boundaryApp rangeTree scatteredRequest (by decide) hstatus
  obtain ⟨rfl, rfl⟩ := Site.Choice.file.inj (Except.ok.inj (hchoose.symm.trans hfile))
  obtain rfl : "bytes=7-20,0-1, 2-3 ,-1,x" = header := Option.some_inj.1 hheader
  exact ⟨hstatus, rs, hne, hwithin, hbefore, hholds, hranges⟩

end App

end StaticServer
