import StaticServer.Proofs.Http.HeaderText
import StaticServer.Proofs.Site.Framing

/-!
# Several ranges of a file in one response

Status 206 is for a file that was asked for ranges of it (`App.exists_ranged_of_status`). When there
is more than one of them, the body holds a part for each, and whoever knows the boundary can take it
apart again: the parts are those ranges, in order, and each one says which bytes of the file it
holds (`App.several_ranges`).

The boundary is told by the type of the response, unless the address ends like the name of a module:
then the type of a module takes the place of it, and the response does not say how it is to be read.
-/

namespace StaticServer

open Text.Utf8 (encode)

/-- The type of the file at a place. -/
def Site.typeOf (place : Path) : Text :=
  MediaType.header (MediaType.ofName (place.getLast?.getD []))

/-- The type of a response with several ranges names the boundary. -/
theorem ServedFile.valuesOf_type_several (f : ServedFile) (boundary : Text) (r : Request)
    (rs : List ByteRange) : (f.several boundary r rs).headers.valuesOf "content-type" =
      [Multipart.mediaType boundary] :=
  (Headers.valuesOf_set_of_ne (by decide) _ _).trans (Headers.valuesOf_set_self _ _ _)

namespace App

variable {app : App} {t : FileTree} {r : Request} {place : Path} {data : FileData}
  {rs : List ByteRange}

/-- A request is for the file at a place and asks for some ranges of it. -/
structure AsksRanges (app : App) (t : FileTree) (r : Request) (place : Path) (data : FileData)
    (rs : List ByteRange) : Prop where
  /-- The file is what the request is answered with. -/
  chosen : app.site.choose ⟨t, r.denied⟩ r = .ok (.file place data)
  /-- A Range header comes to these ranges. -/
  ranges : ∃ header, r.header? "range" = some header ∧
    ByteRange.select data.content.length header = .ranges rs

/-- A request asks for the ranges of one file. -/
theorem AsksRanges.unique {place' : Path} {data' : FileData} {rs' : List ByteRange}
    (h : app.AsksRanges t r place data rs) (h' : app.AsksRanges t r place' data' rs') :
    place = place' ∧ data = data' ∧ rs = rs' := by
  have hchosen := h.chosen.symm.trans h'.chosen
  obtain ⟨rfl, rfl⟩ := Site.Choice.file.inj (Except.ok.inj hchosen)
  obtain ⟨header, hheader, hselect⟩ := h.ranges
  obtain ⟨header', hheader', hselect'⟩ := h'.ranges
  obtain rfl := Option.some_inj.1 (hheader.symm.trans hheader')
  exact ⟨rfl, rfl, RangeRequest.ranges.inj (hselect.symm.trans hselect')⟩

/-- The ranges lie inside the file. -/
theorem AsksRanges.isWithin (h : app.AsksRanges t r place data rs) :
    ∀ range ∈ rs, range.IsWithin data.content.length := by
  obtain ⟨header, -, hselect⟩ := h.ranges
  exact ByteRange.isWithin_of_select hselect

/-- **Status 206 is for ranges of a file** that a Range header comes to. -/
theorem exists_ranged_of_status (h : (app.handle t r).1.status = 206) :
    ∃ place data header rs f, app.site.choose ⟨t, r.denied⟩ r = .ok (.file place data) ∧
      r.header? "range" = some header ∧
      ByteRange.select data.content.length header = .ranges rs ∧
      ServedFile.of? (place.getLast?.getD []) data = some f ∧
      app.inner? t r = some (f.ranged app.site.boundary r header) := by
  obtain ⟨a, hinner, hmakes, hstatus⟩ := exists_makes_of_status (by decide) h
  cases hmakes with
  | @file place data f hpath hchoose hfile =>
    obtain ⟨header, rs, hheader, hselect, hrespond⟩ := ServedFile.exists_ranges_of_status hstatus
    obtain ⟨v, -, rfl⟩ := Option.map_eq_some_iff.1 hfile
    exact ⟨place, data, header, rs, _, hchoose, hheader, hselect, hfile, by rw [hinner, hrespond]⟩
  | _ => cases hstatus

/-- Several ranges are sent in parts. -/
theorem exists_several_of_status (h : (app.handle t r).1.status = 206) :
    ∃ place data rs f, app.AsksRanges t r place data rs ∧
      ServedFile.of? (place.getLast?.getD []) data = some f ∧
      (1 < rs.length → app.inner? t r = some (f.several app.site.boundary r rs)) := by
  obtain ⟨place, data, header, rs, f, hchoose, hheader, hselect, hfile, hinner⟩ :=
    exists_ranged_of_status h
  obtain ⟨v, -, rfl⟩ := Option.map_eq_some_iff.1 hfile
  refine ⟨place, data, rs, _, ⟨hchoose, header, hheader, hselect⟩, hfile, fun hmany ↦ ?_⟩
  exact hinner.trans (congrArg some (ServedFile.ranged_of_several hselect hmany))

/-- **Several ranges are sent in parts that can be told apart.** For every file that is sent in more
than one range, none of whose parts holds the boundary, the response has one type. It names the
boundary, or is the type of a module if the address ends like one, and reading the body with the
boundary gives exactly the ranges in order, each with its place in the file and its bytes. -/
theorem several_ranges (app : App) (t : FileTree) (r : Request)
    (hboundary : Multipart.IsBoundary app.site.boundary) (hget : r.verb = "GET")
    (hstatus : (app.handle t r).1.status = 206) :
    ∃ place data rs, app.AsksRanges t r place data rs ∧
      (1 < rs.length →
        (∀ range ∈ rs, ¬ encode app.site.boundary <:+:
          Multipart.piece (Site.typeOf place) data.content range) →
        (app.handle t r).1.headers.valuesOf "content-type" =
          [if DevHeaders.wasmSuffix <:+ Location.path r then MediaType.wasm
            else Multipart.mediaType app.site.boundary] ∧
        ∃ parts, Multipart.read? app.site.boundary (app.handle t r).1.body = some parts ∧
          List.Forall₂ (Multipart.Part.IsOf (Site.typeOf place) data.content) rs parts) := by
  have hverb : r.verb ≠ "HEAD" := by
    rw [hget]
    decide
  obtain ⟨place, data, rs, f, hasks, hfile, hinner⟩ := exists_several_of_status hstatus
  obtain ⟨v, -, rfl⟩ := Option.map_eq_some_iff.1 hfile
  refine ⟨place, data, rs, hasks, fun hmany hparts ↦ ?_⟩
  rw [handle_of_inner? (hinner hmany), deliver_of_ne hverb]
  constructor
  · rw [DevHeaders.valuesOf_type_put, ServedFile.valuesOf_type_several]
    have hsuccess : 206 < 400 := by decide
    by_cases hwasm : DevHeaders.wasmSuffix <:+ Location.path r
    · rw [if_pos ⟨hwasm, hsuccess⟩, if_pos hwasm]
    · rw [if_neg fun h ↦ hwasm h.1, if_neg hwasm]
  · rw [DevHeaders.body_put, ServedFile.several, ServedFile.bodyFor_of_ne hverb]
    exact Multipart.exists_read?_body hboundary (MediaType.isGraphic_header_ofName _)
      hasks.isWithin hparts

/-- Ten bytes. -/
def tenBytes : FileData :=
  ⟨encode "0123456789", 0⟩

/-- A tree with a file of ten bytes and a module of ten bytes. -/
def rangeTree : FileTree :=
  ⟨[(["site"], .directory), (["site", "n"], .file tenBytes), (["site", "m.wasm"], .file tenBytes)],
    [], by decide⟩

/-- A request for two ranges of two bytes each. -/
def pairRequest (target : Text) : Request :=
  ⟨"GET", target, [("range", "bytes=0-1,4-5")], []⟩

/-- The two ranges. -/
def rangePair : List ByteRange :=
  [⟨0, 2⟩, ⟨4, 6⟩]

theorem asksRanges_rangeTree (target : Text) (place : Path)
    (h : boundaryApp.site.choose ⟨rangeTree, []⟩ (pairRequest target) =
      .ok (.file place tenBytes)) :
    boundaryApp.AsksRanges rangeTree (pairRequest target) place tenBytes rangePair :=
  ⟨h, _, rfl, by decide +kernel⟩

/-- The case of two ranges of ten bytes. -/
theorem several_ranges_rangeTree :
    (boundaryApp.handle rangeTree (pairRequest "/n")).1.status = 206 ∧
    (boundaryApp.handle rangeTree (pairRequest "/n")).1.headers.valuesOf "content-type" =
      [("multipart/byteranges; boundary=00000000000000000000000000" : Text)] ∧
    ∃ parts, Multipart.read? (List.replicate 26 '0')
        (boundaryApp.handle rangeTree (pairRequest "/n")).1.body = some parts ∧
      List.Forall₂ (Multipart.Part.IsOf MediaType.unknown tenBytes.content) rangePair parts := by
  have hstatus : (boundaryApp.handle rangeTree (pairRequest "/n")).1.status = 206 := by
    decide +kernel
  obtain ⟨place, data, rs, hasks, hread⟩ := several_ranges boundaryApp rangeTree
    (pairRequest "/n") Multipart.isBoundary_replicate (by decide) hstatus
  obtain ⟨rfl, rfl, rfl⟩ := hasks.unique
    (asksRanges_rangeTree "/n" ["site", "n"] (by decide +kernel))
  obtain ⟨htype, hparts⟩ := hread (by decide) (by decide +kernel)
  exact ⟨hstatus, htype, hparts⟩

/-- **A module that is sent in several ranges does not say how it is to be read**: no part of it
holds the boundary, but its type is that of a module. -/
theorem not_multipart_rangeTree :
    Multipart.IsBoundary boundaryApp.site.boundary ∧
    (boundaryApp.handle rangeTree (pairRequest "/m.wasm")).1.status = 206 ∧
    boundaryApp.AsksRanges rangeTree (pairRequest "/m.wasm") ["site", "m.wasm"] tenBytes
      rangePair ∧
    (∀ range ∈ rangePair, ¬ encode boundaryApp.site.boundary <:+:
      Multipart.piece (Site.typeOf ["site", "m.wasm"]) tenBytes.content range) ∧
    ∀ boundary, (boundaryApp.handle rangeTree
      (pairRequest "/m.wasm")).1.headers.valuesOf "content-type" ≠
        [Multipart.mediaType boundary] := by
  have htype : (boundaryApp.handle rangeTree
      (pairRequest "/m.wasm")).1.headers.valuesOf "content-type" = [MediaType.wasm] := by
    decide +kernel
  refine ⟨Multipart.isBoundary_replicate, by decide +kernel,
    asksRanges_rangeTree "/m.wasm" ["site", "m.wasm"] (by decide +kernel), by decide +kernel,
    fun boundary heq ↦ ?_⟩
  rw [htype] at heq
  -- the two types differ in their first character
  have hhead := congrArg List.head? (List.cons.inj heq).1
  cases hhead

end App

end StaticServer
