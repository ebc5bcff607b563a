import Mathlib.Tactic.SplitIfs
import StaticServer.Http.FileResponse

/-!
# Responses with a file, by their status

A file can be sent when a date can show its modification time (`isSome_ofFile?_iff`), and whether it
can has nothing to do with its bytes. However it is sent, whole, in part or not at all, the status
tells the response from that of a failure (`respond_status_ne`), and the status of a part says that
there are ranges to be sent (`exists_ranges_of_status`). A request without conditions and without a
range gets the whole file (`respond_of_isPlain`), and a client that has the version already gets
nothing but its tag (`respond_of_isFresh`).
-/

namespace StaticServer

/-! ### Files that can be dated -/

namespace Validator

/-- A file has a validator exactly if a date can show its modification time. -/
theorem isSome_ofFile?_iff {data : FileData} : (ofFile? data).isSome = true ↔
    dateRange.1 ≤ Timestamp.wholeSeconds (Timestamp.seconds data.modified) ∧
      Timestamp.wholeSeconds (Timestamp.seconds data.modified) ≤ dateRange.2 := by
  rw [ofFile?]
  split
  · next h => exact iff_of_true rfl h
  · next h => exact iff_of_false Bool.false_ne_true h

/-- Whatever bytes a file holds, there is a modification time that can be shown and one that
cannot. -/
theorem exists_modified (data : FileData) (dated : Bool) :
    ∃ modified, (ofFile? { data with modified := modified }).isSome = dated := by
  rcases dated with - | -
  · have hlate : Timestamp.wholeSeconds (Timestamp.seconds (10 ^ 21)) = 10 ^ 12 := by
      decide +kernel
    refine ⟨10 ^ 21, Bool.eq_false_iff.2 fun h ↦ ?_⟩
    have hle := (isSome_ofFile?_iff.1 h).2
    rw [hlate] at hle
    exact absurd hle (by decide)
  · have hzero : Timestamp.wholeSeconds (Timestamp.seconds 0) = 0 := by decide +kernel
    refine ⟨0, isSome_ofFile?_iff.2 ?_⟩
    rw [hzero]
    decide

end Validator

/-! ### How a file is sent -/

/-- A request without a range and without a condition on the version of the file. -/
structure Request.IsPlain (r : Request) : Prop where
  /-- It asks for no range. -/
  range : r.header? "range" = none
  /-- It names no entity tag. -/
  tag : r.header? "if-none-match" = none
  /-- It gives no date. -/
  date : r.header? "if-modified-since" = none

namespace ServedFile

/-- A file with a validator can be served, with its content. -/
theorem exists_of? {data : FileData} (name : Text) (h : (Validator.ofFile? data).isSome = true) :
    ∃ f, of? name data = some f ∧ f.content = data.content := by
  obtain ⟨validator, hvalidator⟩ := Option.isSome_iff_exists.1 h
  refine ⟨⟨name, data.content, validator⟩, ?_, rfl⟩
  unfold of?
  rw [hvalidator, Option.map_some]

/-- Without one it cannot. -/
theorem of?_eq_none {data : FileData} (name : Text) (h : (Validator.ofFile? data).isSome = false) :
    of? name data = none := by
  unfold of?
  rw [Option.map_eq_none_iff, ← Option.not_isSome_iff_eq_none, h]
  exact Bool.false_ne_true

theorem bodyFor_of_head {r : Request} (hhead : r.verb = "HEAD") (body : Bytes) :
    bodyFor r body = [] :=
  if_pos hhead

theorem bodyFor_of_ne {r : Request} (hhead : r.verb ≠ "HEAD") (body : Bytes) :
    bodyFor r body = body :=
  if_neg hhead

variable (f : ServedFile) (boundary : Text) (r : Request)

/-- The answer to a Range header has one of four statuses. -/
theorem ranged_status (header : Text) :
    (f.ranged boundary r header).status ∈ [200, 206, 400, 416] := by
  rw [ranged]
  split
  · show 200 ∈ [200, 206, 400, 416]
    decide
  · show 400 ∈ [200, 206, 400, 416]
    decide
  · show 416 ∈ [200, 206, 400, 416]
    decide
  · show 206 ∈ [200, 206, 400, 416]
    decide
  · show 206 ∈ [200, 206, 400, 416]
    decide

/-- The answer for a file has one of five statuses. -/
theorem respond_status : (f.respond boundary r).status ∈ [200, 206, 304, 400, 416] := by
  have hwhole : (f.whole 200 r).status ∈ [200, 206, 304, 400, 416] := List.mem_cons_self
  rw [respond]
  split_ifs
  · show 304 ∈ [200, 206, 304, 400, 416]
    decide
  · split
    · next header _ =>
      have hstatus := f.ranged_status boundary r header
      simp only [List.mem_cons, List.not_mem_nil, or_false] at hstatus ⊢
      omega
    · exact hwhole
  · exact hwhole

/-- **No file is answered for with the status of a failure.** -/
theorem respond_status_ne : (f.respond boundary r).status ≠ 500 := by
  intro h
  have hstatus := f.respond_status boundary r
  rw [h] at hstatus
  exact absurd hstatus (by decide)

variable {f boundary r}

/-- Only a file that is sent for its ranges gets the status of a part. -/
theorem exists_ranges_of_status (h : (f.respond boundary r).status = 206) :
    ∃ header rs, r.header? "range" = some header ∧
      ByteRange.select f.content.length header = .ranges rs ∧
      f.respond boundary r = f.ranged boundary r header := by
  rw [respond] at h ⊢
  split_ifs at h ⊢
  · cases h
  · rcases hheader : r.header? "range" with - | header
    · rw [hheader] at h
      cases h
    · simp only [hheader] at h ⊢
      rcases hselect : ByteRange.select f.content.length header with _ | fault | _ | rs
      · rw [ranged, hselect] at h
        cases h
      · rw [ranged, hselect] at h
        cases h
      · rw [ranged, hselect] at h
        cases h
      · exact ⟨header, rs, rfl, hselect, rfl⟩
  · cases h

/-- One range is sent as it is. -/
theorem ranged_of_single {header : Text} {range : ByteRange}
    (hselect : ByteRange.select f.content.length header = .ranges [range]) :
    f.ranged boundary r header = f.single r range := by
  rw [ranged, hselect]

/-- Several ranges are sent as the parts of a body. -/
theorem ranged_of_several {header : Text} {rs : List ByteRange}
    (hselect : ByteRange.select f.content.length header = .ranges rs) (hrs : 1 < rs.length) :
    f.ranged boundary r header = f.several boundary r rs := by
  rw [ranged, hselect]
  split
  · next heq => cases heq
  · next heq => cases heq
  · next heq => cases heq
  · next range heq =>
    rw [RangeRequest.ranges.inj heq] at hrs
    exact absurd hrs (Nat.lt_irrefl 1)
  · next heq => rw [RangeRequest.ranges.inj heq]

variable (f boundary)

/-- Without a conditional header no version is known to the client. -/
theorem isFresh_of_isPlain (h : r.IsPlain) : f.validator.isFresh r = false := by
  rw [Validator.isFresh, h.tag, h.date]

/-- A client that has the version is told so, whatever else it asks for. -/
theorem respond_of_isFresh (h : f.validator.isFresh r = true) :
    f.respond boundary r = f.notModified := by
  rw [respond, if_pos h]

/-- A client that has not, and asks for no range, gets the whole file. -/
theorem respond_of_not_isFresh (h : f.validator.isFresh r = false)
    (hrange : r.header? "range" = none) : f.respond boundary r = f.whole 200 r := by
  rw [respond, if_neg (by simp [h]), hrange]
  split <;> rfl

/-- A request without range and conditions gets the whole file. -/
theorem respond_of_isPlain (h : r.IsPlain) : f.respond boundary r = f.whole 200 r :=
  f.respond_of_not_isFresh boundary (f.isFresh_of_isPlain h) h.range

variable {f boundary}

/-- Only a client that has the version is told that it is not modified. -/
theorem isFresh_of_status (h : (f.respond boundary r).status = 304) :
    f.validator.isFresh r = true := by
  rw [respond] at h
  split_ifs at h with hfresh
  · exact hfresh
  · split at h
    · next header _ =>
      have hstatus := f.ranged_status boundary r header
      rw [h] at hstatus
      exact absurd hstatus (by decide)
    · cases h
  · cases h

end ServedFile

end StaticServer
