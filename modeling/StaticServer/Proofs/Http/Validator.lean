import StaticServer.Proofs.Calendar.HttpDate
import StaticServer.Proofs.Http.HeaderText
import StaticServer.Proofs.Number.Shortest

/-!
# Validators that a client sends back

The text that an entity tag is a digest of is the shortest text of a number of seconds, a hyphen and
a number of bytes. The number of bytes has no hyphen in it, so the text can be cut there, and both
numbers can be told from their texts: two versions have the same text exactly when they have the
same time, as a number of seconds, and the same size (`Validator.fingerprint_inj`).

A tag is one item of a list, without blanks, so what a list of tags names can be said without regard
to how it is read (`Validator.NamesTag`, `Validator.isNamedBy_iff`). A client that sends back the
tag, or without any tag the date, is found to have the version (`Validator.isFresh_of_asksAgain`).
-/

namespace StaticServer

namespace Text

/-- A text is cut at a separator that does not stand behind it any more. -/
theorem cutLast_append {sep : Char} {before after : Text} (h : sep ∉ after) :
    cutLast sep (before ++ sep :: after) = some (before, after) := by
  have hreverse : (before ++ sep :: after).reverse = after.reverse ++ sep :: before.reverse := by
    rw [List.reverse_append, List.reverse_cons, List.append_assoc, List.singleton_append]
  rw [cutLast, hreverse, cut_append fun hmem ↦ h (List.mem_reverse.1 hmem)]
  simp only [List.reverse_reverse]

end Text

namespace Validator

open Binary64 (IsNumber)
open Text (trim isBlank)

variable {data other : FileData} {etag t : Text} {v : Validator} {r : Request}

/-! ### What a tag is made of -/

/-- What programs read for a modification time is a number of theirs. -/
theorem isNumber_seconds (nanoseconds : Int) : IsNumber (Timestamp.seconds nanoseconds) :=
  Binary64.isNumber_round _

/-- **What a tag is made of tells the versions of a file apart** that differ in the number of
seconds or in size. -/
theorem fingerprint_inj : fingerprint data = fingerprint other ↔
    Timestamp.seconds data.modified = Timestamp.seconds other.modified ∧
      data.content.length = other.content.length := by
  have hcut (d : FileData) : Text.cutLast '-' (fingerprint d) =
      some (Shortest.text (Timestamp.seconds d.modified), Text.ofNat d.content.length) :=
    Text.cutLast_append ((Text.areDigits_ofNat _).not_mem rfl)
  constructor
  · intro h
    have hparts := hcut data
    rw [h, hcut other] at hparts
    obtain ⟨htext, hlength⟩ := Prod.mk.inj (Option.some_inj.1 hparts.symm)
    exact ⟨(Shortest.text_inj (isNumber_seconds _) (isNumber_seconds _)).1 htext,
      Text.ofNat_inj.1 hlength⟩
  · rintro ⟨hseconds, hlength⟩
    rw [fingerprint, fingerprint, hseconds, hlength]

/-- Two tags are the same when the digests are. -/
theorem etagOf_inj : etagOf data = etagOf other ↔
    Md5.hexDigest (fingerprint data) = Md5.hexDigest (fingerprint other) := by
  rw [etagOf, etagOf, List.append_cancel_right_eq, List.cons_inj_right]

/-- No character of a tag separates items or stands around them. -/
theorem not_separates_of_mem_etagOf {c : Char} (h : c ∈ etagOf data) :
    c ≠ ',' ∧ isBlank c = false := by
  have hdigit : ∀ n < 16, Nat.digitChar n ≠ ',' ∧ isBlank (Nat.digitChar n) = false := by decide
  have hmark : '\x22' ≠ ',' ∧ isBlank '\x22' = false := by decide
  rw [etagOf, List.mem_append, List.mem_cons, List.mem_singleton] at h
  rcases h with (rfl | h) | rfl
  · exact hmark
  · obtain ⟨n, hn, rfl⟩ := Md5.exists_digit_of_mem_hexDigest h
    exact hdigit n hn
  · exact hmark

/-- An entity tag has no blanks at its ends. -/
theorem trim_etagOf (data : FileData) : trim (etagOf data) = etagOf data :=
  Text.trimBy_eq_self fun _ hc ↦ (not_separates_of_mem_etagOf hc).2

/-- And no comma in it, so that a list of one tag is that tag. -/
theorem splitOn_etagOf (data : FileData) : (etagOf data).splitOn ',' = [etagOf data] :=
  List.splitOn_eq_singleton fun hmem ↦ (not_separates_of_mem_etagOf hmem).1 rfl

/-! ### What a list of tags names -/

/-- A list names a tag: one of its items is the tag, blanks apart, or the tag behind the mark of a
weak one. -/
def NamesTag (etag t : Text) : Prop :=
  ∃ item ∈ t.splitOn ',', trim item = etag ∨ trim item = "W/" ++ etag

instance (etag t : Text) : Decidable (NamesTag etag t) :=
  inferInstanceAs (Decidable (∃ item ∈ t.splitOn ',', _))

/-- The mark of a weak tag is dropped from an item, and a tag has none of its own. -/
theorem getD_dropLead?_eq_etagOf_iff {item : Text} :
    (Text.dropLead? "W/" item).getD item = etagOf data ↔
      item = etagOf data ∨ item = "W/" ++ etagOf data := by
  have hmark (rest : Text) : etagOf data ≠ "W/" ++ rest := by
    intro h
    cases (List.cons.inj h).1
  rcases hdrop : Text.dropLead? "W/" item with - | rest
  · rw [Option.getD_none, iff_self_or]
    rintro rfl
    rw [Text.dropLead?_eq_some_iff.2 rfl] at hdrop
    cases hdrop
  · obtain rfl := Text.dropLead?_eq_some_iff.1 hdrop
    rw [Option.getD_some, List.append_cancel_left_eq]
    exact (or_iff_right (hmark rest).symm).symm

/-- **What names a tag** is a star, or a list with the tag in it. -/
theorem isNamedBy_iff :
    isNamedBy (etagOf data) t = true ↔ trim t = "*" ∨ NamesTag (etagOf data) t := by
  rw [isNamedBy, Bool.or_eq_true, decide_eq_true_eq, List.contains_iff_mem, listedTags,
    List.mem_map]
  simp only [getD_dropLead?_eq_etagOf_iff, NamesTag]

/-- A tag by itself is neither a star nor a list of another tag. -/
theorem namesTag_etagOf_iff : trim (etagOf other) = "*" ∨ NamesTag (etagOf data) (etagOf other) ↔
    etagOf data = etagOf other := by
  rw [NamesTag, splitOn_etagOf, trim_etagOf]
  constructor
  · rintro (hstar | ⟨item, hitem, hnamed⟩)
    · cases (List.cons.inj hstar).1
    · rw [List.mem_singleton.1 hitem, trim_etagOf] at hnamed
      rcases hnamed with hsame | hweak
      · exact hsame.symm
      · cases (List.cons.inj hweak).1
  · intro h
    exact .inr ⟨etagOf other, List.mem_singleton_self _, .inl ((trim_etagOf other).trans h.symm)⟩

/-! ### What a client has -/

/-- A validator has the entity tag of its file and the date of a second that a date can show. -/
theorem ofFile?_eq_some (h : ofFile? data = some v) : v.etag = etagOf data ∧
    ∃ second, dateRange.1 ≤ second ∧ second ≤ dateRange.2 ∧
      v.lastModified = Calendar.HttpDate.print second := by
  rw [ofFile?] at h
  split at h
  · next hrange =>
    obtain rfl := Option.some_inj.1 h
    exact ⟨rfl, _, hrange.1, hrange.2, rfl⟩
  · cases h

/-- A date that a header shows is not before itself. -/
theorem isNotAfter_print {second : Int} (hfirst : dateRange.1 ≤ second)
    (hlast : second ≤ dateRange.2) :
    isNotAfter (Calendar.HttpDate.print second) (Calendar.HttpDate.print second) = true := by
  obtain ⟨d, hd⟩ := Option.isSome_iff_exists.1 (Calendar.HttpDate.isSome_parse?_print hfirst hlast)
  rw [isNotAfter, hd]
  exact d.notBefore_self

/-- **When tags are sent, they decide**, whatever date is sent with them. -/
theorem isFresh_iff (hv : ofFile? data = some v) (htags : r.header? "if-none-match" = some t)
    (hne : t ≠ []) : v.isFresh r = true ↔ trim t = "*" ∨ NamesTag (etagOf data) t := by
  obtain ⟨c, rest, rfl⟩ := List.exists_cons_of_ne_nil hne
  rw [isFresh, htags, ← isNamedBy_iff, (ofFile?_eq_some hv).1]

/-- A client that sends back the tag of another version has not the current one, unless the two
digests are the same. -/
theorem isFresh_eq_false (hv : ofFile? data = some v)
    (htags : r.header? "if-none-match" = some (etagOf other))
    (hversion : fingerprint data ≠ fingerprint other)
    (hdigest : Md5.hexDigest (fingerprint data) = Md5.hexDigest (fingerprint other) →
      fingerprint data = fingerprint other) : v.isFresh r = false := by
  rw [Bool.eq_false_iff, ne_eq, isFresh_iff hv htags (List.cons_ne_nil _ _), namesTag_etagOf_iff,
    etagOf_inj]
  exact fun hsame ↦ hversion (hdigest hsame)

end Validator

/-- A request asks again for a version: it sends back a star or the tag, or no tags and the date. -/
def Request.AsksAgain (r : Request) (etag date : Text) : Prop :=
  (∃ t, r.header? "if-none-match" = some t ∧ (Text.trim t = "*" ∨ Validator.NamesTag etag t)) ∨
    (∀ t, r.header? "if-none-match" = some t → t = []) ∧
      r.header? "if-modified-since" = some date

namespace Validator

variable {data : FileData} {v : Validator} {r : Request}

/-- **A client that asks again for a version has it.** -/
theorem isFresh_of_asksAgain (hv : ofFile? data = some v) (h : r.AsksAgain v.etag v.lastModified) :
    v.isFresh r = true := by
  obtain ⟨hetag, second, hfirst, hlast, hdate⟩ := ofFile?_eq_some hv
  rcases h with ⟨t, htags, hnamed⟩ | ⟨hnone, hsince⟩
  · -- an empty header names nothing
    have hne : t ≠ [] := by
      rintro rfl
      have hnothing : isNamedBy (etagOf data) [] = false := by
        rw [isNamedBy]
        rfl
      rw [hetag] at hnamed
      rw [isNamedBy_iff.2 hnamed] at hnothing
      cases hnothing
    rw [hetag] at hnamed
    exact (isFresh_iff hv htags hne).2 hnamed
  · have hdated : isNotAfter v.lastModified v.lastModified = true := by
      rw [hdate]
      exact isNotAfter_print hfirst hlast
    rcases htags : r.header? "if-none-match" with - | t
    · rw [isFresh, htags, hsince]
      exact hdated
    · obtain rfl := hnone t htags
      rw [isFresh, htags, hsince]
      exact hdated

end Validator

end StaticServer
