import StaticServer.Proofs.Http.Range

/-!
# What a range header asks for

A header asks for a byte of a file when one of its parts does (`IsAsked`): with a first and a last
byte, with a first byte alone, or for so many bytes at the end. This is said of the text, part by
part, without a range in between. The ranges that a header comes to hold exactly the bytes it asks
for (`exists_holds_iff_isAsked`): what reaches behind the file is cut off, and merging changes
nothing.
-/

namespace StaticServer.ByteRange

variable {size : Nat} {start stop part header : Text} {rs : List ByteRange} {i : Int}

/-- The two ends of a part, without the blanks around them, ask for a byte of a file of some
size. -/
inductive EndsAskFor (size : Nat) : Text → Text → Int → Prop
  /-- Both ends are numbers: the bytes from one through the other. -/
  | through {start stop : Text} {first last i : Int} (hfirst : Text.toInt? start = some first)
      (hlast : Text.toInt? stop = some last) (hle : first ≤ i) (hge : i ≤ last) :
      EndsAskFor size start stop i
  /-- There is no number at the end: the bytes from the first number on. -/
  | onwards {start : Text} {first i : Int} (hfirst : Text.toInt? start = some first)
      (hle : first ≤ i) : EndsAskFor size start [] i
  /-- There is no number at the start: so many bytes at the end of the file. -/
  | final {stop : Text} {n i : Int} (hn : Text.toInt? stop = some n) (hle : size - n ≤ i) :
      EndsAskFor size [] stop i

/-- A part of a header asks for a byte of a file of some size. A hyphen separates its ends. -/
def AsksFor (size : Nat) (part : Text) (i : Int) : Prop :=
  ∃ start stop, Text.trim part = start ++ '-' :: stop ∧ '-' ∉ start ∧
    EndsAskFor size (Text.trim start) (Text.trim stop) i

/-- A header asks for a byte of a file of some size: one of the parts behind the name of the unit
does. -/
def IsAsked (size : Nat) (header : Text) (i : Int) : Prop :=
  0 ≤ i ∧ i < size ∧ ∃ unit list, header = unit ++ '=' :: list ∧ '=' ∉ unit ∧
    ∃ part ∈ list.splitOn ',', AsksFor size part i

/-- There is no number in an empty text. -/
theorem isEmpty_eq_false_of_toInt? {t : Text} {n : Int} (h : Text.toInt? t = some n) :
    t.isEmpty = false := by
  cases t with
  | nil =>
    have hnone : Text.toInt? [] = none := by decide
    rw [hnone] at h
    cases h
  | cons c t => rfl

/-- The range between two ends holds what they ask for in the file. -/
theorem endsAskFor_iff (hzero : 0 ≤ i) (hsize : i < size) :
    EndsAskFor size start stop i ↔ ∃ r, ofEnds? size start stop = some r ∧ r.Holds i := by
  constructor
  · intro hends
    cases hends with
    | @through _ _ first last _ hfirst hlast hle hge =>
      refine ⟨⟨first, if last < size then last + 1 else size⟩, ?_, hle, ?_⟩
      · rw [ofEnds?, isEmpty_eq_false_of_toInt? hfirst, isEmpty_eq_false_of_toInt? hlast, hfirst,
          hlast]
        rfl
      · show i < if last < size then last + 1 else (size : Int)
        split_ifs <;> omega
    | @onwards _ first _ hfirst hle =>
      refine ⟨⟨first, size⟩, ?_, hle, hsize⟩
      rw [ofEnds?, isEmpty_eq_false_of_toInt? hfirst, hfirst]
      rfl
    | @final _ n _ hn hle =>
      refine ⟨⟨max (size - n) 0, size⟩, ?_, Int.max_le.2 ⟨hle, hzero⟩, hsize⟩
      rw [ofEnds?, if_pos List.isEmpty_nil, hn]
      rfl
  · rintro ⟨r, hr, hfirst, hstop⟩
    rw [ofEnds?] at hr
    split_ifs at hr with hstart hend
    · obtain ⟨n, hn, rfl⟩ := Option.map_eq_some_iff.1 hr
      obtain rfl := List.isEmpty_iff.1 hstart
      have hle : max (size - n) 0 ≤ i := hfirst
      exact .final hn (by omega)
    · obtain ⟨first, hn, hr⟩ := Option.bind_eq_some_iff.1 hr
      obtain rfl := Option.some_inj.1 hr
      obtain rfl := List.isEmpty_iff.1 hend
      exact .onwards hn hfirst
    · obtain ⟨first, hn, hr⟩ := Option.bind_eq_some_iff.1 hr
      obtain ⟨last, hlast, hr⟩ := Option.bind_eq_some_iff.1 hr
      obtain rfl := Option.some_inj.1 hr
      have hge : i < if last < size then last + 1 else (size : Int) := hstop
      exact .through hn hlast hfirst (by split_ifs at hge <;> omega)

/-- The range of a part holds what the part asks for in the file; what is no part asks for
nothing. -/
theorem asksFor_iff (hzero : 0 ≤ i) (hsize : i < size) :
    AsksFor size part i ↔ ∃ r, ofPart? size part = some r ∧ r.Holds i := by
  constructor
  · rintro ⟨start, stop, hpart, hstart, hends⟩
    unfold ofPart?
    rw [hpart, Text.cut_append hstart]
    exact (endsAskFor_iff hzero hsize).1 hends
  · rintro ⟨r, hr, hholds⟩
    unfold ofPart? at hr
    split at hr
    · cases hr
    · next start stop hcut =>
      obtain ⟨hpart, hstart⟩ := Text.cut_eq_some_iff.1 hcut
      exact ⟨start, stop, hpart, hstart, (endsAskFor_iff hzero hsize).2 ⟨r, hr, hholds⟩⟩

/-- The ranges of the parts of a list hold what the parts ask for in the file. -/
theorem exists_holds_parts_iff {list : Text} (hzero : 0 ≤ i) (hsize : i < size) :
    (∃ r ∈ parts size list, r.Holds i) ↔ ∃ part ∈ list.splitOn ',', AsksFor size part i := by
  simp only [asksFor_iff hzero hsize, parts, List.mem_filterMap]
  constructor
  · rintro ⟨r, ⟨part, hmem, hpart⟩, hholds⟩
    exact ⟨part, hmem, r, hpart, hholds⟩
  · rintro ⟨part, hmem, r, hpart, hholds⟩
    exact ⟨r, ⟨part, hmem, hpart⟩, hholds⟩

/-- **The ranges that a header comes to hold exactly the bytes that it asks for.** -/
theorem exists_holds_iff_isAsked (h : select size header = .ranges rs) :
    (∃ r ∈ rs, r.Holds i) ↔ IsAsked size header i := by
  obtain ⟨unit, list, hheader, hunit, hrs, -, -⟩ := exists_parts_of_select h
  constructor
  · intro hholds
    obtain ⟨r, hr, hfirst, hstop⟩ := hholds
    obtain ⟨hwithin, -, hend⟩ := isWithin_of_select h r hr
    have hzero : 0 ≤ i := Int.le_trans hwithin hfirst
    have hsize : i < size := Int.lt_of_lt_of_le hstop hend
    refine ⟨hzero, hsize, unit, list, hheader, hunit, (exists_holds_parts_iff hzero hsize).1 ?_⟩
    rw [← exists_holds_merge_iff, ← hrs]
    exact ⟨r, hr, hfirst, hstop⟩
  · rintro ⟨hzero, hsize, unit', list', hheader', hunit', hasks⟩
    have hcut : Text.cut '=' header = (unit, some list) := by
      rw [hheader, Text.cut_append hunit]
    rw [hheader', Text.cut_append hunit'] at hcut
    obtain ⟨rfl, hlist⟩ := Prod.mk.inj hcut
    obtain rfl := Option.some_inj.1 hlist
    rw [hrs, exists_holds_merge_iff]
    exact (exists_holds_parts_iff hzero hsize).2 hasks

example : select 10 "bytes=7-20,0-1, 2-3 ,-1,x" = .ranges [⟨0, 4⟩, ⟨7, 10⟩] := by decide +kernel

theorem ne_nil_of_select (h : select size header = .ranges rs) : rs ≠ [] := by
  obtain ⟨unit, list, -, -, rfl, hne, -⟩ := exists_parts_of_select h
  exact merge_ne_nil hne

theorem pairwise_of_select (h : select size header = .ranges rs) : rs.Pairwise IsBefore := by
  obtain ⟨unit, list, -, -, rfl, -, -⟩ := exists_parts_of_select h
  exact pairwise_merge _

end StaticServer.ByteRange
