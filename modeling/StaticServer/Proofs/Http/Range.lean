import Mathlib.Tactic.SplitIfs
import StaticServer.Http.Range

/-!
# Ranges inside a file

The ranges that a header comes to lie inside the file and are not empty (`isWithin_of_select`): no
part of a header reaches beyond the end of the file (`stop_le_of_ofPart?`), those that start outside
it or end before they start are refused, and merging makes nothing longer than what is merged
(`isWithin_merge`). So a range holds as many bytes as lie between its ends (`length_slice`).

Merging goes through the ranges in the order of their first bytes. What it leaves has a byte between
each two neighbours (`pairwise_merge`) and holds exactly the bytes of what was merged
(`exists_holds_merge_iff`).
-/

namespace StaticServer.ByteRange

/-- A range lies inside a file of some size and is not empty. -/
structure IsWithin (size : Nat) (r : ByteRange) : Prop where
  /-- It does not start before the file. -/
  first : 0 ≤ r.first
  /-- It has a byte. -/
  nonempty : r.first < r.stop
  /-- It does not end behind the file. -/
  stop : r.stop ≤ size

/-- A range holds a byte. -/
def Holds (r : ByteRange) (i : Int) : Prop :=
  r.first ≤ i ∧ i < r.stop

/-- A range ends before another one starts, with a byte between them. -/
def IsBefore (a b : ByteRange) : Prop :=
  a.stop < b.first

variable {size : Nat} {r : ByteRange} {rs : List ByteRange}

/-! ### Parts of a header -/

theorem stop_le_of_ofEnds? {start stop : Text} (h : ofEnds? size start stop = some r) :
    r.stop ≤ size := by
  rw [ofEnds?] at h
  split_ifs at h
  · -- so many bytes at the end
    obtain ⟨n, -, rfl⟩ := Option.map_eq_some_iff.1 h
    exact Int.le_refl _
  · -- from some byte on
    obtain ⟨first, -, h⟩ := Option.bind_eq_some_iff.1 h
    obtain rfl := Option.some_inj.1 h
    exact Int.le_refl _
  · -- through some byte, which may lie behind the end
    obtain ⟨first, -, h⟩ := Option.bind_eq_some_iff.1 h
    obtain ⟨last, -, h⟩ := Option.bind_eq_some_iff.1 h
    obtain rfl := Option.some_inj.1 h
    show (if last < size then last + 1 else (size : Int)) ≤ size
    split_ifs with hlast
    · omega
    · exact Int.le_refl _

/-- No part of a header reaches beyond the end of the file. -/
theorem stop_le_of_ofPart? {part : Text} (h : ofPart? size part = some r) : r.stop ≤ size := by
  unfold ofPart? at h
  split at h
  · cases h
  · exact stop_le_of_ofEnds? h

/-! ### Merging -/

/-- Merging ranges inside a content leaves them inside. -/
theorem isWithin_mergeFrom (hr : r.IsWithin size) (hrs : ∀ s ∈ rs, s.IsWithin size) :
    ∀ s ∈ mergeFrom r rs, s.IsWithin size := by
  induction rs generalizing r with
  | nil =>
    intro s hs
    rw [List.mem_singleton.1 hs]
    exact hr
  | cons next rest ih =>
    obtain ⟨hnext, hrest⟩ := List.forall_mem_cons.1 hrs
    rw [mergeFrom]
    split_ifs
    · -- what is merged starts with one of the two and ends with one of them
      refine ih ⟨hr.first, ?_, ?_⟩ hrest
      · exact Int.lt_of_lt_of_le hr.nonempty (Int.le_max_left _ _)
      · exact Int.max_le.2 ⟨hr.stop, hnext.stop⟩
    · exact List.forall_mem_cons.2 ⟨hr, ih hnext hrest⟩

/-- So it does from the first range on. -/
theorem isWithin_merge (h : ∀ s ∈ rs, s.IsWithin size) : ∀ s ∈ merge rs, s.IsWithin size := by
  have hsort : ∀ s ∈ Order.sort le rs, s.IsWithin size :=
    fun s hs ↦ h s ((Order.mem_sort le).1 hs)
  rw [merge]
  split
  · exact fun s hs ↦ absurd hs List.not_mem_nil
  · next first rest heq =>
    rw [heq, List.forall_mem_cons] at hsort
    exact isWithin_mergeFrom hsort.1 hsort.2

/-- The order of ranges puts them in the order of their first bytes. -/
theorem pairwise_sort (rs : List ByteRange) :
    (Order.sort le rs).Pairwise fun a b ↦ a.first ≤ b.first := by
  have hle (a b : ByteRange) : le a b = true ↔
      a.first < b.first ∨ a.first = b.first ∧ a.stop ≤ b.stop := by
    simp [le]
  have htotal (a b : ByteRange) : le a b = true ∨ le b a = true := by
    rw [hle, hle]
    omega
  have htrans (a b c : ByteRange) (hab : le a b = true) (hbc : le b c = true) :
      le a c = true := by
    rw [hle] at hab hbc ⊢
    omega
  refine (Order.sort_pairwise htotal htrans rs).imp fun {a b} hab ↦ ?_
  rw [hle] at hab
  omega

/-- Merging leaves at least one range. -/
theorem mergeFrom_ne_nil (r : ByteRange) (rs : List ByteRange) : mergeFrom r rs ≠ [] := by
  induction rs generalizing r with
  | nil => exact List.cons_ne_nil r []
  | cons next rest ih =>
    rw [mergeFrom]
    split_ifs
    · exact ih _
    · exact List.cons_ne_nil _ _

/-- Putting two ranges into one at the head keeps the order of the first bytes. -/
theorem pairwise_first_join {next : ByteRange} (stop : Int)
    (hsorted : (r :: next :: rs).Pairwise fun a b ↦ a.first ≤ b.first) :
    (⟨r.first, stop⟩ :: rs).Pairwise fun a b ↦ a.first ≤ b.first := by
  obtain ⟨hr, hnext⟩ := List.pairwise_cons.1 hsorted
  exact List.pairwise_cons.2 ⟨fun s hs ↦ hr s (List.mem_cons_of_mem _ hs), hnext.of_cons⟩

/-- No merged range starts before the first one of all. -/
theorem first_le_of_mem_mergeFrom (hsorted : (r :: rs).Pairwise fun a b ↦ a.first ≤ b.first) :
    ∀ s ∈ mergeFrom r rs, r.first ≤ s.first := by
  induction rs generalizing r with
  | nil =>
    intro s hs
    obtain rfl := List.mem_singleton.1 hs
    exact Int.le_refl _
  | cons next rest ih =>
    obtain ⟨hr, hnext⟩ := List.pairwise_cons.1 hsorted
    have hfirst : r.first ≤ next.first := hr next List.mem_cons_self
    rw [mergeFrom]
    split_ifs
    · exact ih (pairwise_first_join _ hsorted)
    · intro s hs
      rcases List.mem_cons.1 hs with rfl | hs
      · exact Int.le_refl _
      · exact Int.le_trans hfirst (ih hnext s hs)

/-- **Merged ranges are apart**, if they were in order. -/
theorem pairwise_mergeFrom (hsorted : (r :: rs).Pairwise fun a b ↦ a.first ≤ b.first) :
    (mergeFrom r rs).Pairwise IsBefore := by
  induction rs generalizing r with
  | nil => exact List.pairwise_singleton _ _
  | cons next rest ih =>
    obtain ⟨hr, hnext⟩ := List.pairwise_cons.1 hsorted
    rw [mergeFrom]
    split_ifs with htouch
    · exact ih (pairwise_first_join _ hsorted)
    · refine List.pairwise_cons.2 ⟨fun s hs ↦ ?_, ih hnext⟩
      have hfirst := first_le_of_mem_mergeFrom hnext s hs
      show r.stop < s.first
      omega

/-- **Merging keeps what the ranges hold.** -/
theorem exists_holds_mergeFrom_iff (hsorted : (r :: rs).Pairwise fun a b ↦ a.first ≤ b.first)
    {i : Int} : (∃ s ∈ mergeFrom r rs, s.Holds i) ↔ ∃ s ∈ r :: rs, s.Holds i := by
  induction rs generalizing r with
  | nil => rfl
  | cons next rest ih =>
    obtain ⟨hr, hnext⟩ := List.pairwise_cons.1 hsorted
    have hfirst : r.first ≤ next.first := hr next List.mem_cons_self
    rw [mergeFrom]
    split_ifs with htouch
    · -- two ranges that overlap or touch have the bytes of the one that goes from end to end
      have hjoin : (ByteRange.mk r.first (max r.stop next.stop)).Holds i ↔
          r.Holds i ∨ next.Holds i := by
        simp only [Holds]
        omega
      refine (ih (pairwise_first_join _ hsorted)).trans ?_
      simp only [List.mem_cons, exists_eq_or_imp, hjoin, or_assoc]
    · simp only [List.mem_cons, exists_eq_or_imp] at ih ⊢
      rw [ih hnext]

/-- **Between two ranges that merging leaves there is a byte.** -/
theorem pairwise_merge (rs : List ByteRange) : (merge rs).Pairwise IsBefore := by
  have hsorted := pairwise_sort rs
  rw [merge]
  split
  · exact List.Pairwise.nil
  · next first rest heq =>
    rw [heq] at hsorted
    exact pairwise_mergeFrom hsorted

/-- **Merging neither adds a byte nor loses one.** -/
theorem exists_holds_merge_iff {i : Int} :
    (∃ s ∈ merge rs, s.Holds i) ↔ ∃ s ∈ rs, s.Holds i := by
  have hsorted := pairwise_sort rs
  have hmem : (∃ s ∈ Order.sort le rs, s.Holds i) ↔ ∃ s ∈ rs, s.Holds i :=
    exists_congr fun s ↦ and_congr_left fun _ ↦ Order.mem_sort le
  rw [← hmem, merge]
  split
  · next heq => rw [heq]
  · next first rest heq =>
    rw [heq] at hsorted ⊢
    exact exists_holds_mergeFrom_iff hsorted

theorem merge_ne_nil (h : rs ≠ []) : merge rs ≠ [] := by
  obtain ⟨s, hs⟩ := List.exists_mem_of_ne_nil rs h
  rw [merge]
  split
  · next heq =>
    have hmem := (Order.mem_sort le).2 hs
    rw [heq] at hmem
    exact absurd hmem List.not_mem_nil
  · exact mergeFrom_ne_nil _ _

/-! ### Whole headers -/

/-- A header that comes to ranges is a list of parts behind the name of the unit, and the ranges are
those of its parts, merged. There is one, and each of them starts inside the file and has a byte. -/
theorem exists_parts_of_select {header : Text} (h : select size header = .ranges rs) :
    ∃ unit list, header = unit ++ '=' :: list ∧ '=' ∉ unit ∧ rs = merge (parts size list) ∧
      parts size list ≠ [] ∧
      ∀ s ∈ parts size list, 0 ≤ s.first ∧ s.first < size ∧ s.first < s.stop := by
  rw [select] at h
  split at h
  · cases h
  next unit list hcut =>
  obtain ⟨hheader, hunit⟩ := Text.cut_eq_some_iff.1 hcut
  -- all other ways to read a header end without ranges
  split_ifs at h with hname hmany
  dsimp only at h
  split_ifs at h with hempty hstart hend
  refine ⟨unit, list, hheader, hunit, (RangeRequest.ranges.inj h).symm, by simpa using hempty,
    fun s hs ↦ ?_⟩
  have hinside : ¬ (s.first < 0 ∨ (size : Int) ≤ s.first) := fun hout ↦
    hstart (List.any_eq_true.2 ⟨s, hs, by simpa using hout⟩)
  have hnonempty : ¬ s.stop ≤ s.first := fun hle ↦
    hend (List.any_eq_true.2 ⟨s, hs, by simpa using hle⟩)
  omega

/-- **The ranges that a header comes to lie inside the file.** -/
theorem isWithin_of_select {header : Text} (h : select size header = .ranges rs) :
    ∀ s ∈ rs, s.IsWithin size := by
  obtain ⟨unit, list, -, -, rfl, -, hparts⟩ := exists_parts_of_select h
  refine isWithin_merge fun s hs ↦ ?_
  obtain ⟨hstart, -, hend⟩ := hparts s hs
  obtain ⟨part, -, hpart⟩ := List.mem_filterMap.1 hs
  exact ⟨hstart, hend, stop_le_of_ofPart? hpart⟩

/-! ### The bytes of a range -/

variable {content : Bytes}

/-- **A range holds as many bytes as lie between its ends.** -/
theorem length_slice (h : r.IsWithin content.length) : (r.slice content).length = r.length := by
  obtain ⟨hfirst, hnonempty, hstop⟩ := h
  rw [slice, List.length_take, List.length_drop, length]
  omega

/-- A range inside a file goes from a first byte through a last one. -/
theorem IsWithin.exists_eq (h : r.IsWithin size) :
    ∃ first last : Nat, r = ⟨first, last + 1⟩ ∧ first ≤ last ∧ last < size := by
  obtain ⟨start, stop⟩ := r
  obtain ⟨first, rfl⟩ := Int.eq_ofNat_of_zero_le h.first
  have hnonempty : (first : Int) < stop := h.nonempty
  have hstop : stop ≤ size := h.stop
  obtain ⟨last, rfl⟩ : ∃ last : Nat, stop = last + 1 := ⟨(stop - 1).toNat, by omega⟩
  exact ⟨first, last, rfl, by omega, by omega⟩

/-- A slice is what is left of the content from its first byte to its last one. -/
theorem slice_eq (first last : Nat) (content : Bytes) :
    slice ⟨first, last + 1⟩ content = (content.drop first).take (last + 1 - first) := by
  have hlength : length ⟨first, last + 1⟩ = last + 1 - first := by
    show (last + 1 - first : Int).toNat = last + 1 - first
    omega
  rw [slice, hlength]
  rfl

theorem contentRange_eq (first last size : Nat) : contentRange ⟨first, last + 1⟩ size =
    "bytes " ++ (Text.ofNat first ++ '-' :: Text.ofNat last ++ '/' :: Text.ofNat size) := by
  have hlast : (last + 1 - 1 : Int) = last := by omega
  unfold contentRange
  rw [hlast]
  rfl

end StaticServer.ByteRange
