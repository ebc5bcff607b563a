/-!
# Text and raw content

Text is a list of characters and raw content a list of bytes, so that every function on
them is an ordinary recursion. String literals are read as text. This module has the cuts
and trims that the other modules share: `cut` at the first separator, `cutLast` at the
last one, and `trimBy`, `trimLeftBy`, `trimRightBy` for a class of characters. `unifyBreaks`
gives all line breaks one form.

There are two classes of blank characters. `isSpace` is the White_Space property of Unicode;
`isBlank` adds the four information separators U+001C to U+001F. Numbers are trimmed by
the first class, everything else by the second.
-/

namespace StaticServer

/-- A text, character by character. -/
abbrev Text := List Char

/-- Raw content, byte by byte. -/
abbrev Bytes := List UInt8

instance : Coe String Text := ⟨String.toList⟩

namespace Text

/-- The text before the first `sep`, and the text after it when there is one. -/
def cut (sep : Char) (t : Text) : Text × Option Text :=
  (t.takeWhile (· != sep), (t.dropWhile (· != sep)).tail?)

/-- The text before the last `sep` and the text after it, when there is one. -/
def cutLast (sep : Char) (t : Text) : Option (Text × Text) :=
  match cut sep t.reverse with
  | (_, none) => none
  | (after, some before) => some (before.reverse, after.reverse)

/-- Drops the leading characters of a class. -/
def trimLeftBy (p : Char → Bool) (t : Text) : Text :=
  t.dropWhile p

/-- Drops the trailing characters of a class. -/
def trimRightBy (p : Char → Bool) (t : Text) : Text :=
  (t.reverse.dropWhile p).reverse

/-- Drops the leading and the trailing characters of a class. -/
def trimBy (p : Char → Bool) (t : Text) : Text :=
  trimRightBy p (trimLeftBy p t)

/-- The rest of a text that starts with `lead`. -/
def dropLead? : Text → Text → Option Text
  | [], t => some t
  | _ :: _, [] => none
  | a :: lead, b :: t => if a = b then dropLead? lead t else none

/-- The text with each line break as a single character. The flag says that a carriage return
has just been read: a line feed behind it belongs to the same line break. -/
def unifyBreaks : Bool → Text → Text
  | _, [] => []
  | behindReturn, c :: t =>
    if c = '\r' then '\n' :: unifyBreaks true t
    else if c = '\n' && behindReturn then unifyBreaks false t
    else c :: unifyBreaks false t

/-- Pads with blanks on the right up to a width; a longer text stays as it is. -/
def padRight (width : Nat) (t : Text) : Text :=
  t ++ List.replicate (width - t.length) ' '

/-- Pads with zeros on the left up to a width; a longer text stays as it is. -/
def padZero (width : Nat) (t : Text) : Text :=
  List.replicate (width - t.length) '0' ++ t

/-- Joins texts with a separator between neighbours. -/
def join (sep : Text) (parts : List Text) : Text :=
  sep.intercalate parts

/-- The order of texts by code point. -/
def lexLE (a b : Text) : Bool :=
  !(List.lex b a (fun x y ↦ x.toNat < y.toNat))

/-- Does a character lie in one of some ranges of code points? -/
def isIn (ranges : List (Nat × Nat)) (c : Char) : Bool :=
  ranges.any fun (first, last) ↦ first ≤ c.toNat && c.toNat ≤ last

/-! ### White space -/

/-- The White_Space property of Unicode. -/
def isSpace (c : Char) : Bool :=
  let n := c.toNat
  (0x9 ≤ n && n ≤ 0xD) || n == 0x20 || n == 0x85 || n == 0xA0 || n == 0x1680 ||
    (0x2000 ≤ n && n ≤ 0x200A) || n == 0x2028 || n == 0x2029 || n == 0x202F ||
    n == 0x205F || n == 0x3000

/-- White space and the four information separators. -/
def isBlank (c : Char) : Bool :=
  isSpace c || (0x1C ≤ c.toNat && c.toNat ≤ 0x1F)

/-- Drops white space at both ends. -/
def trimSpace (t : Text) : Text :=
  trimBy isSpace t

/-- Drops blanks at both ends. -/
def trim (t : Text) : Text :=
  trimBy isBlank t

/-- The maximal parts without blanks, in order. -/
def words (t : Text) : List Text :=
  (t.splitOnP isBlank).filter (· ≠ [])

/-! ### What the cuts say -/

theorem cut_cons_self (sep : Char) (t : Text) : cut sep (sep :: t) = ([], some t) := by
  simp [cut]

theorem cut_cons_of_ne {sep c : Char} (h : c ≠ sep) (t : Text) :
    cut sep (c :: t) = (c :: (cut sep t).1, (cut sep t).2) := by
  simp [cut, h]

theorem cut_of_not_mem {sep : Char} {t : Text} (h : sep ∉ t) : cut sep t = (t, none) := by
  induction t with
  | nil => rfl
  | cons c t ih =>
    rw [List.mem_cons, not_or] at h
    rw [cut_cons_of_ne (Ne.symm h.1), ih h.2]

/-- The cut is where the separator first stands. -/
theorem cut_append {sep : Char} {before after : Text} (h : sep ∉ before) :
    cut sep (before ++ sep :: after) = (before, some after) := by
  induction before with
  | nil => exact cut_cons_self sep after
  | cons c before ih =>
    rw [List.mem_cons, not_or] at h
    rw [List.cons_append, cut_cons_of_ne (Ne.symm h.1), ih h.2]

/-- A cut loses nothing but the separator, which does not stand before the cut. -/
theorem cut_eq_some_iff {sep : Char} {t before after : Text} :
    cut sep t = (before, some after) ↔ t = before ++ sep :: after ∧ sep ∉ before := by
  refine ⟨fun h ↦ ?_, fun ⟨ht, hm⟩ ↦ ht ▸ cut_append hm⟩
  by_cases hm : sep ∈ t
  · obtain ⟨a, b, rfl, ha⟩ := List.eq_append_cons_of_mem hm
    rw [cut_append ha] at h
    obtain ⟨rfl, hb⟩ := Prod.mk.inj h
    exact ⟨by rw [Option.some_inj.1 hb], ha⟩
  · rw [cut_of_not_mem hm] at h
    exact absurd (Prod.mk.inj h).2 (by simp)

/-- A text that is not cut does not hold the separator. -/
theorem cut_eq_none_iff {sep : Char} {t before : Text} :
    cut sep t = (before, none) ↔ t = before ∧ sep ∉ t := by
  constructor
  · intro h
    by_cases hm : sep ∈ t
    · obtain ⟨a, b, rfl, ha⟩ := List.eq_append_cons_of_mem hm
      rw [cut_append ha] at h
      exact absurd (Prod.mk.inj h).2 (by simp)
    · rw [cut_of_not_mem hm] at h
      exact ⟨(Prod.mk.inj h).1, hm⟩
  · rintro ⟨rfl, hm⟩
    exact cut_of_not_mem hm

/-- The separator does not stand before the cut. -/
theorem not_mem_cut (sep : Char) (t : Text) : sep ∉ (cut sep t).1 := by
  intro h
  have hall := List.all_takeWhile (p := (· != sep)) (l := t)
  simpa using List.all_eq_true.1 hall sep h

/-- What stands before the cut goes on behind a text without the separator. -/
theorem cut_fst_append {sep : Char} {before : Text} (h : sep ∉ before) (t : Text) :
    (cut sep (before ++ t)).1 = before ++ (cut sep t).1 := by
  have hbefore : ∀ c ∈ before, (c != sep) = true := fun c hc ↦ by
    rw [bne_iff_ne]
    rintro rfl
    exact h hc
  exact List.takeWhile_append_of_pos hbefore

/-- What stands before the cut is the whole text exactly if the separator is not in it. -/
theorem cut_fst_eq_self_iff {sep : Char} {t : Text} : (cut sep t).1 = t ↔ sep ∉ t := by
  constructor
  · intro h
    have hnot := not_mem_cut sep t
    rwa [h] at hnot
  · intro h
    rw [cut_of_not_mem h]

/-- What is left of a text without its lead makes up the text with it. -/
theorem dropLead?_eq_some_iff {lead t rest : Text} :
    dropLead? lead t = some rest ↔ t = lead ++ rest := by
  induction lead generalizing t with
  | nil => exact Option.some_inj
  | cons a lead ih =>
    cases t with
    | nil => exact iff_of_false (by simp [dropLead?]) (by simp)
    | cons b t =>
      by_cases h : a = b
      · simp [dropLead?, h, ih]
      · simp [dropLead?, h, Ne.symm h]

end Text

end StaticServer
