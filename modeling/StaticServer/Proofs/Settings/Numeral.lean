import Mathlib.Data.List.TakeWhile
import StaticServer.Proofs.Text.Integer
import StaticServer.Settings.Numeral
import StaticServer.Text.Basic

/-!
# Whole numbers in settings and elsewhere

The reader of numbers in settings tidies a text before it reads it, where the reader of integers
takes the text as it is. Tidying keeps the number that the digits of a text stand for (`Keeps`), one
step after the other, and what is left has digits of ASCII only. So where both readers give a number
it is the same one (`eq_of_ofText_of_toInt?`), and both read what is written of an integer
(`ofText_ofInt`).
-/

namespace StaticServer.Numeral

open Text (numeral HasAsciiDigits AreDigits)

variable {t u v : Text} {n : Int}

/-! ### Reading a number as it stands -/

/-- What is read as a magnitude has digits only, and their value. -/
theorem areDigits_of_readMagnitude {negative : Bool} (h : readMagnitude negative t = .ok n) :
    AreDigits t ∧ n = Text.signed negative (Text.readDigits t) := by
  rcases t with - | ⟨c, t⟩
  · cases h
  rw [readMagnitude] at h
  split at h
  · rw [readDigits] at h
    split at h
    · cases h
    split at h
    · next hdigits =>
      have hall := List.takeWhile_eq_self_iff.1 hdigits
      rw [hdigits] at h
      exact ⟨hall, (Except.ok.inj h).symm⟩
    · cases h
  · split at h
    · next ht =>
      rw [ht]
      cases h
      exact ⟨Text.areDigits_zeros 1, by cases negative <;> rfl⟩
    · cases h

theorem numeral_of_areDigits (h : AreDigits t) : numeral t = Text.readDigits t := by
  rw [Text.numeral_of_not_mem (h.not_mem (by decide)), List.filter_eq_self.2 h]

/-- What is read as it stands consists of the digits of the number and of its minus. -/
theorem eq_numeral_of_read (h : read t = .ok n) :
    n = numeral t ∧ ∀ c ∈ t, c.isDigit = true ∨ c = '-' := by
  unfold read at h
  split at h
  · next rest =>
    obtain ⟨hdigits, rfl⟩ := areDigits_of_readMagnitude h
    refine ⟨?_, List.forall_mem_cons.2 ⟨.inr rfl, fun c hc ↦ .inl (hdigits c hc)⟩⟩
    rw [Text.numeral_cons_minus, numeral_of_areDigits hdigits]
    rfl
  · obtain ⟨hdigits, rfl⟩ := areDigits_of_readMagnitude h
    exact ⟨(numeral_of_areDigits hdigits).symm, fun c hc ↦ .inl (hdigits c hc)⟩

/-! ### Tidying -/

/-- A text has been tidied into another one that stands for the same number. -/
structure Keeps (t u : Text) : Prop where
  /-- The digits stand for the same number. -/
  numeral_eq : numeral t = numeral u
  /-- No digits of other scripts were taken away. -/
  hasAsciiDigits : HasAsciiDigits u → HasAsciiDigits t
  /-- Nothing was added. -/
  subset : u ⊆ t

namespace Keeps

theorem refl (t : Text) : Keeps t t :=
  ⟨rfl, id, List.Subset.refl t⟩

theorem trans (h : Keeps t u) (h' : Keeps u v) : Keeps t v :=
  ⟨h.numeral_eq.trans h'.numeral_eq, h.hasAsciiDigits ∘ h'.hasAsciiDigits,
    fun _ hc ↦ h.subset (h'.subset hc)⟩

/-- A character can be taken away from the front that is not a digit other than zero. -/
theorem drop_cons {c : Char} (hc : numeral (c :: t) = numeral t)
    (hdigit : Text.isDigit c = true → c.isDigit = true) : Keeps (c :: t) t :=
  ⟨hc, fun h ↦ List.forall_mem_cons.2 ⟨hdigit, h⟩, List.subset_cons_self c t⟩

theorem drop_zero (t : Text) : Keeps ('0' :: t) t :=
  drop_cons (Text.numeral_cons_zero t) fun _ ↦ rfl

theorem drop_underscore (t : Text) : Keeps ('_' :: t) t :=
  drop_cons (Text.numeral_cons_of_not_isSignificant rfl t) fun h ↦ absurd h (by decide +kernel)

theorem drop_plus (t : Text) : Keeps ('+' :: t) t :=
  drop_cons (Text.numeral_cons_of_not_isSignificant rfl t) fun h ↦ absurd h (by decide +kernel)

/-- A minus sign stays, and turns both numbers around. -/
theorem minus (h : Keeps t u) : Keeps ('-' :: t) ('-' :: u) where
  numeral_eq := by rw [Text.numeral_cons_minus, Text.numeral_cons_minus, h.numeral_eq]
  hasAsciiDigits hu := List.forall_mem_cons.2
    ⟨fun hdigit ↦ absurd hdigit (by decide +kernel), h.hasAsciiDigits hu.of_cons⟩
  subset := List.cons_subset_cons '-' h.subset

end Keeps

/-- Zeros and underscores in front are taken away, but for one that the number may need. -/
theorem keeps_of_pastZeros? {last : Char} (hlast : last = '0' ∨ last = '_')
    (h : pastZeros? last t = some u) (hpoint : '.' ∉ t) : Keeps (last :: t) u := by
  -- what was taken last is a zero or an underscore all along, so it can go as well
  have hdrop (t : Text) : Keeps (last :: t) t := by
    rcases hlast with rfl | rfl
    · exact .drop_zero t
    · exact .drop_underscore t
  fun_induction pastZeros? last t with
  | case1 last =>
    cases h
    exact .refl _
  | case2 last c t hc ih =>
    have hc : c = '0' ∨ c = '_' := by simpa using hc
    have hrest : '.' ∉ t := fun hmem ↦ hpoint (List.mem_cons_of_mem c hmem)
    refine (hdrop (c :: t)).trans (ih hc h hrest fun t ↦ ?_)
    rcases hc with rfl | rfl
    · exact .drop_zero t
    · exact .drop_underscore t
  | case3 last t =>
    -- a point would keep the zero in front of it, and a fraction might follow
    exact absurd List.mem_cons_self hpoint
  | case4 last c t =>
    cases h
    exact hdrop (c :: t)
  | case5 => cases h

/-- Dropping the zeros in front keeps the number, if no point follows. -/
theorem keeps_of_dropZeros? (h : dropZeros? t = some u) (hpoint : '.' ∉ t) : Keeps t u := by
  rcases t with - | ⟨c, t⟩
  · cases h
  rw [dropZeros?] at h
  split at h
  · next hc =>
    subst hc
    exact keeps_of_pastZeros? (.inl rfl) h fun hmem ↦ hpoint (List.mem_cons_of_mem _ hmem)
  · split at h
    · cases h
      exact .refl _
    · cases h

theorem dropZeroFraction_eq_self (h : '.' ∉ t) : dropZeroFraction t = t := by
  rw [dropZeroFraction, Text.cut_of_not_mem h]

/-- The parts between separators make up the text without these. -/
theorem flatten_splitOn (t : Text) (sep : Char) :
    (t.splitOn sep).flatten = t.filter (· ≠ sep) := by
  rw [List.splitOn_eq_splitOnP]
  induction t with
  | nil => rfl
  | cons c t ih =>
    rw [List.splitOnP_cons_eq_if_modifyHead, List.filter_cons]
    by_cases hc : c = sep
    · simpa [hc] using ih
    · obtain ⟨part, parts, hparts⟩ := List.exists_cons_of_ne_nil (List.splitOnP_ne_nil (· == sep) t)
      rw [hparts] at ih ⊢
      simpa [hc] using ih

/-- Dropping underscores keeps it. -/
theorem keeps_dropUnderscores (t : Text) : Keeps t (dropUnderscores t) := by
  rw [dropUnderscores]
  split
  · rw [flatten_splitOn]
    refine ⟨Text.numeral_congr ?_, fun h c hc hdigit ↦ ?_, List.filter_sublist.subset⟩
    · rw [List.filter_filter]
      refine List.filter_congr fun c _ ↦ ?_
      by_cases hc : c = '_'
      · rw [hc]
        rfl
      · rw [decide_eq_true hc, Bool.and_true]
    · refine h c (List.mem_filter.2 ⟨hc, decide_eq_true ?_⟩) hdigit
      rintro rfl
      exact absurd hdigit (by decide +kernel)
  · exact .refl t

/-- So does tidying a magnitude. -/
theorem keeps_of_tidyMagnitude? (h : tidyMagnitude? t = some u) (hpoint : '.' ∉ t) : Keeps t u := by
  obtain ⟨v, hv, rfl⟩ := Option.map_eq_some_iff.1 h
  have hkeeps := keeps_of_dropZeros? hv hpoint
  rw [dropZeroFraction_eq_self fun hmem ↦ hpoint (hkeeps.subset hmem)]
  exact hkeeps.trans (keeps_dropUnderscores v)

/-- **Tidying keeps the number.** -/
theorem keeps_of_tidy? (h : tidy? t = some u) (hpoint : '.' ∉ Text.trimSpace t) :
    Keeps (Text.trimSpace t) u := by
  rw [tidy?] at h
  generalize Text.trimSpace t = t at h hpoint
  split at h
  · next rest =>
    obtain ⟨v, hv, rfl⟩ := Option.map_eq_some_iff.1 h
    exact (keeps_of_tidyMagnitude? hv fun hmem ↦ hpoint (List.mem_cons_of_mem _ hmem)).minus
  · next rest =>
    have hrest : '.' ∉ rest := fun hmem ↦ hpoint (List.mem_cons_of_mem _ hmem)
    exact (Keeps.drop_plus rest).trans (keeps_of_tidyMagnitude? h hrest)
  · exact keeps_of_tidyMagnitude? h hpoint

/-! ### What a number is read from -/

theorem trimSpace_of_read (h : read t = .ok n) : Text.trimSpace t = t := by
  refine Text.trimBy_eq_self fun c hc ↦ ?_
  rcases (eq_numeral_of_read h).2 c hc with hdigit | rfl
  · exact Text.isSpace_of_isDigit hdigit
  · rfl

/-- What is read has digits of ASCII only. -/
theorem hasAsciiDigits_of_read (h : read t = .ok n) : HasAsciiDigits t := by
  intro c hc hdigit
  rcases (eq_numeral_of_read h).2 c hc with hc | rfl
  · exact hc
  · exact absurd hdigit (by decide +kernel)

/-- A text is read as it is or tidied first. -/
theorem read_or_tidy_of_ofText (h : ofText t = .ok n) :
    read t = .ok n ∨ ∃ u, tidy? t = some u ∧ read u = .ok n := by
  rw [ofText] at h
  split at h
  · next m hread hm =>
    cases h
    obtain ⟨u, hu, hok⟩ := Option.map_eq_some_iff.1 hm
    exact .inr ⟨u, hu, hok⟩
  · cases h
  · exact .inl h

/-- **What a number is read from**: if there is no point inside the white space, the digits are of
ASCII, and the number is the one that they stand for. -/
theorem eq_numeral_of_ofText (h : ofText t = .ok n) (hpoint : '.' ∉ Text.trimSpace t) :
    n = numeral (Text.trimSpace t) ∧ HasAsciiDigits (Text.trimSpace t) := by
  rcases read_or_tidy_of_ofText h with hread | ⟨u, htidy, hread⟩
  · rw [trimSpace_of_read hread]
    exact ⟨(eq_numeral_of_read hread).1, hasAsciiDigits_of_read hread⟩
  · have hkeeps := keeps_of_tidy? htidy hpoint
    refine ⟨?_, hkeeps.hasAsciiDigits (hasAsciiDigits_of_read hread)⟩
    rw [hkeeps.numeral_eq]
    exact (eq_numeral_of_read hread).1

/-- **Both readers of numbers agree**, where both read one. -/
theorem eq_of_ofText_of_toInt? {m : Int} (h : ofText t = .ok m) (h' : Text.toInt? t = some n) :
    m = n := by
  obtain ⟨hpoint, hvalue⟩ := Text.eq_numeral_of_toInt? h'
  obtain ⟨hm, hascii⟩ := eq_numeral_of_ofText h hpoint
  rw [hm, hvalue hascii]

/-! ### Reading what is written -/

/-- A positive number is written without zeros in front. -/
theorem exists_ofNat_eq_cons {n : Nat} (h : 0 < n) :
    ∃ c rest, Text.ofNat n = c :: rest ∧ isNonzero c = true := by
  induction n using Nat.strongRecOn with
  | ind n ih =>
    rcases Nat.lt_or_ge n 10 with hlt | hge
    · have hall : ∀ n < 10, 0 < n → isNonzero n.digitChar = true := by decide
      exact ⟨n.digitChar, [], Nat.toDigits_of_lt_base hlt, hall n hlt h⟩
    · obtain ⟨c, rest, htext, hc⟩ := ih (n / 10) (by omega) (by omega)
      refine ⟨c, rest ++ [(n % 10).digitChar], ?_, hc⟩
      rw [Text.ofNat, Nat.toDigits_of_base_le (by decide) hge, ← Text.ofNat, htext,
        List.cons_append]

/-- The decimal digits of a number are read as the number, up to the limit. -/
theorem readMagnitude_ofNat (negative : Bool) {n : Nat}
    (h : (Text.ofNat n).length ≤ Text.digitLimit) :
    readMagnitude negative (Text.ofNat n) = .ok (Text.signed negative n) := by
  rcases Nat.eq_zero_or_pos n with rfl | hpos
  · cases negative <;> rfl
  obtain ⟨c, rest, htext, hc⟩ := exists_ofNat_eq_cons hpos
  have hall : (Text.ofNat n).takeWhile Char.isDigit = Text.ofNat n :=
    List.takeWhile_eq_self_iff.2 (Text.areDigits_ofNat n)
  have hvalue : ofDigits negative (Text.ofNat n) = Text.signed negative n :=
    congrArg _ (Text.readDigits_ofNat n)
  rw [htext] at h hall hvalue ⊢
  rw [readMagnitude, if_pos hc, readDigits, hall]
  simp only [if_neg (Nat.not_lt.2 h), if_true, hvalue]

/-- **What is written of an integer is read as that integer**, if it is not too long. -/
theorem ofText_ofInt (h : (Text.ofInt n).length ≤ Text.digitLimit) :
    ofText (Text.ofInt n) = .ok n := by
  have hread : read (Text.ofInt n) = .ok n := by
    cases n with
    | ofNat n =>
      rw [Text.ofInt] at h ⊢
      rw [read]
      · exact readMagnitude_ofNat false h
      · intro rest heq
        exact (Text.areDigits_ofNat n).not_mem (c := '-') (by decide) (heq ▸ List.mem_cons_self)
    | negSucc n =>
      rw [Text.ofInt] at h ⊢
      exact readMagnitude_ofNat true (Nat.le_of_succ_le h)
  rw [ofText, hread]

end StaticServer.Numeral
