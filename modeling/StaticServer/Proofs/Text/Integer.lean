import Mathlib.Algebra.Group.Nat.Defs
import StaticServer.Text.Integer

/-!
# Reading what is written in decimal

A text of digits stands for a number (`readDigits`), and zeros before it make no difference. The
reader of integers, which also takes other scripts, signs, underscores and white space, reads such
a text as that number (`toInt?_of_areDigits`); so it reads what `ofNat` has written, padded or not,
and what `ofInt` has written (`toInt?_ofInt`).

Of any text, if it is read at all, the significant characters decide which number it is
(`eq_numeral_of_toInt?`): the digits and the minus.
-/

namespace StaticServer.Text

variable {t u : Text}

/-! ### Texts of digits -/

/-- A text of digits only. -/
def AreDigits (t : Text) : Prop :=
  ∀ c ∈ t, c.isDigit = true

theorem areDigits_ofNat (n : Nat) : AreDigits (ofNat n) :=
  fun _ hc ↦ Nat.isDigit_of_mem_toDigits (by decide) (by decide) hc

theorem areDigits_zeros (n : Nat) : AreDigits (List.replicate n '0') := by
  intro c hc
  rw [List.eq_of_mem_replicate hc]
  rfl

theorem AreDigits.append (ht : AreDigits t) (hu : AreDigits u) : AreDigits (t ++ u) :=
  fun c hc ↦ (List.mem_append.1 hc).elim (ht c) (hu c)

theorem AreDigits.take (h : AreDigits t) (n : Nat) : AreDigits (t.take n) :=
  fun c hc ↦ h c (List.mem_of_mem_take hc)

theorem AreDigits.drop (h : AreDigits t) (n : Nat) : AreDigits (t.drop n) :=
  fun c hc ↦ h c (List.mem_of_mem_drop hc)

theorem AreDigits.not_mem (h : AreDigits t) {c : Char} (hc : c.isDigit = false) : c ∉ t := by
  intro hmem
  rw [h c hmem] at hc
  cases hc

theorem areDigits_padZero (width n : Nat) : AreDigits (padZero width (ofNat n)) :=
  (areDigits_zeros _).append (areDigits_ofNat n)

/-! ### The number of some digits -/

/-- The number that digits stand for. -/
def readDigits (t : Text) : Nat :=
  Nat.ofDigitChars 10 t 0

@[simp] theorem readDigits_ofNat (n : Nat) : readDigits (ofNat n) = n :=
  Nat.ofDigitChars_ten_toDigits

/-- Digits behind others are worth less by their number. -/
theorem readDigits_append (t u : Text) :
    readDigits (t ++ u) = 10 ^ u.length * readDigits t + readDigits u := by
  rw [readDigits, Nat.ofDigitChars_append, Nat.ofDigitChars_eq_ofDigitChars_zero, readDigits,
    readDigits]

theorem readDigits_zeros (n : Nat) : readDigits (List.replicate n '0') = 0 := by
  rw [readDigits, Nat.ofDigitChars_replicate_zero, Nat.mul_zero]

theorem readDigits_zeros_append (n : Nat) (t : Text) :
    readDigits (List.replicate n '0' ++ t) = readDigits t := by
  rw [readDigits_append, readDigits_zeros, Nat.mul_zero, Nat.zero_add]

theorem readDigits_append_zeros (t : Text) (n : Nat) :
    readDigits (t ++ List.replicate n '0') = 10 ^ n * readDigits t := by
  rw [readDigits_append, readDigits_zeros, List.length_replicate, Nat.add_zero]

@[simp] theorem readDigits_padZero (width n : Nat) : readDigits (padZero width (ofNat n)) = n := by
  rw [padZero, readDigits_zeros_append, readDigits_ofNat]

/-- Different numbers are written differently. -/
theorem ofNat_inj {m n : Nat} : ofNat m = ofNat n ↔ m = n := by
  refine ⟨fun h ↦ ?_, congrArg ofNat⟩
  rw [← readDigits_ofNat m, h, readDigits_ofNat]

/-- Different integers are written differently. -/
theorem ofInt_inj {m n : Int} : ofInt m = ofInt n ↔ m = n := by
  have hminus (k l : Nat) : ofNat k ≠ '-' :: ofNat l := fun h ↦
    (areDigits_ofNat k).not_mem (c := '-') (by decide) (h ▸ List.mem_cons_self)
  refine ⟨fun h ↦ ?_, congrArg ofInt⟩
  cases m with
  | ofNat m =>
    cases n with
    | ofNat n => exact congrArg Int.ofNat (ofNat_inj.1 h)
    | negSucc n => exact absurd h (hminus m _)
  | negSucc m =>
    cases n with
    | ofNat n => exact absurd h.symm (hminus n _)
    | negSucc n => exact congrArg Int.negSucc (Nat.succ.inj (ofNat_inj.1 (List.cons.inj h).2))

/-! ### Reading an integer -/

theorem isDigit_iff {c : Char} : c.isDigit = true ↔ 48 ≤ c.toNat ∧ c.toNat ≤ 57 := by
  rw [Char.isDigit, Bool.and_eq_true, decide_eq_true_eq, decide_eq_true_eq]
  exact and_congr UInt32.le_iff_toNat_le UInt32.le_iff_toNat_le

theorem digitValue?_of_isDigit {c : Char} (h : c.isDigit = true) :
    digitValue? c = some (c.toNat - 48) := by
  obtain ⟨hlow, hhigh⟩ := isDigit_iff.1 h
  have hzero : zeroDigits = 0x30 :: zeroDigits.tail := rfl
  rw [digitValue?, hzero, List.find?_cons_of_pos]
  · rfl
  · simp only [Bool.and_eq_true, decide_eq_true_eq]
    omega

/-- No digit is white space. -/
theorem isSpace_of_isDigit {c : Char} (h : c.isDigit = true) : isSpace c = false := by
  obtain ⟨hlow, hhigh⟩ := isDigit_iff.1 h
  simp only [isSpace, Bool.or_eq_false_iff, Bool.and_eq_false_iff, decide_eq_false_iff_not,
    beq_eq_false_iff_ne]
  omega

/-- What holds no character of a class loses none. -/
theorem trimBy_eq_self {p : Char → Bool} (h : ∀ c ∈ t, p c = false) : trimBy p t = t := by
  have hdrop {u : Text} (hu : ∀ c ∈ u, p c = false) : u.dropWhile p = u := by
    cases u with
    | nil => rfl
    | cons c u => exact List.dropWhile_cons_of_neg (by simp [hu c List.mem_cons_self])
  rw [trimBy, trimLeftBy, trimRightBy, hdrop h, hdrop fun c hc ↦ h c (List.mem_reverse.1 hc),
    List.reverse_reverse]

/-- Digits of ASCII are read one by one, without underscores. -/
theorem digits?_of_areDigits (h : AreDigits t) (hne : t ≠ []) :
    digits? t = some (t.map fun c ↦ c.toNat - 48) := by
  induction t with
  | nil => exact absurd rfl hne
  | cons c rest ih =>
    have hc := digitValue?_of_isDigit (h c List.mem_cons_self)
    rcases rest with - | ⟨d, rest⟩
    · rw [digits?, hc]
      rfl
    · have hrest : AreDigits (d :: rest) := fun e he ↦ h e (List.mem_cons_of_mem c he)
      have hd : d ≠ '_' := by
        rintro rfl
        exact absurd (hrest '_' List.mem_cons_self) (by decide)
      rw [digits?, hc, ih hrest (List.cons_ne_nil d rest)]
      · rfl
      · exact List.cons_ne_nil d rest
      · exact fun rest' hcons ↦ hd (List.cons.inj hcons).1

/-- Digits stand for the number with their values. -/
theorem numberOfDigits_map (t : Text) :
    numberOfDigits (t.map fun c ↦ c.toNat - 48) = readDigits t := by
  rw [numberOfDigits, List.foldl_map, readDigits, Nat.ofDigitChars_eq_foldl]
  rfl

/-- **Digits are read as the number that they stand for.** -/
theorem toInt?_of_areDigits (h : AreDigits t) (hne : t ≠ []) (hlimit : t.length ≤ digitLimit) :
    toInt? t = some ((readDigits t : Nat) : Int) := by
  have htrim : trimSpace t = t := trimBy_eq_self fun c hc ↦ isSpace_of_isDigit (h c hc)
  have hsign : takeSign t = (false, t) := by
    unfold takeSign
    split
    · exact absurd (h '-' List.mem_cons_self) (by decide)
    · exact absurd (h '+' List.mem_cons_self) (by decide)
    · rfl
  rw [toInt?, htrim, hsign]
  simp only [digits?_of_areDigits h hne, List.length_map, hlimit, if_true, numberOfDigits_map]
  rfl

/-- Digits behind a minus are read as the negative of that number. -/
theorem toInt?_minus_of_areDigits (h : AreDigits t) (hne : t ≠ [])
    (hlimit : t.length ≤ digitLimit) :
    toInt? ('-' :: t) = some (-((readDigits t : Nat) : Int)) := by
  have htrim : trimSpace ('-' :: t) = '-' :: t := by
    refine trimBy_eq_self (List.forall_mem_cons.2 ⟨by decide, fun c hc ↦ ?_⟩)
    exact isSpace_of_isDigit (h c hc)
  rw [toInt?, htrim]
  simp only [takeSign, digits?_of_areDigits h hne, List.length_map, hlimit, if_true,
    numberOfDigits_map]
  rfl

theorem ofNat_ne_nil (n : Nat) : ofNat n ≠ [] :=
  Nat.toDigits_ne_nil

/-- **What is written of an integer is read as that integer**, if it is not too long. -/
theorem toInt?_ofInt {n : Int} (h : (ofInt n).length ≤ digitLimit) : toInt? (ofInt n) = some n := by
  cases n with
  | ofNat n =>
    rw [ofInt] at h ⊢
    rw [toInt?_of_areDigits (areDigits_ofNat n) (ofNat_ne_nil n) h, readDigits_ofNat]
    rfl
  | negSucc n =>
    rw [ofInt] at h ⊢
    rw [toInt?_minus_of_areDigits (areDigits_ofNat _) (ofNat_ne_nil _) (Nat.le_of_succ_le h),
      readDigits_ofNat]
    rfl

/-! ### What an integer is read from -/

/-- Does a character say something about a number? -/
def isSignificant (c : Char) : Bool :=
  c.isDigit || c = '-'

/-- The number with the digits of a text, negative if there is a minus in the text. -/
def numeral (t : Text) : Int :=
  signed (t.contains '-') (readDigits (t.filter Char.isDigit))

/-- The digits of a text are of ASCII and not of another script. -/
def HasAsciiDigits (t : Text) : Prop :=
  ∀ c ∈ t, isDigit c = true → c.isDigit = true

/-- The number depends on the significant characters only. -/
theorem numeral_congr (h : t.filter isSignificant = u.filter isSignificant) :
    numeral t = numeral u := by
  have hdigits (v : Text) :
      v.filter Char.isDigit = (v.filter isSignificant).filter Char.isDigit := by
    rw [List.filter_filter]
    refine List.filter_congr fun c _ ↦ ?_
    cases hc : c.isDigit <;> simp [isSignificant, hc]
  have hminus (v : Text) : v.contains '-' = (v.filter isSignificant).contains '-' := by
    rw [Bool.eq_iff_iff, List.contains_iff_mem, List.contains_iff_mem, List.mem_filter]
    exact ⟨fun hmem ↦ ⟨hmem, by decide⟩, And.left⟩
  rw [numeral, numeral, hdigits t, hdigits u, hminus t, hminus u, h]

/-- A character that is not significant changes no number. -/
theorem numeral_cons_of_not_isSignificant {c : Char} (h : isSignificant c = false) (t : Text) :
    numeral (c :: t) = numeral t :=
  numeral_congr (List.filter_cons_of_neg (by rw [h]; exact Bool.false_ne_true))

/-- A zero in front does not, either. -/
theorem numeral_cons_zero (t : Text) : numeral ('0' :: t) = numeral t := by
  have hminus : ('0' :: t).contains '-' = t.contains '-' := by simp
  rw [numeral, numeral, hminus, List.filter_cons_of_pos (by decide)]
  exact congrArg _ (readDigits_zeros_append 1 _)

/-- Without a minus the number is not negative. -/
theorem numeral_of_not_mem (h : '-' ∉ t) : numeral t = readDigits (t.filter Char.isDigit) := by
  have hminus : t.contains '-' = false := by
    rw [← Bool.not_eq_true, List.contains_iff_mem]
    exact h
  rw [numeral, hminus]
  rfl

theorem natAbs_signed (negative : Bool) (n : Nat) : (signed negative n).natAbs = n := by
  rw [signed]
  split
  · exact Int.natAbs_neg n
  · rfl

/-- A minus in front makes a number negative. -/
theorem numeral_cons_minus (t : Text) : numeral ('-' :: t) = -((numeral t).natAbs : Int) := by
  rw [numeral, numeral, natAbs_signed, List.filter_cons_of_neg (by decide)]
  rfl

/-- A text spells digits, the most significant first: it has digits with these values, of any
script, and underscores. -/
inductive SpellsDigits : Text → List Nat → Prop
  | nothing : SpellsDigits [] []
  | digit {c : Char} {d : Nat} {t : Text} {ds : List Nat} (hc : digitValue? c = some d)
    (ht : SpellsDigits t ds) : SpellsDigits (c :: t) (d :: ds)
  | underscore {t : Text} {ds : List Nat} (ht : SpellsDigits t ds) : SpellsDigits ('_' :: t) ds

/-- What is read as digits spells them. -/
theorem spellsDigits_of_digits? {ds : List Nat} (h : digits? t = some ds) : SpellsDigits t ds := by
  fun_induction digits? t generalizing ds with
  | case1 => cases h
  | case2 c =>
    obtain ⟨d, hd, rfl⟩ := Option.map_eq_some_iff.1 h
    exact .digit hd .nothing
  | case3 c rest d ds' hrest hd ih =>
    cases h
    exact .digit hd (.underscore (ih hrest))
  | case4 => cases h
  | case5 c rest _ _ d ds' hrest hd ih =>
    cases h
    exact .digit hd (ih hrest)
  | case6 => cases h

namespace SpellsDigits

variable {ds : List Nat}

theorem isDigit_or_eq (h : SpellsDigits t ds) {c : Char} (hc : c ∈ t) :
    isDigit c = true ∨ c = '_' := by
  induction h with
  | nothing => cases hc
  | digit hd ht ih =>
    rcases List.mem_cons.1 hc with rfl | hc
    · exact .inl (by rw [isDigit, hd]; rfl)
    · exact ih hc
  | underscore ht ih =>
    rcases List.mem_cons.1 hc with rfl | hc
    · exact .inr rfl
    · exact ih hc

theorem not_mem (h : SpellsDigits t ds) {c : Char} (hc : isDigit c = false) (hne : c ≠ '_') :
    c ∉ t := fun hmem ↦ by
  rcases h.isDigit_or_eq hmem with hdigit | heq
  · rw [hc] at hdigit
    cases hdigit
  · exact hne heq

/-- If the digits of a text are of ASCII, it is they that are spelt, -/
theorem eq_map (h : SpellsDigits t ds) (hascii : HasAsciiDigits t) :
    ds = (t.filter Char.isDigit).map fun c ↦ c.toNat - 48 := by
  induction h with
  | nothing => rfl
  | @digit c d t ds hd ht ih =>
    have hc : c.isDigit = true := hascii c List.mem_cons_self (by rw [isDigit, hd]; rfl)
    rw [List.filter_cons_of_pos hc, List.map_cons,
      ← ih fun c hc ↦ hascii c (List.mem_cons_of_mem _ hc)]
    rw [digitValue?_of_isDigit hc] at hd
    rw [Option.some.inj hd]
  | underscore ht ih =>
    rw [List.filter_cons_of_neg (by decide)]
    exact ih fun c hc ↦ hascii c (List.mem_cons_of_mem _ hc)

/-- and they make its number. -/
theorem numeral_eq (h : SpellsDigits t ds) (hascii : HasAsciiDigits t) :
    numeral t = numberOfDigits ds := by
  have hminus : '-' ∉ t := h.not_mem (by decide +kernel) (by decide)
  rw [numeral_of_not_mem hminus, h.eq_map hascii, numberOfDigits_map]

end SpellsDigits

/-- A sign is a minus, a plus or none. -/
theorem takeSign_cases (t : Text) :
    (∃ u, t = '-' :: u ∧ takeSign t = (true, u)) ∨
      (∃ u, t = '+' :: u ∧ takeSign t = (false, u)) ∨ takeSign t = (false, t) := by
  unfold takeSign
  split
  · exact .inl ⟨_, rfl, rfl⟩
  · exact .inr (.inl ⟨_, rfl, rfl⟩)
  · exact .inr (.inr rfl)

theorem HasAsciiDigits.of_cons {c : Char} (h : HasAsciiDigits (c :: t)) : HasAsciiDigits t :=
  fun d hd ↦ h d (List.mem_cons_of_mem c hd)

/-- The digits of an integer and its sign. -/
theorem exists_of_toInt? {n : Int} (h : toInt? t = some n) :
    ∃ ds, digits? (takeSign (trimSpace t)).2 = some ds ∧ ds.length ≤ digitLimit ∧
      n = signed (takeSign (trimSpace t)).1 (numberOfDigits ds) := by
  rw [toInt?] at h
  cases hds : digits? (takeSign (trimSpace t)).2 with
  | none => simp only [hds, reduceCtorEq] at h
  | some ds =>
    simp only [hds] at h
    obtain ⟨hlimit, hn⟩ := Option.ite_none_right_eq_some.1 h
    exact ⟨ds, rfl, hlimit, (Option.some.inj hn).symm⟩

/-- **What an integer is read from**: inside the white space there is no point, and if the digits
are of ASCII, the integer is the number that they stand for. -/
theorem eq_numeral_of_toInt? {n : Int} (h : toInt? t = some n) :
    '.' ∉ trimSpace t ∧ (HasAsciiDigits (trimSpace t) → n = numeral (trimSpace t)) := by
  obtain ⟨ds, hds, -, rfl⟩ := exists_of_toInt? h
  generalize trimSpace t = t at hds ⊢
  have hspells := spellsDigits_of_digits? hds
  have hpoint : '.' ∉ (takeSign t).2 := hspells.not_mem (by decide +kernel) (by decide)
  have hnumeral := hspells.numeral_eq
  rcases takeSign_cases t with ⟨u, rfl, hsign⟩ | ⟨u, rfl, hsign⟩ | hsign
  · rw [hsign] at hpoint hnumeral ⊢
    refine ⟨by simpa using hpoint, fun hascii ↦ ?_⟩
    rw [numeral_cons_minus, hnumeral hascii.of_cons]
    rfl
  · rw [hsign] at hpoint hnumeral ⊢
    refine ⟨by simpa using hpoint, fun hascii ↦ ?_⟩
    rw [numeral_cons_of_not_isSignificant (by decide), hnumeral hascii.of_cons]
    rfl
  · rw [hsign] at hpoint hnumeral ⊢
    exact ⟨hpoint, fun hascii ↦ (hnumeral hascii).symm⟩

/-! ### The length of what is written -/

theorem lt_of_digitValue? {c : Char} {d : Nat} (h : digitValue? c = some d) : d < 10 := by
  obtain ⟨z, hz, rfl⟩ := Option.map_eq_some_iff.1 h
  have hrow := List.find?_some hz
  simp only [Bool.and_eq_true, decide_eq_true_eq] at hrow
  omega

theorem SpellsDigits.lt {ds : List Nat} (h : SpellsDigits t ds) : ∀ d ∈ ds, d < 10 := by
  induction h with
  | nothing => exact nofun
  | digit hc _ ih => exact List.forall_mem_cons.2 ⟨lt_of_digitValue? hc, ih⟩
  | underscore _ ih => exact ih

/-- The number that some digits make is less than ten to how many they are. -/
theorem numberOfDigits_lt {ds : List Nat} (h : ∀ d ∈ ds, d < 10) :
    numberOfDigits ds < 10 ^ ds.length := by
  have hfold (n : Nat) : ds.foldl (fun n d ↦ 10 * n + d) n < (n + 1) * 10 ^ ds.length := by
    induction ds generalizing n with
    | nil => exact Nat.lt_of_lt_of_eq n.lt_succ_self (Nat.mul_one _).symm
    | cons d ds ih =>
      have hd : 10 * n + d + 1 ≤ (n + 1) * 10 := by
        have := h d List.mem_cons_self
        omega
      calc ds.foldl (fun n d ↦ 10 * n + d) (10 * n + d)
        _ < (10 * n + d + 1) * 10 ^ ds.length := ih (fun e he ↦ h e (List.mem_cons_of_mem d he)) _
        _ ≤ (n + 1) * 10 * 10 ^ ds.length := Nat.mul_le_mul_right _ hd
        _ = (n + 1) * 10 ^ (d :: ds).length := by
          rw [List.length_cons, Nat.pow_succ', Nat.mul_assoc]
  have hzero := hfold 0
  rw [Nat.zero_add, Nat.one_mul] at hzero
  exact hzero

/-- An integer that was read is not too long to be written. -/
theorem length_ofNat_of_toInt? {n : Int} (h : toInt? t = some n) :
    (ofNat n.natAbs).length ≤ digitLimit := by
  obtain ⟨ds, hds, hlimit, rfl⟩ := exists_of_toInt? h
  rw [natAbs_signed, ofNat, Nat.length_toDigits_le_iff (by decide) (by decide)]
  exact Nat.lt_of_lt_of_le (numberOfDigits_lt (spellsDigits_of_digits? hds).lt)
    (Nat.pow_le_pow_right (by decide) hlimit)

end StaticServer.Text
