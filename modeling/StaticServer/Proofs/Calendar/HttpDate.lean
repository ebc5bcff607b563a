import StaticServer.Calendar.HttpDate
import StaticServer.Proofs.Calendar.Civil
import StaticServer.Proofs.Text.Integer

/-!
# Dates in headers read back

The reader of dates is made for many forms, and goes by the number and the looks of the words. What
`print` writes has six words (`words_print`): the day's name with its comma, which is dropped, and
one for each field in its place. None of them looks like another one, so each is read as what it was
written for (`parse?_print`).
-/

namespace StaticServer.Calendar.HttpDate

open Text

variable {t u : Text}

/-! ### Words -/

/-- A text that is one word. -/
def IsWord (t : Text) : Prop :=
  t ≠ [] ∧ ∀ c ∈ t, isBlank c = false

instance : Decidable (IsWord t) :=
  -- by going through the text, and not through all characters
  have : Decidable (∀ c ∈ t, isBlank c = false) := List.decidableBAll _ t
  instDecidableAnd

/-- A text without blanks is its only word. -/
theorem IsWord.words_eq (h : IsWord t) : words t = [t] := by
  rw [words, List.splitOnP_eq_singleton h.2, List.filter_cons_of_pos (by simpa using h.1),
    List.filter_nil]

theorem words_append_blank (h : IsWord t) (u : Text) : words (t ++ ' ' :: u) = t :: words u := by
  rw [words, List.splitOnP_append_cons t u (by decide), List.filter_append, ← words, ← words,
    h.words_eq]
  rfl

theorem isBlank_of_isDigit {c : Char} (h : c.isDigit = true) : isBlank c = false := by
  obtain ⟨hlow, hhigh⟩ := isDigit_iff.1 h
  rw [isBlank, isSpace_of_isDigit h, Bool.false_or]
  simp only [Bool.and_eq_false_iff, decide_eq_false_iff_not]
  omega

theorem isWord_of_areDigits (h : AreDigits t) (hne : t ≠ []) : IsWord t :=
  ⟨hne, fun c hc ↦ isBlank_of_isDigit (h c hc)⟩

theorem IsWord.append (ht : IsWord t) (hu : ∀ c ∈ u, isBlank c = false) : IsWord (t ++ u) :=
  ⟨List.append_ne_nil_of_left_ne_nil ht.1 u, List.forall_mem_append.2 ⟨ht.2, hu⟩⟩

/-! ### Numbers -/

/-- A number that is not negative is padded with zeros. -/
theorem padded_eq (width : Nat) {n : Int} (hn : 0 ≤ n) :
    padded width n = padZero width (ofNat n.toNat) := by
  obtain ⟨m, rfl⟩ := Int.eq_ofNat_of_zero_le hn
  rfl

theorem areDigits_padded (width : Nat) {n : Int} (hn : 0 ≤ n) : AreDigits (padded width n) := by
  rw [padded_eq width hn]
  exact areDigits_padZero width _

theorem padded_ne_nil (width : Nat) {n : Int} (hn : 0 ≤ n) : padded width n ≠ [] := by
  rw [padded_eq width hn, padZero]
  exact List.append_ne_nil_of_right_ne_nil _ Nat.toDigits_ne_nil

theorem isWord_padded (width : Nat) {n : Int} (hn : 0 ≤ n) : IsWord (padded width n) :=
  isWord_of_areDigits (areDigits_padded width hn) (padded_ne_nil width hn)

/-- A number of a date reads back, padded or not. -/
theorem toInt?_padded {width : Nat} (hwidth : width ≤ 4) {n : Int} (hn : 0 ≤ n) (hn' : n < 100000) :
    toInt? (padded width n) = some n := by
  have hlength : (ofNat n.toNat).length ≤ 5 :=
    (Nat.length_toDigits_le_iff (by decide) (by decide)).2 (by omega)
  have hlimit : (padded width n).length ≤ digitLimit := by
    rw [padded_eq width hn, padZero, List.length_append, List.length_replicate]
    have hfive : 5 ≤ digitLimit := by decide
    omega
  rw [toInt?_of_areDigits (areDigits_padded width hn) (padded_ne_nil width hn) hlimit,
    padded_eq width hn, readDigits_padZero, Int.toNat_of_nonneg hn]

/-! ### The words of a date -/

/-- The name of a day. -/
def dayName (seconds : Int) : Text :=
  dayNames.getD (weekday (Int.fdiv seconds 86400)) []

/-- The name of a month. -/
def monthName (d : DateTime) : Text :=
  monthNames.getD (d.month - 1).toNat []

/-- The time of a day. -/
def timeOfDay (d : DateTime) : Text :=
  padded 2 d.hour ++ ':' :: (padded 2 d.minute ++ ':' :: padded 2 d.second)

/-- A date is printed as six parts with a blank between neighbours. -/
theorem print_eq (seconds : Int) : print seconds =
    dayName seconds ++ [','] ++ ' ' :: (padded 2 (ofSeconds seconds).day ++ ' ' ::
      (monthName (ofSeconds seconds) ++ ' ' :: (padded 4 (ofSeconds seconds).year ++ ' ' ::
        (timeOfDay (ofSeconds seconds) ++ ' ' :: "GMT")))) := by
  have hcomma : (", " : Text) = [','] ++ [' '] := rfl
  have hzone : (" GMT" : Text) = ' ' :: "GMT" := rfl
  rw [print, hcomma, hzone, dayName, monthName, timeOfDay]
  simp only [List.append_assoc, List.cons_append, List.nil_append]

theorem isWord_dayName (seconds : Int) : IsWord (dayName seconds) := by
  have hnames : ∀ i < 7, IsWord (dayNames.getD i []) := by decide +kernel
  refine hnames _ ?_
  have hfmod : Int.fmod (Int.fdiv seconds 86400 + 3) 7 = (Int.fdiv seconds 86400 + 3) % 7 :=
    Int.fmod_eq_emod_of_nonneg _ (by decide)
  rw [weekday, hfmod]
  omega

/-- The name of a month is a word that is read as the number of the month. -/
theorem monthNumber?_monthName {d : DateTime} (h : d.IsDate) :
    IsWord (monthName d) ∧ monthNumber? (monthName d) = some d.month.toNat := by
  have hnames : ∀ i < 12, IsWord (monthNames.getD i []) ∧
      monthNumber? (monthNames.getD i []) = some (i + 1) := by decide +kernel
  obtain ⟨hlow, hhigh⟩ := h.month
  have hnext : (d.month - 1).toNat + 1 = d.month.toNat := by omega
  rw [monthName, ← hnext]
  exact hnames _ (by omega)

/-- The time of day is a word: it has colons and no blanks in it. -/
theorem isWord_timeOfDay {d : DateTime} (h : d.IsDate) : IsWord (timeOfDay d) := by
  have hminute := isWord_padded 2 h.minute.1
  have hsecond := isWord_padded 2 h.second.1
  refine (isWord_padded 2 h.hour.1).append (List.forall_mem_cons.2 ⟨by decide, ?_⟩)
  exact List.forall_mem_append.2 ⟨hminute.2, List.forall_mem_cons.2 ⟨by decide, hsecond.2⟩⟩

/-- **The words of a date.** -/
theorem words_print {seconds : Int} (hyear : 0 ≤ (ofSeconds seconds).year) :
    words (print seconds) = [dayName seconds ++ [','], padded 2 (ofSeconds seconds).day,
      monthName (ofSeconds seconds), padded 4 (ofSeconds seconds).year,
      timeOfDay (ofSeconds seconds), "GMT"] := by
  have hdate := isDate_ofSeconds seconds
  have hday : 0 ≤ (ofSeconds seconds).day := Int.le_trans (by decide) hdate.day.1
  have hcomma : ∀ c ∈ [','], isBlank c = false := List.forall_mem_singleton.2 (by decide)
  have hzone : IsWord "GMT" := by decide
  rw [print_eq, words_append_blank ((isWord_dayName seconds).append hcomma),
    words_append_blank (isWord_padded 2 hday),
    words_append_blank (monthNumber?_monthName hdate).1,
    words_append_blank (isWord_padded 4 hyear), words_append_blank (isWord_timeOfDay hdate),
    hzone.words_eq]

/-! ### Reading -/

theorem dropComma_eq_self (h : ',' ∉ t) : dropComma t = t := by
  refine if_neg fun hlast ↦ h ?_
  exact List.mem_of_getLast? hlast

/-- The time of day is split into what it was made of. -/
theorem splitTime_timeOfDay {d : DateTime} (h : d.IsDate) :
    splitTime (dropComma (timeOfDay d)) =
      some (padded 2 d.hour, padded 2 d.minute, padded 2 d.second) := by
  have hhour := areDigits_padded 2 h.hour.1
  have hminute := areDigits_padded 2 h.minute.1
  have hsecond := areDigits_padded 2 h.second.1
  have hcomma : ',' ∉ timeOfDay d := by
    simp [timeOfDay, hhour.not_mem (c := ',') rfl, hminute.not_mem (c := ',') rfl,
      hsecond.not_mem (c := ',') rfl]
  have hsplit : (timeOfDay d).splitOn ':' =
      [padded 2 d.hour, padded 2 d.minute, padded 2 d.second] := by
    rw [timeOfDay, List.splitOn_append_cons_self_of_not_mem (hhour.not_mem rfl),
      List.splitOn_append_cons_self_of_not_mem (hminute.not_mem rfl),
      List.splitOn_eq_singleton (hsecond.not_mem rfl)]
  rw [dropComma_eq_self hcomma, splitTime, hsplit]

/-- The fields of what is written for a date. -/
theorem ofWords?_print {seconds : Int} (hyear : 0 ≤ (ofSeconds seconds).year) :
    Fields.ofWords? (words (print seconds)) =
      some ⟨padded 2 (ofSeconds seconds).day, monthName (ofSeconds seconds),
        padded 4 (ofSeconds seconds).year, timeOfDay (ofSeconds seconds), "GMT"⟩ := by
  have hcomma : (dayName seconds ++ [',']).getLast? = some ',' := List.getLast?_concat
  rw [words_print hyear, Fields.ofWords?, dropDayName, hcomma]
  rfl

/-- A number is no time of day, so it stays in the place of the year. -/
theorem orderYear_of_areDigits {f : Fields} (h : AreDigits f.year) (hne : f.year ≠ []) :
    f.orderYear = some f := by
  have hcolon : ':' ∉ f.year.drop 1 := (h.drop 1).not_mem rfl
  have hcomma : dropComma f.year = f.year := dropComma_eq_self (h.not_mem rfl)
  have hdigit : startsWithDigit f.year = true := by
    obtain ⟨c, rest, hyear⟩ := List.exists_cons_of_ne_nil hne
    have hc : c.isDigit = true := h c (by rw [hyear]; exact List.mem_cons_self)
    rw [hyear, startsWithDigit, isDigit, digitValue?_of_isDigit hc]
    rfl
  have hempty : f.year.isEmpty = false := by simpa using hne
  have hcontains : (f.year.drop 1).contains ':' = false := by simpa using hcolon
  simp only [Fields.orderYear, hcontains, Bool.false_and, Bool.false_eq_true, if_false, hcomma,
    hempty, hdigit, if_true]

/-- **What is written for a date is read as its fields.** A year of two digits is read as one of
today. -/
theorem parse?_print {seconds : Int} (hyear : 0 ≤ (ofSeconds seconds).year)
    (hyear' : (ofSeconds seconds).year ≤ 10000) :
    parse? (print seconds) =
      some { ofSeconds seconds with year := fullYear (ofSeconds seconds).year } := by
  have hdate := isDate_ofSeconds seconds
  have hfields := ofWords?_print hyear
  generalize ofSeconds seconds = d at *
  obtain ⟨⟨hname, -⟩, hnumber⟩ := monthNumber?_monthName hdate
  have hmonth : 0 ≤ d.month := Int.le_trans (by decide) hdate.month.1
  have hday : 0 ≤ d.day := Int.le_trans (by decide) hdate.day.1
  -- no field is empty
  have hempty : ((padded 2 d.day).isEmpty || (monthName d).isEmpty || (padded 4 d.year).isEmpty) =
      false := by
    simp [padded_ne_nil 2 hday, hname, padded_ne_nil 4 hyear]
  have hmonthFirst (f : Fields) (hf : f.month = monthName d) :
      f.orderMonth = some (f, d.month.toNat) := by
    rw [Fields.orderMonth, hf, hnumber]
  have hcomma : dropComma (padded 2 d.day) = padded 2 d.day :=
    dropComma_eq_self ((areDigits_padded 2 hday).not_mem rfl)
  -- and each of them is read as the number that it was written for
  have hreadYear : toInt? (padded 4 d.year) = some d.year :=
    toInt?_padded (by decide) hyear (by omega)
  have hread {n : Int} (hn : 0 ≤ n) (hn' : n ≤ 59) : toInt? (padded 2 n) = some n :=
    toInt?_padded (by decide) hn (by omega)
  have hreadDay := hread hday (Int.le_trans hdate.day.2 (by decide))
  have hreadHour := hread hdate.hour.1 (Int.le_trans hdate.hour.2 (by decide))
  have hreadMinute := hread hdate.minute.1 hdate.minute.2
  have hreadSecond := hread hdate.second.1 hdate.second.2
  have horder : Fields.orderYear ⟨padded 2 d.day, monthName d, padded 4 d.year, timeOfDay d,
      "GMT"⟩ = some ⟨padded 2 d.day, monthName d, padded 4 d.year, timeOfDay d, "GMT"⟩ :=
    orderYear_of_areDigits (areDigits_padded 4 hyear) (padded_ne_nil 4 hyear)
  rw [parse?, hfields]
  simp only [Option.bind_eq_bind, Option.bind_some, hempty, Bool.false_eq_true, if_false,
    hmonthFirst, horder, splitTime_timeOfDay hdate, hreadYear, hcomma, hreadDay, hreadHour,
    hreadMinute, hreadSecond, Int.toNat_of_nonneg hmonth]

/-- Every date that a header can show is read back. -/
theorem isSome_parse?_print {seconds : Int} (hfirst : -62135596800 ≤ seconds)
    (hlast : seconds ≤ 253402300799) : (parse? (print seconds)).isSome = true := by
  have hdays : Int.fdiv seconds 86400 = seconds / 86400 :=
    Int.fdiv_eq_ediv_of_nonneg _ (by decide)
  obtain ⟨hyear, hyear'⟩ : 0 ≤ (ofSeconds seconds).year ∧ (ofSeconds seconds).year ≤ 10000 :=
    year_bounds (by omega) (by omega)
  rw [parse?_print hyear hyear']
  rfl

end StaticServer.Calendar.HttpDate

namespace StaticServer.Calendar.DateTime

/-- A date is not before itself. -/
theorem notBefore_self (d : DateTime) : d.notBefore d = true := by
  simp [notBefore, fields, List.lex]

end StaticServer.Calendar.DateTime
