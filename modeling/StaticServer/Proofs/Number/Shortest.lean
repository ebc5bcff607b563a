import StaticServer.Number.Shortest
import StaticServer.Proofs.Number.Binary64
import StaticServer.Proofs.Text.Integer

/-!
# The text of a number reads back

Reading the text of a binary64 number as the decimal that it is (`read`) and rounding that gives the
number again (`nearest_read_text`), so different numbers have different texts (`text_inj`). Two
things come together in it. Seventeen digits are enough: one of the two neighbours of a number on
the grid of its seventeenth digit is so close that it rounds to it (`readsBack_digits`). And the
layout loses nothing but zeros at the end (`readMagnitude_layout`).
-/

namespace StaticServer.Shortest

open Binary64 Text

variable {x y : Rat}

/-! ### The place of the first digit -/

theorem lt_pow_length (n : Nat) : n < 10 ^ (ofNat n).length :=
  (Nat.length_toDigits_le_iff (by decide) Nat.length_toDigits_pos).1 le_rfl

theorem pow_length_le {n : Nat} (hn : n ≠ 0) : 10 ^ ((ofNat n).length - 1) ≤ n := by
  by_cases hone : (ofNat n).length - 1 = 0
  · rw [hone]
    omega
  · refine not_lt.1 fun hlt ↦ ?_
    have hle : (ofNat n).length ≤ (ofNat n).length - 1 :=
      (Nat.length_toDigits_le_iff (by decide) (Nat.pos_of_ne_zero hone)).2 hlt
    omega

/-- **The place of the first digit is the logarithm to base 10.** -/
theorem decimalExponent_eq_log (hx : 0 < x) : decimalExponent x = Int.log 10 x := by
  have hnum : x.num.natAbs ≠ 0 := Int.natAbs_ne_zero.2 (Rat.num_pos.2 hx).ne'
  have hlength (n : Nat) : (ofNat n).length - 1 + 1 = (ofNat n).length :=
    Nat.sub_add_cancel Nat.length_toDigits_pos
  have hguess := sub_eq_log_or (b := 10) (by decide) hx (pow_length_le hnum)
    (by rw [hlength]; exact lt_pow_length _) (pow_length_le x.den_ne_zero)
    (by rw [hlength]; exact lt_pow_length _)
  have hcast : (((ofNat x.num.natAbs).length - 1 : Nat) - ((ofNat x.den).length - 1 : Nat) : Int) =
      (ofNat x.num.natAbs).length - (ofNat x.den).length := by
    have hn := hlength x.num.natAbs
    have hd := hlength x.den
    omega
  rw [hcast] at hguess
  exact settleExponent_eq_log (by decide) hx hguess

/-! ### Seventeen digits are enough -/

/-- A decimal that is taken from a grid rounds to the number that it was taken for. -/
theorem nearest_of_onGrid {k : Int} {d : Decimal} (h : onGrid x k = some d) :
    nearest d.value = some x := by
  have hsome {d' : Decimal} (hback : readsBack x d' = true) (heq : some d' = some d) :
      nearest d.value = some x := by
    rw [← Option.some_inj.1 heq]
    exact of_decide_eq_true hback
  simp only [onGrid] at h
  split at h
  · next hbelow habove =>
    rw [closer] at h
    dsimp only at h
    split_ifs at h
    · exact hsome hbelow h
    · exact hsome habove h
    · exact hsome hbelow h
    · exact hsome habove h
  · next hbelow _ => exact hsome hbelow h
  · next _ habove => exact hsome habove h
  · cases h

/-- On a grid that is fine enough, one of the two neighbours of a number rounds to it. -/
theorem exists_onGrid (h : IsNumber x) (hx : 0 < x) {k : Int} (hk : (10 : Rat) ^ (k + 16) ≤ x) :
    ∃ d, onGrid x k = some d := by
  have hstep : (0 : Rat) < 10 ^ k := zpow_pos (by norm_num) k
  have hfine : (10 : Rat) ^ k * 10 ^ 16 ≤ x := by
    rw [zpow_add₀ (by norm_num)] at hk
    exact_mod_cast hk
  have hclose {d : Decimal} (hd : |d.value - x| ≤ 10 ^ k / 2) : readsBack x d = true := by
    refine decide_eq_true (h.nearest_of_near hx ?_)
    linarith
  have hfloor : 0 ≤ (x / 10 ^ k).floor :=
    Rat.le_floor_iff.2 (by exact_mod_cast (div_pos hx hstep).le)
  obtain ⟨low, hlow⟩ := Int.eq_ofNat_of_zero_le hfloor
  have hbelow : (low : Rat) * 10 ^ k ≤ x := by
    have hle := Rat.floor_le (x / 10 ^ k)
    rw [hlow] at hle
    exact (le_div_iff₀ hstep).1 (by exact_mod_cast hle)
  have habove : x < (low + 1 : Nat) * 10 ^ k := by
    have hlt := Rat.lt_floor_add_one (x / 10 ^ k)
    rw [hlow] at hlt
    exact (div_lt_iff₀ hstep).1 (by exact_mod_cast hlt)
  -- of the two neighbours on the grid one is at most half a step away
  have hback : readsBack x ⟨low, k⟩ = true ∨ readsBack x ⟨low + 1, k⟩ = true := by
    have hnext : ((low + 1 : Nat) : Rat) * 10 ^ k = low * 10 ^ k + 10 ^ k := by
      push_cast
      ring
    by_cases hhalf : x - low * 10 ^ k ≤ 10 ^ k / 2
    · refine .inl (hclose ?_)
      show |(low : Rat) * 10 ^ k - x| ≤ 10 ^ k / 2
      rw [abs_of_nonpos (by linarith)]
      linarith
    · refine .inr (hclose ?_)
      show |((low + 1 : Nat) : Rat) * 10 ^ k - x| ≤ 10 ^ k / 2
      rw [abs_of_pos (by linarith)]
      linarith
  simp only [onGrid, hlow, Int.toNat_natCast]
  rcases hl : readsBack x ⟨low, k⟩ with - | - <;> rcases hh : readsBack x ⟨low + 1, k⟩ with - | -
  · rw [hl, hh] at hback
    exact absurd hback (by decide)
  · exact ⟨_, rfl⟩
  · exact ⟨_, rfl⟩
  · exact ⟨_, rfl⟩

/-- **The digits of a positive number read back.** -/
theorem nearest_digits (h : IsNumber x) (hx : 0 < x) : nearest (digits x).value = some x := by
  have hlast : ∃ d, onGrid x (decimalExponent x - (16 : Nat)) = some d := by
    refine exists_onGrid h hx ?_
    rw [decimalExponent_eq_log hx, Nat.cast_ofNat, sub_add_cancel]
    exact_mod_cast Int.zpow_log_le_self (b := 10) (by decide) hx
  have hsome : ((List.range 17).findSome?
      fun (n : Nat) ↦ onGrid x (decimalExponent x - n)).isSome = true := by
    obtain ⟨d, hd⟩ := hlast
    rw [List.findSome?_isSome_iff]
    exact ⟨16, by decide, by rw [hd]; rfl⟩
  obtain ⟨d, hd⟩ := Option.isSome_iff_exists.1 hsome
  obtain ⟨n, -, hn⟩ := List.exists_of_findSome?_eq_some hd
  have hdigits : digits x = d := by
    simp only [digits, hd, Option.getD_some]
  rw [hdigits]
  exact nearest_of_onGrid hn

/-! ### Reading a text -/

/-- The power of ten behind the mark of an exponent. -/
def readPower : Text → Int
  | '-' :: t => -(readDigits t)
  | '+' :: t => readDigits t
  | _ => 0

/-- The decimal number that a text without a sign stands for: its digits, with the point where it
stands, times the power of ten. -/
def readMagnitude (t : Text) : Rat :=
  let (mantissa, power) := cut 'e' t
  let (whole, fraction) := cut '.' mantissa
  readDigits (whole ++ fraction.getD []) *
    10 ^ (readPower (power.getD []) - (fraction.getD []).length)

/-- The decimal number that a text stands for. -/
def read : Text → Rat
  | '-' :: t => -readMagnitude t
  | t => readMagnitude t

variable {ds t u : Text}

/-- Digits with a point among them. -/
theorem readMagnitude_point (ht : AreDigits t) (hu : AreDigits u) :
    readMagnitude (t ++ '.' :: u) = readDigits (t ++ u) * 10 ^ (-(u.length : Int)) := by
  have hmark : 'e' ∉ t ++ '.' :: u := by
    have hte := ht.not_mem (c := 'e') rfl
    have hue := hu.not_mem (c := 'e') rfl
    simp [hte, hue]
  simp only [readMagnitude, cut_of_not_mem hmark, cut_append (ht.not_mem (c := '.') rfl),
    Option.getD_some, Option.getD_none, readPower, zero_sub]

/-- Digits with a point among them and an exponent. -/
theorem readMagnitude_point_power (ht : AreDigits t) (hu : AreDigits u) (power : Text) :
    readMagnitude (t ++ '.' :: u ++ 'e' :: power) =
      readDigits (t ++ u) * 10 ^ (readPower power - u.length) := by
  have hmark : 'e' ∉ t ++ '.' :: u := by
    have hte := ht.not_mem (c := 'e') rfl
    have hue := hu.not_mem (c := 'e') rfl
    simp [hte, hue]
  simp only [readMagnitude, cut_append hmark, cut_append (ht.not_mem (c := '.') rfl),
    Option.getD_some]

/-- Digits and an exponent. -/
theorem readMagnitude_power (ht : AreDigits t) (power : Text) :
    readMagnitude (t ++ 'e' :: power) = readDigits t * 10 ^ readPower power := by
  simp only [readMagnitude, cut_append (ht.not_mem (c := 'e') rfl),
    cut_of_not_mem (ht.not_mem (c := '.') rfl), Option.getD_some, Option.getD_none,
    List.append_nil, List.length_nil, Nat.cast_zero, sub_zero]

/-! ### Reading a layout -/

theorem isEmpty_drop_iff {n : Nat} : (t.drop n).isEmpty = true ↔ t.length ≤ n := by
  rw [List.isEmpty_iff, List.drop_eq_nil_iff]

/-- A number is read in positional form. -/
theorem readMagnitude_positional (hds : AreDigits ds) (point : Int) :
    readMagnitude (positional ds point) = readDigits ds * 10 ^ (point - ds.length) := by
  rw [positional]
  split_ifs with hpoint
  · -- zeros stand between the point and the first digit
    have hread := readMagnitude_point (areDigits_zeros 1)
      ((areDigits_zeros (-point).toNat).append hds)
    rw [readDigits_zeros_append, readDigits_zeros_append] at hread
    refine hread.trans ?_
    congr 2
    rw [List.length_append, List.length_replicate]
    omega
  · obtain ⟨p, rfl⟩ := Int.eq_ofNat_of_zero_le (Int.le_of_not_le hpoint)
    dsimp only
    rw [Int.toNat_natCast]
    by_cases hrest : p < ds.length
    · -- the point stands among the digits
      have hzeros : p - ds.length = 0 := by omega
      rw [if_neg (mt isEmpty_drop_iff.1 hrest.not_ge), hzeros, List.replicate_zero, List.append_nil,
        readMagnitude_point (hds.take p) (hds.drop p), List.take_append_drop, List.length_drop]
      congr 2
      omega
    · -- zeros stand between the last digit and the point
      rw [not_lt] at hrest
      obtain ⟨k, rfl⟩ := Nat.exists_eq_add_of_le hrest
      have hread := readMagnitude_point (hds.append (areDigits_zeros k)) (areDigits_zeros 1)
      rw [readDigits_append_zeros, readDigits_append_zeros] at hread
      rw [if_pos (isEmpty_drop_iff.2 hrest), List.take_of_length_le hrest,
        Nat.add_sub_cancel_left]
      refine hread.trans ?_
      have hexponent : ((ds.length + k : Nat) : Int) - ds.length = k := by omega
      rw [hexponent, zpow_natCast, List.length_replicate]
      push_cast
      norm_num
      ring

/-- A number is read in the form with an exponent. -/
theorem readMagnitude_scientific (hds : AreDigits ds) (hne : ds ≠ []) (width : Nat)
    (exponent : Int) : readMagnitude (scientific width ds exponent) =
      readDigits ds * 10 ^ (exponent + 1 - ds.length) := by
  have hpower : readPower ((if exponent < 0 then '-' else '+') ::
      padZero width (ofNat exponent.natAbs)) = exponent := by
    split_ifs with hneg
    · rw [readPower, readDigits_padZero]
      omega
    · rw [readPower, readDigits_padZero]
      omega
  have hlength : 0 < ds.length := List.length_pos_iff.2 hne
  rw [scientific]
  by_cases hrest : 1 < ds.length
  · rw [if_neg (mt isEmpty_drop_iff.1 hrest.not_ge),
      readMagnitude_point_power (hds.take 1) (hds.drop 1), List.take_append_drop,
      List.length_drop, hpower]
    congr 2
    omega
  · have hone : ds.length = 1 := by omega
    rw [if_pos (isEmpty_drop_iff.2 hone.le), List.append_nil, List.take_of_length_le hone.le,
      readMagnitude_power hds, hpower, hone, Nat.cast_one, add_sub_cancel_right]

/-! ### The text of a number -/

/-- A text is the text without the zeros at its end, and these. -/
theorem exists_append_zeros (t : Text) :
    ∃ n, t = trimRightBy (· == '0') t ++ List.replicate n '0' := by
  have hzeros : ∀ c ∈ t.reverse.takeWhile (· == '0'), c = '0' := fun c hc ↦
    eq_of_beq (List.all_eq_true.1 List.all_takeWhile c hc)
  refine ⟨(t.reverse.takeWhile (· == '0')).length, ?_⟩
  rw [trimRightBy, ← List.reverse_replicate, ← List.eq_replicate_of_mem hzeros,
    ← List.reverse_append, List.takeWhile_append_dropWhile, List.reverse_reverse]

/-- Without the zeros at the end there are digits left of a number that is not zero. -/
theorem exists_trimmed {n : Nat} (hn : n ≠ 0) :
    ∃ ds k, trimRightBy (· == '0') (ofNat n) = ds ∧ (ofNat n).length = ds.length + k ∧
      AreDigits ds ∧ ds ≠ [] ∧ n = 10 ^ k * readDigits ds := by
  obtain ⟨k, hall⟩ := exists_append_zeros (ofNat n)
  have hdigits := areDigits_ofNat n
  have hvalue := readDigits_ofNat n
  refine ⟨_, k, rfl, ?_⟩
  generalize trimRightBy (· == '0') (ofNat n) = ds at hall ⊢
  rw [hall] at hdigits hvalue ⊢
  rw [readDigits_append_zeros] at hvalue
  refine ⟨by rw [List.length_append, List.length_replicate],
    fun c hc ↦ hdigits c (List.mem_append_left _ hc), ?_, hvalue.symm⟩
  rintro rfl
  exact hn hvalue.symm

/-- A decimal is laid out by where its point falls: positionally within the bounds of the layout,
with an exponent outside of them. -/
theorem layout_eq (l : Layout) (d : Decimal) : d.layout l =
    if l.least ≤ (ofNat d.digits).length + d.exponent ∧
        (ofNat d.digits).length + d.exponent ≤ l.greatest then
      positional (trimRightBy (· == '0') (ofNat d.digits)) ((ofNat d.digits).length + d.exponent)
    else scientific l.exponentWidth (trimRightBy (· == '0') (ofNat d.digits))
      ((ofNat d.digits).length + d.exponent - 1) :=
  rfl

/-- **The layout of a decimal reads as the decimal.** -/
theorem readMagnitude_layout (l : Layout) {d : Decimal} (hd : d.digits ≠ 0) :
    readMagnitude (d.layout l) = d.value := by
  obtain ⟨ds, k, htrim, hlength, hds, hne, hvalue⟩ := exists_trimmed hd
  -- the zeros at the end are a power of ten
  have hpower : d.value = readDigits ds * 10 ^ (k + d.exponent) := by
    rw [Decimal.value, hvalue, zpow_add₀ (by norm_num), zpow_natCast]
    push_cast
    ring
  rw [layout_eq, htrim, hlength, hpower]
  split_ifs
  · rw [readMagnitude_positional hds]
    congr 2
    omega
  · rw [readMagnitude_scientific hds hne]
    congr 2
    omega

/-- A layout starts with a digit. -/
theorem exists_layout_eq_cons (l : Layout) {d : Decimal} (hd : d.digits ≠ 0) :
    ∃ c t, d.layout l = c :: t ∧ c.isDigit = true := by
  obtain ⟨ds, k, htrim, -, hds, hne, -⟩ := exists_trimmed hd
  obtain ⟨c, rest, rfl⟩ := List.exists_cons_of_ne_nil hne
  have hc : c.isDigit = true := hds c List.mem_cons_self
  rw [layout_eq, htrim]
  split_ifs
  · rw [positional]
    split_ifs with hpoint
    · exact ⟨'0', _, rfl, rfl⟩
    · obtain ⟨p, hp⟩ := Int.eq_succ_of_zero_lt (Int.lt_of_not_ge hpoint)
      rw [hp]
      exact ⟨c, _, rfl, hc⟩
  · exact ⟨c, _, rfl, hc⟩

/-- **The text of a positive number is read back as the number**; the sign is all that is
missing. -/
theorem nearest_read_of_pos (h : IsNumber x) (hx : 0 < x) :
    (digits x).digits ≠ 0 ∧ nearest (readMagnitude ((digits x).layout plain)) = some x := by
  have hback := nearest_digits h hx
  have hne : (digits x).digits ≠ 0 := by
    intro hzero
    rw [Decimal.value, hzero, Nat.cast_zero, zero_mul] at hback
    exact hx.ne (Option.some_inj.1 (isNumber_zero.symm.trans hback))
  exact ⟨hne, by rwa [readMagnitude_layout plain hne]⟩

/-- **The text of a number reads back as the number.** -/
theorem nearest_read_text (h : IsNumber x) : nearest (read (text x)) = some x := by
  rcases lt_trichotomy x 0 with hneg | rfl | hpos
  · obtain ⟨-, hback⟩ := nearest_read_of_pos h.neg (neg_pos.2 hneg)
    have hread : read (text x) = -readMagnitude ((digits (-x)).layout plain) := by
      rw [text, if_neg hneg.ne, if_pos hneg, read]
    rw [hread, nearest_neg, hback, Option.map_some, neg_neg]
  · have hread : read (text 0) = 0 := by decide +kernel
    rw [hread]
    exact isNumber_zero
  · obtain ⟨hne, hback⟩ := nearest_read_of_pos h hpos
    obtain ⟨c, t, ht, hc⟩ := exists_layout_eq_cons plain hne
    have hread : read (text x) = readMagnitude ((digits x).layout plain) := by
      rw [text, if_neg hpos.ne', if_neg hpos.le.not_gt, ht, read]
      intro u hu
      rw [(List.cons.inj hu).1] at hc
      cases hc
    rw [hread, hback]

/-- **Different numbers have different texts.** -/
theorem text_inj (hx : IsNumber x) (hy : IsNumber y) : text x = text y ↔ x = y := by
  refine ⟨fun h ↦ ?_, congrArg text⟩
  have hread := nearest_read_text hx
  rw [h, nearest_read_text hy] at hread
  exact (Option.some_inj.1 hread).symm

end StaticServer.Shortest
