import Mathlib.Algebra.Order.Field.Power
import Mathlib.Data.Int.Log
import Mathlib.Data.Rat.Floor
import Mathlib.Tactic.Linarith
import Mathlib.Tactic.NormNum
import Mathlib.Tactic.Ring
import StaticServer.Number.Binary64

/-!
# What rounds to a binary64 number

A number is one that rounds to itself (`IsNumber`). Whatever is rounded is a number
(`isNumber_round`): it is a multiple of its own spacing, also when rounding has taken it to the next
power of two. And a number attracts what is close enough to it (`IsNumber.nearest_of_near`): within
one part in `2 ^ 54` everything rounds to it, on both sides, although below a power of two the
spacing is half of that above.
-/

namespace StaticServer.Binary64

variable {x y : Rat}

/-! ### Exponents -/

/-- The exponent that is settled on is the logarithm, when the guess is that or one more. -/
theorem settleExponent_eq_log {b : Nat} (hb : 1 < b) (hx : 0 < x) {guess : Int}
    (hguess : guess = Int.log b x ∨ guess = Int.log b x + 1) :
    settleExponent b x guess = Int.log b x := by
  rw [settleExponent]
  have hle : (b : Rat) ^ guess ≤ x ↔ guess ≤ Int.log b x := Int.zpow_le_iff_le_log hb hx
  by_cases h : guess ≤ Int.log b x
  · rw [if_pos (hle.2 h)]
    omega
  · rw [if_neg (mt hle.1 h)]
    omega

/-- A quotient lies between the powers that its parts give. -/
theorem zpow_lt_and_lt_zpow {b m : Rat} (hb : 0 < b) (hm : 0 < m) {p q : Int} (hnum : b ^ p ≤ x * m)
    (hnum' : x * m < b ^ (p + 1)) (hden : b ^ q ≤ m) (hden' : m < b ^ (q + 1)) :
    b ^ (p - q - 1) < x ∧ x < b ^ (p - q + 1) := by
  constructor
  · refine lt_of_mul_lt_mul_right ?_ hm.le
    calc b ^ (p - q - 1) * m
        < b ^ (p - q - 1) * b ^ (q + 1) := mul_lt_mul_of_pos_left hden' (zpow_pos hb _)
      _ = b ^ p := by
          rw [← zpow_add₀ hb.ne']
          congr 1
          omega
      _ ≤ x * m := hnum
  · refine lt_of_mul_lt_mul_right ?_ hm.le
    calc x * m < b ^ (p + 1) := hnum'
      _ = b ^ (p - q + 1) * b ^ q := by
          rw [← zpow_add₀ hb.ne']
          congr 1
          omega
      _ ≤ b ^ (p - q + 1) * m := mul_le_mul_of_nonneg_left hden (zpow_pos hb _).le

/-- The difference of the logarithms of numerator and denominator is that of the quotient, or one
more. -/
theorem sub_eq_log_or {b p q : Nat} (hb : 1 < b) (hx : 0 < x) (hnum : b ^ p ≤ x.num.natAbs)
    (hnum' : x.num.natAbs < b ^ (p + 1)) (hden : b ^ q ≤ x.den) (hden' : x.den < b ^ (q + 1)) :
    (p - q : Int) = Int.log b x ∨ (p - q : Int) = Int.log b x + 1 := by
  have hbase : (0 : Rat) < b := by exact_mod_cast (by omega : 0 < b)
  have hpos : (0 : Rat) < x.den := by exact_mod_cast x.den_pos
  have hquotient : x * x.den = x.num.natAbs := by
    have habs : ((x.num.natAbs : Int) : Rat) = x.num := by
      rw [Int.natAbs_of_nonneg (Rat.num_nonneg.2 hx.le)]
    rw [Rat.mul_den_eq_num, ← habs, Int.cast_natCast]
  obtain ⟨hlower, hupper⟩ :
      (b : Rat) ^ (p - q - 1 : Int) < x ∧ x < (b : Rat) ^ (p - q + 1 : Int) := by
    refine zpow_lt_and_lt_zpow hbase hpos ?_ ?_ ?_ ?_
    · rw [hquotient, zpow_natCast]
      exact_mod_cast hnum
    · rw [hquotient]
      exact_mod_cast hnum'
    · rw [zpow_natCast]
      exact_mod_cast hden
    · exact_mod_cast hden'
  have hle : (p - q - 1 : Int) ≤ Int.log b x := (Int.zpow_le_iff_le_log hb hx).1 hlower.le
  have hlt : Int.log b x < p - q + 1 := (Int.lt_zpow_iff_log_lt hb hx).1 hupper
  omega

/-- **The exponent is the logarithm to base 2.** -/
theorem exponent_eq_log (hx : 0 < x) : exponent x = Int.log 2 x := by
  have hnum : x.num.natAbs ≠ 0 := Int.natAbs_ne_zero.2 (Rat.num_pos.2 hx).ne'
  exact settleExponent_eq_log (by decide) hx (sub_eq_log_or (by decide) hx
    (Nat.log2_self_le hnum) Nat.lt_log2_self (Nat.log2_self_le x.den_ne_zero) Nat.lt_log2_self)

theorem two_zpow_log_le (hx : 0 < x) : (2 : Rat) ^ Int.log 2 x ≤ x := by
  exact_mod_cast Int.zpow_log_le_self (b := 2) (by decide) hx

theorem lt_two_zpow_log (x : Rat) : x < (2 : Rat) ^ (Int.log 2 x + 1) := by
  exact_mod_cast Int.lt_zpow_succ_log_self (b := 2) (by decide) x

theorem log_eq {e : Int} (h : (2 : Rat) ^ e ≤ x) (h' : x < (2 : Rat) ^ (e + 1)) :
    Int.log 2 x = e := by
  have hx : 0 < x := (zpow_pos (by norm_num) e).trans_le h
  have hle : e ≤ Int.log 2 x := (Int.zpow_le_iff_le_log (by decide) hx).1 (by exact_mod_cast h)
  have hlt : Int.log 2 x < e + 1 :=
    (Int.lt_zpow_iff_log_lt (by decide) hx).1 (by exact_mod_cast h')
  omega

/-! ### Rounding to an integer -/

theorem floor_eq {n : Int} (h : n ≤ x) (h' : x < n + 1) : x.floor = n :=
  Int.floor_eq_iff.2 ⟨h, h'⟩

/-- What is nearer than a half to an integer is rounded to it. -/
theorem roundHalfEven_of_near {n : Int} (h : |x - n| < 1 / 2) : roundHalfEven x = n := by
  obtain ⟨hlow, hhigh⟩ := abs_lt.1 h
  by_cases hle : (n : Rat) ≤ x
  · have hfloor : x.floor = n := floor_eq hle (by linarith)
    simp only [roundHalfEven, hfloor]
    exact if_pos hhigh
  · rw [not_le] at hle
    have hfloor : x.floor = n - 1 := by
      refine floor_eq ?_ ?_ <;> push_cast <;> linarith
    simp only [roundHalfEven, hfloor]
    push_cast
    rw [if_neg (by linarith), if_pos (by linarith)]
    omega

/-- Rounding crosses no integer: not zero from above, -/
theorem roundHalfEven_nonneg (h : 0 ≤ x) : 0 ≤ roundHalfEven x := by
  have hfloor : 0 ≤ x.floor := Rat.le_floor_iff.2 (by exact_mod_cast h)
  simp only [roundHalfEven]
  split_ifs <;> omega

/-- and none from below. -/
theorem roundHalfEven_le {n : Int} (h : x ≤ n) : roundHalfEven x ≤ n := by
  have hfloor : x.floor ≤ n := by exact_mod_cast (Rat.floor_le x).trans h
  simp only [roundHalfEven]
  by_cases heq : x.floor = n
  · have hrest : x - x.floor < 1 / 2 := by
      rw [heq]
      linarith
    rw [if_pos hrest]
    exact hfloor
  · split_ifs <;> omega

/-! ### Multiples of the spacing -/

/-- The exponent of the spacing of a positive number. -/
def spacingExponent (x : Rat) : Int :=
  max (Int.log 2 x - 52) (-1074)

theorem spacing_eq (hx : 0 < x) : spacing x = (2 : Rat) ^ spacingExponent x := by
  rw [spacing, exponent_eq_log hx, spacingExponent]

theorem spacing_pos (hx : 0 < x) : 0 < spacing x := by
  rw [spacing_eq hx]
  exact zpow_pos (by norm_num) _

/-- The next power of two is no more than `2 ^ 53` times the spacing. -/
theorem zpow_log_le_spacing (hx : 0 < x) :
    (2 : Rat) ^ (Int.log 2 x + 1) ≤ 2 ^ 53 * spacing x := by
  have hmax : Int.log 2 x - 52 ≤ spacingExponent x := le_max_left _ _
  calc (2 : Rat) ^ (Int.log 2 x + 1) ≤ (2 : Rat) ^ (53 + spacingExponent x) :=
        zpow_le_zpow_right₀ (by norm_num) (by omega)
    _ = 2 ^ 53 * spacing x := by
        rw [zpow_add₀ (by norm_num), spacing_eq hx]
        norm_num

/-- A positive number is less than `2 ^ 53` times its spacing, so that a multiple of the spacing has
a significand that fits. -/
theorem lt_spacing (hx : 0 < x) : x < 2 ^ 53 * spacing x :=
  (lt_two_zpow_log x).trans_le (zpow_log_le_spacing hx)

/-- What lies within half a spacing of a multiple of the spacing rounds to that. -/
theorem nearestPositive_of_multiple (hy : 0 < y) {j : Int} (hx : x = j * spacing y)
    (hnear : |y - x| < spacing y / 2) (hgreatest : x < 2 ^ 1024) : nearestPositive y = some x := by
  have hpos := spacing_pos hy
  have hround : roundHalfEven (y / spacing y) = j := by
    refine roundHalfEven_of_near ?_
    have hscale : y / spacing y - j = (y - x) / spacing y := by
      rw [hx, sub_div, mul_div_cancel_right₀ _ hpos.ne']
    rw [hscale, abs_div, abs_of_pos hpos, div_lt_iff₀ hpos]
    linarith
  simp only [nearestPositive, hround, ← hx]
  exact if_pos hgreatest

/-- A multiple of a power of two is one of every smaller power of two. -/
theorem exists_multiple_of_le {k l : Int} (h : l ≤ k) (j : Int) :
    ∃ i : Int, (j : Rat) * 2 ^ k = i * 2 ^ l := by
  obtain ⟨n, hn⟩ := Int.eq_ofNat_of_zero_le (Int.sub_nonneg.2 h)
  obtain rfl : k = n + l := by omega
  refine ⟨j * 2 ^ n, ?_⟩
  rw [zpow_add₀ (by norm_num), zpow_natCast, Int.cast_mul, Int.cast_pow, mul_assoc]
  rfl

/-- A multiple of a power of two rounds to itself, when it is not too great a multiple and the
power is not below the least. -/
theorem nearestPositive_mul {j k : Int} (hj : 0 < j) (hj' : j ≤ 2 ^ 53) (hk : -1074 ≤ k)
    (hgreatest : (j : Rat) * 2 ^ k < 2 ^ 1024) :
    nearestPositive (j * 2 ^ k) = some ((j : Rat) * 2 ^ k) := by
  have htwo : (0 : Rat) < (2 : Rat) ^ k := zpow_pos (by norm_num) k
  have hpos : 0 < (j : Rat) * 2 ^ k := mul_pos (by exact_mod_cast hj) htwo
  obtain ⟨i, hi⟩ : ∃ i : Int, (j : Rat) * 2 ^ k = i * spacing (j * 2 ^ k) := by
    rw [spacing_eq hpos]
    by_cases hfull : j = 2 ^ 53
    · -- the full multiple is a power of two, with a spacing of its own
      have hdouble : (j : Rat) * 2 ^ k = (2 ^ 52 : Int) * 2 ^ (k + 1) := by
        rw [hfull, zpow_add₀ (by norm_num)]
        push_cast
        ring
      have hlog : Int.log 2 ((j : Rat) * 2 ^ k) = 53 + k := by
        have hpower : (j : Rat) * 2 ^ k = ((2 : Nat) : Rat) ^ (53 + k) := by
          rw [hfull, Nat.cast_ofNat, zpow_add₀ (by norm_num)]
          norm_num
        rw [hpower, Int.log_zpow (by decide)]
      have hle : spacingExponent (j * 2 ^ k) ≤ k + 1 := by
        rw [spacingExponent, hlog]
        omega
      rw [hdouble] at hle ⊢
      exact exists_multiple_of_le hle _
    · have hlog : Int.log 2 ((j : Rat) * 2 ^ k) < 53 + k := by
        refine (Int.lt_zpow_iff_log_lt (by decide) hpos).1 ?_
        rw [Nat.cast_ofNat, zpow_add₀ (by norm_num)]
        refine mul_lt_mul_of_pos_right ?_ htwo
        exact_mod_cast lt_of_le_of_ne hj' hfull
      have hle : spacingExponent (j * 2 ^ k) ≤ k := by
        rw [spacingExponent]
        omega
      exact exists_multiple_of_le hle j
  refine nearestPositive_of_multiple hpos hi ?_ hgreatest
  rw [sub_self, abs_zero]
  exact half_pos (spacing_pos hpos)

/-! ### Numbers -/

/-- A number rounds to itself. -/
def IsNumber (x : Rat) : Prop :=
  nearest x = some x

theorem nearest_of_pos (hx : 0 < x) : nearest x = nearestPositive x := by
  rw [nearest, if_neg hx.ne', if_neg hx.le.not_gt]

/-- Rounding is the same on both sides of zero. -/
theorem nearest_neg (x : Rat) : nearest (-x) = (nearest x).map (- ·) := by
  rcases lt_trichotomy x 0 with hneg | rfl | hpos
  · rw [nearest_of_pos (neg_pos.2 hneg), nearest, if_neg hneg.ne, if_pos hneg, Option.map_map]
    have hid : ((- ·) ∘ (- ·) : Rat → Rat) = id := funext neg_neg
    rw [hid, Option.map_id_fun, id_eq]
  · rfl
  · rw [nearest_of_pos hpos, nearest, if_neg (neg_ne_zero.2 hpos.ne'),
      if_pos (neg_lt_zero.2 hpos), neg_neg]

theorem isNumber_zero : IsNumber 0 :=
  if_pos rfl

theorem IsNumber.neg (h : IsNumber x) : IsNumber (-x) := by
  rw [IsNumber, nearest_neg, h]
  rfl

/-- What a positive number rounds to is zero or rounds to itself. -/
theorem isNumber_of_nearestPositive (hx : 0 < x) (h : nearestPositive x = some y) :
    IsNumber y := by
  have hspacing := spacing_pos hx
  have hnonneg : 0 ≤ roundHalfEven (x / spacing x) :=
    roundHalfEven_nonneg (div_nonneg hx.le hspacing.le)
  have hle : roundHalfEven (x / spacing x) ≤ 2 ^ 53 := by
    refine roundHalfEven_le ?_
    rw [div_le_iff₀ hspacing]
    exact_mod_cast (lt_spacing hx).le
  simp only [nearestPositive] at h
  split_ifs at h with hgreatest
  obtain rfl := Option.some_inj.1 h
  generalize roundHalfEven (x / spacing x) = j at hnonneg hle hgreatest ⊢
  rcases hnonneg.eq_or_lt with rfl | hpos
  · rw [Int.cast_zero, zero_mul]
    exact isNumber_zero
  · rw [IsNumber, nearest_of_pos (mul_pos (by exact_mod_cast hpos) hspacing)]
    rw [spacing_eq hx] at hgreatest ⊢
    exact nearestPositive_mul hpos hle (le_max_right _ _) hgreatest

/-- **Whatever is rounded is a number.** -/
theorem isNumber_round (x : Rat) : IsNumber (round x) := by
  rw [round]
  rcases hround : nearest x with - | y
  · exact isNumber_zero
  rcases lt_trichotomy x 0 with hneg | rfl | hpos
  · rw [← neg_neg x, nearest_neg, nearest_of_pos (neg_pos.2 hneg), Option.map_eq_some_iff]
      at hround
    obtain ⟨z, hz, rfl⟩ := hround
    exact (isNumber_of_nearestPositive (neg_pos.2 hneg) hz).neg
  · obtain rfl := Option.some_inj.1 (isNumber_zero.symm.trans hround)
    exact isNumber_zero
  · rw [nearest_of_pos hpos] at hround
    exact isNumber_of_nearestPositive hpos hround

/-! ### What is close to a number -/

/-- A positive number is a multiple of its spacing, and not beyond the greatest. -/
theorem IsNumber.exists_multiple (h : IsNumber x) (hx : 0 < x) :
    ∃ j : Int, x = j * spacing x ∧ x < 2 ^ 1024 := by
  rw [IsNumber, nearest_of_pos hx] at h
  simp only [nearestPositive] at h
  split_ifs at h with hgreatest
  have heq := Option.some_inj.1 h
  rw [heq] at hgreatest
  exact ⟨_, heq.symm, hgreatest⟩

/-- A positive multiple of its spacing is not less than that. -/
theorem spacingExponent_le_log (hx : 0 < x) {j : Int} (hj : x = j * spacing x) :
    spacingExponent x ≤ Int.log 2 x := by
  have hu := spacing_pos hx
  have hpos : 0 < (j : Rat) := by
    rw [hj] at hx
    exact pos_of_mul_pos_left hx hu.le
  have hone : (1 : Rat) ≤ j := by
    have hint : 0 < j := by exact_mod_cast hpos
    exact_mod_cast hint
  have hle : (2 : Rat) ^ spacingExponent x ≤ x := by
    calc (2 : Rat) ^ spacingExponent x = 1 * spacing x := by rw [spacing_eq hx, one_mul]
      _ ≤ j * spacing x := mul_le_mul_of_nonneg_right hone hu.le
      _ = x := hj.symm
  exact (Int.zpow_le_iff_le_log (by decide) hx).1 (by exact_mod_cast hle)

/-- So the powers of two from that of the number on are multiples of the spacing, too. -/
theorem exists_zpow_eq_mul_spacing (hx : 0 < x) {j : Int} (hj : x = j * spacing x) {e : Int}
    (he : Int.log 2 x ≤ e) : ∃ i : Int, (2 : Rat) ^ e = i * spacing x := by
  obtain ⟨i, hi⟩ := exists_multiple_of_le ((spacingExponent_le_log hx hj).trans he) 1
  rw [Int.cast_one, one_mul] at hi
  rw [spacing_eq hx]
  exact ⟨i, hi⟩

/-- Different multiples of a spacing are at least a spacing apart. -/
theorem mul_add_le_mul {i j : Int} {u : Rat} (hu : 0 < u) (h : i * u < j * u) :
    i * u + u ≤ j * u := by
  have hcast : (i : Rat) < j := lt_of_mul_lt_mul_right h hu.le
  have hnext : ((i + 1 : Int) : Rat) ≤ j := by exact_mod_cast hcast
  calc (i : Rat) * u + u = (i + 1 : Int) * u := by
        push_cast
        ring
    _ ≤ j * u := mul_le_mul_of_nonneg_right hnext hu.le

/-- Close to a number and not below its power of two, the spacing is that of the number. -/
theorem spacing_eq_of_near (hx : 0 < x) {j : Int} (hj : x = j * spacing x)
    (hnear : |y - x| < spacing x / 2) (hpower : (2 : Rat) ^ Int.log 2 x ≤ y) :
    spacing y = spacing x := by
  have hu := spacing_pos hx
  have hy : 0 < y := (zpow_pos (by norm_num) _).trans_le hpower
  -- the next power of two is a multiple of the spacing, so it is a whole spacing away
  obtain ⟨i, hi⟩ := exists_zpow_eq_mul_spacing hx hj (le_add_of_nonneg_right zero_le_one)
  have hnext : x + spacing x ≤ (2 : Rat) ^ (Int.log 2 x + 1) := by
    have hlt := lt_two_zpow_log x
    rw [hi] at hlt ⊢
    calc x + spacing x = j * spacing x + spacing x := by rw [← hj]
      _ ≤ i * spacing x := mul_add_le_mul hu (by rwa [← hj])
  have hbelow : y < (2 : Rat) ^ (Int.log 2 x + 1) := by
    linarith [(abs_lt.1 hnear).2]
  rw [spacing_eq hy, spacing_eq hx, spacingExponent, log_eq hpower hbelow, spacingExponent]

/-- A number that something close to it lies below the power of two of is that power. -/
theorem eq_zpow_of_near (hx : 0 < x) {j : Int} (hj : x = j * spacing x)
    (hnear : |y - x| < spacing x / 2) (hpower : y < (2 : Rat) ^ Int.log 2 x) :
    x = (2 : Rat) ^ Int.log 2 x := by
  have hu := spacing_pos hx
  obtain ⟨i, hi⟩ := exists_zpow_eq_mul_spacing hx hj le_rfl
  refine le_antisymm (not_lt.1 fun hlt ↦ ?_) (two_zpow_log_le hx)
  -- otherwise the number lies a whole spacing above that power
  have hnext : (2 : Rat) ^ Int.log 2 x + spacing x ≤ x := by
    rw [hi] at hlt ⊢
    calc (i : Rat) * spacing x + spacing x ≤ j * spacing x := mul_add_le_mul hu (by rwa [← hj])
      _ = x := hj.symm
  linarith [(abs_lt.1 hnear).1]

/-- **A number attracts what is close to it.** -/
theorem IsNumber.nearest_of_near (h : IsNumber x) (hx : 0 < x) (hnear : |y - x| * 2 ^ 54 < x) :
    nearest y = some x := by
  obtain ⟨j, hj, hgreatest⟩ := h.exists_multiple hx
  have hclose : |y - x| < spacing x / 2 := by
    have hlt := lt_spacing hx
    linarith
  have hy : 0 < y := by
    have habs := neg_abs_le (y - x)
    linarith [abs_nonneg (y - x)]
  rw [nearest_of_pos hy]
  by_cases hpower : (2 : Rat) ^ Int.log 2 x ≤ y
  · have hspacing := spacing_eq_of_near hx hj hclose hpower
    rw [← hspacing] at hj hclose
    exact nearestPositive_of_multiple hy hj hclose hgreatest
  · rw [not_le] at hpower
    have hx' := eq_zpow_of_near hx hj hclose hpower
    have hleast : -1074 ≤ Int.log 2 x := (le_max_right _ _).trans (spacingExponent_le_log hx hj)
    -- the spacing below the power of two is that above it, or half of it
    have hdouble : (2 : Rat) ^ Int.log 2 x = 2 * 2 ^ (Int.log 2 x - 1) := by
      rw [← zpow_one_add₀ (by norm_num)]
      congr 1
      omega
    have hlog : Int.log 2 y = Int.log 2 x - 1 := by
      refine log_eq ?_ (by rwa [sub_add_cancel])
      have habs := neg_abs_le (y - x)
      linarith [abs_nonneg (y - x)]
    obtain ⟨i, hi⟩ : ∃ i : Int, x = i * spacing y := by
      have hle : spacingExponent y ≤ Int.log 2 x := by
        rw [spacingExponent, hlog]
        omega
      obtain ⟨i, hi⟩ := exists_multiple_of_le hle 1
      rw [Int.cast_one, one_mul, ← hx'] at hi
      rw [spacing_eq hy]
      exact ⟨i, hi⟩
    refine nearestPositive_of_multiple hy hi ?_ hgreatest
    have hspacing := zpow_log_le_spacing hy
    rw [hlog, sub_add_cancel, ← hx'] at hspacing
    linarith

end StaticServer.Binary64
