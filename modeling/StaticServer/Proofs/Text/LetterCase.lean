import StaticServer.Text.LetterCase

/-!
# Small letters and their capitals

Names are looked up in two ways: one reader takes the lower-case form of a text (`lower`), another
one its capitals (`capitalAscii`). The two see the same name when the lower-case form consists of
small ASCII letters other than `k`: then the text has these letters in some letter case and nothing
else, and its capitals are theirs (`flatMap_capitalAscii_of_lower`). The letter `k` has to be left
out because the Kelvin sign is written with it in lower case and is a capital of its own.
-/

namespace StaticServer.Text

variable {c d : Char} {t name : Text}

/-- A small letter of ASCII with a capital of ASCII and no other. -/
def isSmall (c : Char) : Bool :=
  c.isLower && c ≠ 'k'

/-- The small letters are those from `a` to `z` without `k`. -/
theorem toNat_of_isSmall (h : isSmall c = true) : 97 ≤ c.toNat ∧ c.toNat ≤ 122 ∧ c ≠ 'k' := by
  have hbounds : ((decide (97 ≤ c.val) && decide (c.val ≤ 122)) && decide (c ≠ 'k')) = true := h
  rw [Bool.and_eq_true, Bool.and_eq_true, decide_eq_true_eq, decide_eq_true_eq,
    decide_eq_true_eq] at hbounds
  exact ⟨UInt32.le_iff_toNat_le.1 hbounds.1.1, UInt32.le_iff_toNat_le.1 hbounds.1.2, hbounds.2⟩

/-- **The runs of capitals** whose lower-case forms are in ASCII are the ASCII letters and the
Kelvin sign. -/
theorem runs_of_mem {first count step : Nat} {shift : Int}
    (h : (first, count, step, shift) ∈ capitalRuns) :
    (first = 65 ∧ count = 26 ∧ step = 1 ∧ shift = 32) ∨
      (first = 0x212A ∧ count = 1 ∧ shift = -8383) ∨ 128 ≤ first + shift := by
  have hall : ∀ run ∈ capitalRuns,
      (run.1 = 65 ∧ run.2.1 = 26 ∧ run.2.2.1 = 1 ∧ run.2.2.2 = 32) ∨
        (run.1 = 0x212A ∧ run.2.1 = 1 ∧ run.2.2.2 = -8383) ∨ 128 ≤ run.1 + run.2.2.2 := by
    decide +kernel
  exact hall _ h

/-- What a character is shifted by for its lower-case form. -/
theorem lowerShift_cases (c : Char) :
    lowerShift c = 0 ∨ (65 ≤ c.toNat ∧ c.toNat ≤ 90 ∧ lowerShift c = 32) ∨
      (c.toNat = 0x212A ∧ lowerShift c = -8383) ∨ 128 ≤ c.toNat + lowerShift c := by
  rw [lowerShift]
  split
  · next first count step shift hfind =>
    have hrun := List.find?_some hfind
    simp only [Bool.and_eq_true, decide_eq_true_eq] at hrun
    obtain ⟨⟨hfirst, hlast⟩, -⟩ := hrun
    rcases runs_of_mem (List.mem_of_find?_eq_some hfind) with
      ⟨rfl, rfl, rfl, rfl⟩ | ⟨rfl, rfl, rfl⟩ | hbeyond
    · exact .inr (.inl ⟨hfirst, hlast, rfl⟩)
    · exact .inr (.inr (.inl ⟨by omega, rfl⟩))
    · exact .inr (.inr (.inr (by omega)))
  · exact .inl rfl

/-- A number gives the character with this number, or else NUL. -/
theorem toNat_ofNat_cases (n : Nat) : (Char.ofNat n).toNat = n ∨ (Char.ofNat n).toNat = 0 := by
  by_cases h : n.isValidChar
  · exact .inl (by rw [Char.ofNat, dif_pos h]; rfl)
  · exact .inr (by rw [Char.ofNat, dif_neg h]; rfl)

/-- The capitals of the small letters. -/
theorem ofNat_toUpper {i : Nat} (h : i < 26) :
    (Char.ofNat (97 + i)).toUpper = Char.ofNat (65 + i) ∧
      capitalAscii (Char.ofNat (97 + i)) = [Char.ofNat (65 + i)] ∧
      capitalAscii (Char.ofNat (65 + i)) = [Char.ofNat (65 + i)] := by
  have hall : ∀ i < 26, (Char.ofNat (97 + i)).toUpper = Char.ofNat (65 + i) ∧
      capitalAscii (Char.ofNat (97 + i)) = [Char.ofNat (65 + i)] ∧
      capitalAscii (Char.ofNat (65 + i)) = [Char.ofNat (65 + i)] := by
    decide
  exact hall i h

/-- **A character whose lower-case form is a small letter** is that letter or its capital, and has
that capital for its capitals. -/
theorem capitalAscii_of_lowerChar (h : lowerChar c = [d]) (hd : isSmall d = true) :
    capitalAscii c = [d.toUpper] := by
  obtain ⟨hlow, hhigh, hk⟩ := toNat_of_isSmall hd
  obtain ⟨i, hi⟩ := Nat.exists_eq_add_of_le hlow
  have hletter : Char.ofNat (97 + i) = d := by rw [← hi, Char.ofNat_toNat]
  obtain ⟨hupper, hsmall, hcapital⟩ := ofNat_toUpper (i := i) (by omega)
  rw [hletter] at hupper hsmall
  have hvalue : (c.toNat + lowerShift c).toNat = d.toNat := by
    rw [lowerChar] at h
    split at h
    · cases h
    · have heq := List.head_eq_of_cons_eq h
      rcases toNat_ofNat_cases (c.toNat + lowerShift c).toNat with hvalue | hzero
      · rw [← hvalue, heq]
      · rw [heq] at hzero
        omega
  rcases lowerShift_cases c with hsame | ⟨hfirst, -, hshift⟩ | ⟨hkelvin, hshift⟩ | hbeyond
  · have hcd : c = d := Char.toNat_inj.1 (by omega)
    rw [hcd, hsmall, hupper]
  · have hc : c = Char.ofNat (65 + i) := by
      rw [← Char.ofNat_toNat c]
      congr 1
      omega
    rw [hc, hcapital, hupper]
  · -- the Kelvin sign is written with the letter that is left out
    exact absurd (Char.toNat_inj.1 (show d.toNat = 'k'.toNat by show _ = 107; omega)) hk
  · omega

/-- The lower-case form of a character is one letter if it consists of small letters. -/
theorem exists_lowerChar_of_isSmall {b : Bool}
    (h : ∀ x ∈ if b then ['\u03C2'] else lowerChar c, isSmall x = true) :
    ∃ d, isSmall d = true ∧ lowerChar c = [d] ∧ (if b then ['\u03C2'] else lowerChar c) = [d] := by
  rcases b with - | -
  · rw [if_neg Bool.false_ne_true] at h ⊢
    rw [lowerChar] at h ⊢
    split at h
    · exact absurd (h '\u0307' (by decide)) (by decide)
    · next hdot => exact ⟨_, h _ List.mem_cons_self, if_neg hdot, if_neg hdot⟩
  · exact absurd (h '\u03C2' List.mem_cons_self) (by decide)

/-- **The capitals of a text are those of its lower-case form** when that consists of small
letters. -/
theorem flatMap_capitalAscii_of_lowerFrom {afterCased : Bool} (h : lowerFrom afterCased t = name)
    (hname : ∀ c ∈ name, isSmall c = true) : t.flatMap capitalAscii = asciiUpper name := by
  induction t generalizing afterCased name with
  | nil =>
    obtain rfl : name = [] := h.symm
    rfl
  | cons c t ih =>
    rw [lowerFrom] at h
    subst h
    rw [List.forall_mem_append] at hname
    obtain ⟨hfirst, hrest⟩ := hname
    obtain ⟨d, hd, hlower, hsmall⟩ := exists_lowerChar_of_isSmall hfirst
    rw [List.flatMap_cons, capitalAscii_of_lowerChar hlower hd, ih rfl hrest, hsmall]
    rfl

/-- **Both readers see the same name**: a text that is a name of small letters in lower case has the
name's capitals. -/
theorem flatMap_capitalAscii_of_lower (h : lower t = name) (hname : ∀ c ∈ name, isSmall c = true) :
    t.flatMap capitalAscii = asciiUpper name :=
  flatMap_capitalAscii_of_lowerFrom h hname

/-! ### Texts of ASCII -/

/-- In ASCII only the letters from A to Z are shifted. -/
theorem lowerShift_of_isAscii (h : c.toNat < 128) :
    lowerShift c = if 65 ≤ c.toNat ∧ c.toNat ≤ 90 then 32 else 0 := by
  have hbeyond : ∀ run ∈ capitalRuns.tail, 128 ≤ run.1 := by decide +kernel
  have htail (p : Nat × Nat × Nat × Int → Bool) (hp : ∀ run, p run = true → run.1 ≤ c.toNat) :
      capitalRuns.tail.find? p = none := by
    refine List.find?_eq_none.2 fun run hrun hin ↦ ?_
    have hfirst := hbeyond run hrun
    have hbelow := hp run hin
    omega
  have hruns : capitalRuns = (0x41, 26, 1, 32) :: capitalRuns.tail := rfl
  rw [lowerShift, hruns, List.find?_cons, htail _ fun run hin ↦ ?_]
  rotate_left
  · simp only [Bool.and_eq_true, decide_eq_true_eq] at hin
    exact hin.1.1
  by_cases hc : 65 ≤ c.toNat ∧ c.toNat ≤ 90
  · simp [hc, Nat.mod_one]
  · have hnot : (decide (65 ≤ c.toNat) && decide (c.toNat ≤ 65 + (26 - 1) * 1)) = false := by
      rw [Bool.and_eq_false_iff, decide_eq_false_iff_not, decide_eq_false_iff_not]
      omega
    simp only [hnot, Bool.false_and, if_neg hc]

/-- In ASCII only the capitals have another lower-case form. -/
theorem toLower_of_isAscii (h : c.toNat < 128) :
    c.toLower = Char.ofNat (if 65 ≤ c.toNat ∧ c.toNat ≤ 90 then c.toNat + 32 else c.toNat) := by
  have hall : ∀ i < 128, (Char.ofNat i).toLower =
      Char.ofNat (if 65 ≤ i ∧ i ≤ 90 then i + 32 else i) := by decide
  have hc := hall c.toNat h
  rwa [Char.ofNat_toNat] at hc

theorem lowerChar_of_isAscii (h : c.toNat < 128) : lowerChar c = [c.toLower] := by
  have hdot : c ≠ '\u0130' := by
    rintro rfl
    exact absurd h (by decide)
  rw [lowerChar, if_neg hdot, lowerShift_of_isAscii h, toLower_of_isAscii h]
  split <;> rfl

/-- So a text of ASCII has its lower-case form letter by letter. -/
theorem lowerFrom_of_isAscii {afterCased : Bool} (h : ∀ c ∈ t, c.toNat < 128) :
    lowerFrom afterCased t = asciiLower t := by
  induction t generalizing afterCased with
  | nil => rfl
  | cons c t ih =>
    rw [List.forall_mem_cons] at h
    have hsigma : c ≠ '\u03A3' := by
      rintro rfl
      exact absurd h.1 (by decide)
    rw [lowerFrom, ih h.2, lowerChar_of_isAscii h.1]
    simp [hsigma, asciiLower]

/-- In ASCII only the 26 letters have a lower-case form of their own. -/
theorem lower_of_isAscii (h : ∀ c ∈ t, c.toNat < 128) : lower t = asciiLower t :=
  lowerFrom_of_isAscii h

end StaticServer.Text
