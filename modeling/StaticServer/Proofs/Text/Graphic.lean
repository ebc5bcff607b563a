import StaticServer.Text.Integer
import StaticServer.Text.Utf8

/-!
# Graphic texts

What is written into headers are blanks and the characters of ASCII that can be seen. Such a text
holds no line break (`not_mem_of_isGraphic`), and it is the same in bytes as in characters
(`encode_of_isGraphic`): it is as long (`size_of_isGraphic`), and no byte of it is a control
character (`le_of_mem_encode`). Numbers are written in such texts.
-/

namespace StaticServer.Text

/-- Is a character a blank or one of ASCII that can be seen? -/
def isGraphicChar (c : Char) : Bool :=
  0x20 ≤ c.toNat && c.toNat ≤ 0x7E

/-- Does a text hold blanks and characters of ASCII that can be seen, and nothing else? -/
def isGraphic (t : Text) : Bool :=
  t.all isGraphicChar

variable {c : Char} {t u : Text}

/-- The graphic characters are those of ASCII from the space on, without DEL. -/
theorem isGraphicChar_iff : isGraphicChar c = true ↔ 0x20 ≤ c.toNat ∧ c.toNat ≤ 0x7E := by
  rw [isGraphicChar, Bool.and_eq_true, decide_eq_true_eq, decide_eq_true_eq]

@[simp] theorem isGraphic_nil : isGraphic [] = true :=
  rfl

@[simp] theorem isGraphic_cons : isGraphic (c :: t) = (isGraphicChar c && isGraphic t) :=
  List.all_cons

@[simp] theorem isGraphic_append : isGraphic (t ++ u) = (isGraphic t && isGraphic u) :=
  List.all_append

theorem isGraphicChar_of_mem (h : isGraphic t = true) (hc : c ∈ t) : isGraphicChar c = true :=
  List.all_eq_true.1 h c hc

/-- **A graphic text holds no line break.** -/
theorem not_mem_of_isGraphic (h : isGraphic t = true) : '\r' ∉ t ∧ '\n' ∉ t :=
  ⟨fun hmem ↦ absurd (isGraphicChar_of_mem h hmem) (by decide),
    fun hmem ↦ absurd (isGraphicChar_of_mem h hmem) (by decide)⟩

/-! ### Letters, digits and numbers -/

theorem isGraphicChar_of_isAlphanum (h : c.isAlphanum = true) : isGraphicChar c = true := by
  have hbetween (low high : Char) (hlow : low.val ≤ c.val) (hhigh : c.val ≤ high.val)
      (h : 0x20 ≤ low.toNat ∧ high.toNat ≤ 0x7E) : isGraphicChar c = true :=
    isGraphicChar_iff.2 ⟨Nat.le_trans h.1 (UInt32.le_iff_toNat_le.1 hlow),
      Nat.le_trans (UInt32.le_iff_toNat_le.1 hhigh) h.2⟩
  rcases Bool.or_eq_true_iff.1 h with halpha | hdigit
  · rcases Bool.or_eq_true_iff.1 halpha with hupper | hlower
    · obtain ⟨hlow, hhigh⟩ := of_decide_eq_true hupper
      exact hbetween 'A' 'Z' hlow hhigh (by decide)
    · obtain ⟨hlow, hhigh⟩ := Bool.and_eq_true_iff.1 hlower
      exact hbetween 'a' 'z' (of_decide_eq_true hlow) (of_decide_eq_true hhigh) (by decide)
  · obtain ⟨hlow, hhigh⟩ := Bool.and_eq_true_iff.1 hdigit
    exact hbetween '0' '9' (of_decide_eq_true hlow) (of_decide_eq_true hhigh) (by decide)

theorem isGraphic_ofNat (n : Nat) : isGraphic (ofNat n) = true := by
  refine List.all_eq_true.2 fun c hc ↦ isGraphicChar_of_isAlphanum ?_
  have hdigit := Nat.isDigit_of_mem_toDigits (by decide) (by decide) hc
  rw [Char.isAlphanum, hdigit, Bool.or_true]

theorem isGraphic_ofInt (n : Int) : isGraphic (ofInt n) = true := by
  cases n with
  | ofNat n => exact isGraphic_ofNat n
  | negSucc n =>
    rw [ofInt, isGraphic_cons, isGraphic_ofNat]
    rfl

/-! ### Graphic texts in bytes -/

theorem Utf8.encode_append (t u : Text) : encode (t ++ u) = encode t ++ encode u :=
  List.flatMap_append

theorem Utf8.size_append (t u : Text) : size (t ++ u) = size t + size u := by
  rw [size, encode_append, List.length_append, size, size]

/-- A graphic character is one byte. -/
theorem encodeChar_of_isGraphicChar (h : isGraphicChar c = true) :
    String.utf8EncodeChar c = [UInt8.ofNat c.toNat] := by
  have hle : c.toNat ≤ 0x7F := Nat.le_succ_of_le (isGraphicChar_iff.1 h).2
  simp only [String.utf8EncodeChar]
  exact if_pos hle

/-- **Each character of a graphic text is one byte.** -/
theorem encode_of_isGraphic (h : isGraphic t = true) :
    Utf8.encode t = t.map fun c ↦ UInt8.ofNat c.toNat := by
  induction t with
  | nil => rfl
  | cons c t ih =>
    rw [isGraphic_cons, Bool.and_eq_true] at h
    rw [Utf8.encode, List.flatMap_cons, encodeChar_of_isGraphicChar h.1, ← Utf8.encode, ih h.2]
    rfl

/-- So a graphic text has as many bytes as characters. -/
theorem size_of_isGraphic (h : isGraphic t = true) : Utf8.size t = t.length := by
  rw [Utf8.size, encode_of_isGraphic h, List.length_map]

/-- A byte of a graphic text is that of one of its characters. -/
theorem exists_of_mem_encode {b : UInt8} (h : isGraphic t = true) (hb : b ∈ Utf8.encode t) :
    ∃ c ∈ t, b = UInt8.ofNat c.toNat ∧ b.toNat = c.toNat := by
  rw [encode_of_isGraphic h, List.mem_map] at hb
  obtain ⟨c, hc, rfl⟩ := hb
  have hle := (isGraphicChar_iff.1 (isGraphicChar_of_mem h hc)).2
  refine ⟨c, hc, rfl, ?_⟩
  rw [UInt8.toNat_ofNat', Nat.mod_eq_of_lt (by omega)]

/-- No byte of a graphic text is a control character. -/
theorem le_of_mem_encode {b : UInt8} (h : isGraphic t = true) (hb : b ∈ Utf8.encode t) :
    0x20 ≤ b.toNat := by
  obtain ⟨c, hc, -, hvalue⟩ := exists_of_mem_encode h hb
  rw [hvalue]
  exact (isGraphicChar_iff.1 (isGraphicChar_of_mem h hc)).1

end StaticServer.Text
