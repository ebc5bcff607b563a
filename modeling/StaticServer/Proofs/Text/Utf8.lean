import StaticServer.Text.Utf8

/-!
# UTF-8 read back

Decoding the bytes of a text gives the text (`decode_encode`). The statement for one character
carries the bytes that follow (`itemsFrom_encodeChar`), and it is proved by the number of bytes that
the character takes: what its first byte begins is computed by `start`, one lemma for each length,
and each later byte goes on with that by `itemsFrom_last` or `itemsFrom_more`.

Bytes that are no text can still be compared with their reading: one byte more gives at most one
character more (`length_decode_cons_le`), and a character starts afresh whatever stands before it
(`decode_append_encodeChar`). Bytes whose items are all characters have no defect
(`defectFrom?_eq_none`), so those of a text have none.
-/

namespace StaticServer.Text.Utf8

/-! ### Bytes as numbers -/

variable {k : Nat}

theorem toNat_byte (h : k < 256) : (UInt8.ofNat k).toNat = k :=
  (UInt8.toNat_ofNat' ..).trans (Nat.mod_eq_of_lt h)

theorem byte_lt_iff (h : k < 256) (b : UInt8) : UInt8.ofNat k < b ↔ k < b.toNat := by
  rw [UInt8.lt_iff_toNat_lt, toNat_byte h]

theorem not_byte_lt (h : k < 256) {b : UInt8} (hle : b.toNat ≤ k) : ¬ UInt8.ofNat k < b := by
  rw [byte_lt_iff h]
  omega

theorem byte_le_iff (h : k < 256) (b : UInt8) : UInt8.ofNat k ≤ b ↔ k ≤ b.toNat := by
  rw [UInt8.le_iff_toNat_le, toNat_byte h]

theorem le_byte_iff (h : k < 256) (b : UInt8) : b ≤ UInt8.ofNat k ↔ b.toNat ≤ k := by
  rw [UInt8.le_iff_toNat_le, toNat_byte h]

theorem byte_eq_iff (h : k < 256) (b : UInt8) : UInt8.ofNat k = b ↔ k = b.toNat := by
  rw [← UInt8.toNat_inj, toNat_byte h]

/-! ### What a first byte begins -/

/-- The first byte says how many there are: of one, -/
theorem start_one (h : k < 0x80) : start (UInt8.ofNat k) = .char (Char.ofNat k) := by
  have hk : k < 256 := by omega
  have hlt : UInt8.ofNat k < 0x80 := (byte_lt_iff hk _).2 h
  rw [start, if_pos hlt, toNat_byte hk]

/-- of two, -/
theorem start_two (hlow : 0xC2 ≤ k) (hhigh : k < 0xE0) :
    start (UInt8.ofNat k) = .sequence ⟨0, 0x80, 0xBF, k - 0xC0⟩ := by
  have hk : k < 256 := by omega
  have h₁ : ¬ UInt8.ofNat k < 0x80 := not_byte_lt hk (show 0x80 ≤ k by omega)
  have h₂ : ¬ UInt8.ofNat k < 0xC2 := not_byte_lt hk (show 0xC2 ≤ k by omega)
  have h₃ : UInt8.ofNat k < 0xE0 := (byte_lt_iff hk _).2 hhigh
  rw [start, if_neg h₁, if_neg h₂, if_pos h₃, toNat_byte hk]

/-- of three, where the next byte is confined at both ends of the range, -/
theorem start_three (hlow : 0xE0 ≤ k) (hhigh : k < 0xF0) :
    start (UInt8.ofNat k) = .sequence ⟨1, if k = 0xE0 then 0xA0 else 0x80,
      if k = 0xED then 0x9F else 0xBF, k - 0xE0⟩ := by
  have hk : k < 256 := by omega
  have h₁ : ¬ UInt8.ofNat k < 0x80 := not_byte_lt hk (show 0x80 ≤ k by omega)
  have h₂ : ¬ UInt8.ofNat k < 0xC2 := not_byte_lt hk (show 0xC2 ≤ k by omega)
  have h₃ : ¬ UInt8.ofNat k < 0xE0 := not_byte_lt hk (show 0xE0 ≤ k by omega)
  have h₄ : UInt8.ofNat k < 0xF0 := (byte_lt_iff hk _).2 hhigh
  have hfirst : UInt8.ofNat k = 0xE0 ↔ k = 0xE0 := byte_eq_iff hk _
  have hlast : UInt8.ofNat k = 0xED ↔ k = 0xED := byte_eq_iff hk _
  rw [start, if_neg h₁, if_neg h₂, if_neg h₃, if_pos h₄, toNat_byte hk]
  simp only [hfirst, hlast]

/-- and of four. -/
theorem start_four (hlow : 0xF0 ≤ k) (hhigh : k < 0xF5) :
    start (UInt8.ofNat k) = .sequence ⟨2, if k = 0xF0 then 0x90 else 0x80,
      if k = 0xF4 then 0x8F else 0xBF, k - 0xF0⟩ := by
  have hk : k < 256 := by omega
  have h₁ : ¬ UInt8.ofNat k < 0x80 := not_byte_lt hk (show 0x80 ≤ k by omega)
  have h₂ : ¬ UInt8.ofNat k < 0xC2 := not_byte_lt hk (show 0xC2 ≤ k by omega)
  have h₃ : ¬ UInt8.ofNat k < 0xE0 := not_byte_lt hk (show 0xE0 ≤ k by omega)
  have h₄ : ¬ UInt8.ofNat k < 0xF0 := not_byte_lt hk (show 0xF0 ≤ k by omega)
  have h₅ : UInt8.ofNat k < 0xF5 := (byte_lt_iff hk _).2 hhigh
  have hfirst : UInt8.ofNat k = 0xF0 ↔ k = 0xF0 := byte_eq_iff hk _
  have hlast : UInt8.ofNat k = 0xF4 ↔ k = 0xF4 := byte_eq_iff hk _
  rw [start, if_neg h₁, if_neg h₂, if_neg h₃, if_neg h₄, if_pos h₅, toNat_byte hk]
  simp only [hfirst, hlast]

/-! ### Going on with what has begun -/

variable {p : Pending} {rest : Bytes}

/-- A byte with six more bits is in the range of a continuation when its bits are. -/
theorem isContinuation (hk : k < 64) (hlow : p.low.toNat ≤ k + 0x80)
    (hhigh : k + 0x80 ≤ p.high.toNat) :
    p.low ≤ UInt8.ofNat (k + 0x80) ∧ UInt8.ofNat (k + 0x80) ≤ p.high := by
  have hbyte : k + 0x80 < 256 := by omega
  exact ⟨(le_byte_iff hbyte _).2 hlow, (byte_le_iff hbyte _).2 hhigh⟩

/-- The last byte of a sequence completes a character. -/
theorem itemsFrom_last (hk : k < 64) (hmore : p.more = 0) (hlow : p.low.toNat ≤ k + 0x80)
    (hhigh : k + 0x80 ≤ p.high.toNat) :
    itemsFrom (some p) (UInt8.ofNat (k + 0x80) :: rest) =
      some (Char.ofNat (64 * p.bits + k)) :: itemsFrom none rest := by
  have hbits : (UInt8.ofNat (k + 0x80)).toNat - 0x80 = k := by
    rw [toNat_byte (by omega)]
    omega
  rw [itemsFrom, if_pos (isContinuation hk hlow hhigh), hmore, hbits]

/-- Each byte before the last adds six bits. -/
theorem itemsFrom_more {more : Nat} (hk : k < 64) (hmore : p.more = more + 1)
    (hlow : p.low.toNat ≤ k + 0x80) (hhigh : k + 0x80 ≤ p.high.toNat) :
    itemsFrom (some p) (UInt8.ofNat (k + 0x80) :: rest) =
      itemsFrom (some ⟨more, 0x80, 0xBF, 64 * p.bits + k⟩) rest := by
  have hbits : (UInt8.ofNat (k + 0x80)).toNat - 0x80 = k := by
    rw [toNat_byte (by omega)]
    omega
  rw [itemsFrom, if_pos (isContinuation hk hlow hhigh), hmore, hbits]

/-! ### One character -/

theorem itemsFrom_char {b : UInt8} {c : Char} (h : start b = .char c) :
    itemsFrom none (b :: rest) = some c :: itemsFrom none rest := by
  rw [itemsFrom, h]

theorem itemsFrom_sequence {b : UInt8} (h : start b = .sequence p) :
    itemsFrom none (b :: rest) = itemsFrom (some p) rest := by
  rw [itemsFrom, h]

variable {v : Nat}

theorem low_toNat : (0x80 : UInt8).toNat = 0x80 :=
  rfl

theorem high_toNat : (0xBF : UInt8).toNat = 0xBF :=
  rfl

/-- A character of two bytes. -/
theorem itemsFrom_two (hlow : 0x7F < v) (hhigh : v ≤ 0x7FF) :
    itemsFrom none (UInt8.ofNat (v / 64 % 0x20 + 0xC0) :: UInt8.ofNat (v % 0x40 + 0x80) :: rest) =
      some (Char.ofNat v) :: itemsFrom none rest := by
  have hbits : 64 * (v / 64 % 0x20 + 0xC0 - 0xC0) + v % 0x40 = v := by omega
  rw [itemsFrom_sequence (start_two (by omega) (by omega)),
    itemsFrom_last (by omega) rfl (by rw [low_toNat]; omega) (by rw [high_toNat]; omega), hbits]

/-- A character of three bytes. The second one is in a range that leaves out what fits into two
bytes, and the surrogates. -/
theorem itemsFrom_three (hlow : 0x7FF < v) (hhigh : v ≤ 0xFFFF)
    (hvalid : v < 0xD800 ∨ 0xDFFF < v) :
    itemsFrom none (UInt8.ofNat (v / 4096 % 0x10 + 0xE0) :: UInt8.ofNat (v / 64 % 0x40 + 0x80) ::
      UInt8.ofNat (v % 0x40 + 0x80) :: rest) = some (Char.ofNat v) :: itemsFrom none rest := by
  have hbits : 64 * (64 * (v / 4096 % 0x10 + 0xE0 - 0xE0) + v / 64 % 0x40) + v % 0x40 = v := by
    omega
  rw [itemsFrom_sequence (start_three (by omega) (by omega)), itemsFrom_more (by omega) rfl ?_ ?_,
    itemsFrom_last (by omega) rfl (by rw [low_toNat]; omega) (by rw [high_toNat]; omega), hbits]
  · show (if _ then _ else _ : UInt8).toNat ≤ _
    split
    · show 0xA0 ≤ _
      omega
    · show 0x80 ≤ _
      omega
  · show _ ≤ (if _ then _ else _ : UInt8).toNat
    split
    · show _ ≤ 0x9F
      omega
    · show _ ≤ 0xBF
      omega

/-- A character of four bytes. The second one is in a range that leaves out what fits into three
bytes, and what is above the last character. -/
theorem itemsFrom_four (hlow : 0xFFFF < v) (hhigh : v < 0x110000) :
    itemsFrom none (UInt8.ofNat (v / 262144 % 0x08 + 0xF0) ::
      UInt8.ofNat (v / 4096 % 0x40 + 0x80) :: UInt8.ofNat (v / 64 % 0x40 + 0x80) ::
      UInt8.ofNat (v % 0x40 + 0x80) :: rest) = some (Char.ofNat v) :: itemsFrom none rest := by
  have hbits : 64 * (64 * (64 * (v / 262144 % 0x08 + 0xF0 - 0xF0) + v / 4096 % 0x40) +
      v / 64 % 0x40) + v % 0x40 = v := by
    omega
  rw [itemsFrom_sequence (start_four (by omega) (by omega)), itemsFrom_more (by omega) rfl ?_ ?_,
    itemsFrom_more (by omega) rfl (by rw [low_toNat]; omega) (by rw [high_toNat]; omega),
    itemsFrom_last (by omega) rfl (by rw [low_toNat]; omega) (by rw [high_toNat]; omega), hbits]
  · show (if _ then _ else _ : UInt8).toNat ≤ _
    split
    · show 0x90 ≤ _
      omega
    · show 0x80 ≤ _
      omega
  · show _ ≤ (if _ then _ else _ : UInt8).toNat
    split
    · show _ ≤ 0x8F
      omega
    · show _ ≤ 0xBF
      omega

/-- **The bytes of one character are read back**, whatever comes behind them. -/
theorem itemsFrom_encodeChar (c : Char) (rest : Bytes) :
    itemsFrom none (String.utf8EncodeChar c ++ rest) = some c :: itemsFrom none rest := by
  -- no character is a surrogate or above the last one
  have hvalid : c.val.toNat < 0xD800 ∨ 0xDFFF < c.val.toNat ∧ c.val.toNat < 0x110000 := c.valid
  rw [← congrArg (some · :: itemsFrom none rest) (Char.ofNat_toNat c)]
  fun_cases String.utf8EncodeChar with
  | case1 v h => exact itemsFrom_char (start_one (Nat.lt_succ_of_le h))
  | case2 v hone h => exact itemsFrom_two (Nat.not_le.1 hone) h
  | case3 v hone htwo h =>
    exact itemsFrom_three (Nat.not_le.1 htwo) h (by omega)
  | case4 v hone htwo hthree =>
    exact itemsFrom_four (Nat.not_le.1 hthree) (by omega)

/-! ### A text -/

/-- **What is encoded is decoded to itself**, in front of anything. -/
theorem itemsFrom_encode (t : Text) (rest : Bytes) :
    itemsFrom none (encode t ++ rest) = t.map some ++ itemsFrom none rest := by
  induction t with
  | nil => rfl
  | cons c t ih =>
    rw [encode, List.flatMap_cons, ← encode, List.append_assoc, itemsFrom_encodeChar, ih]
    rfl

/-- **The bytes of a text are read back.** -/
theorem decode_encode (t : Text) : decode (encode t) = t := by
  have hitems := itemsFrom_encode t []
  rw [List.append_nil, itemsFrom, List.append_nil] at hitems
  rw [decode, hitems, List.map_map]
  exact List.map_id t

/-- So no two texts have the same bytes. -/
theorem encode_injective : Function.Injective encode := fun t u h ↦ by
  rw [← decode_encode t, h, decode_encode]

/-! ### How many characters some bytes give -/

/-- The next byte of a sequence that has begun is in the range of continuations. -/
def Pending.IsOpen (p : Pending) : Prop :=
  0x80 ≤ p.low ∧ p.high ≤ 0xBF

theorem isOpen_next (more bits : Nat) : Pending.IsOpen ⟨more, 0x80, 0xBF, bits⟩ :=
  ⟨UInt8.le_refl _, UInt8.le_refl _⟩

/-- A byte begins only sequences that a continuation goes on with. -/
theorem isOpen_of_start {b : UInt8} (h : start b = .sequence p) : p.IsOpen := by
  have hlow (x : Prop) [Decidable x] {k : UInt8} (hk : 0x80 ≤ k) :
      0x80 ≤ if x then k else 0x80 := by
    split
    · exact hk
    · exact UInt8.le_refl _
  have hhigh (x : Prop) [Decidable x] {k : UInt8} (hk : k ≤ 0xBF) :
      (if x then k else 0xBF) ≤ 0xBF := by
    split
    · exact hk
    · exact UInt8.le_refl _
  rw [start] at h
  split at h
  · cases h
  split at h
  · cases h
  split at h
  · cases h
    exact isOpen_next _ _
  split at h
  · cases h
    exact ⟨hlow _ (by decide), hhigh _ (by decide)⟩
  split at h
  · cases h
    exact ⟨hlow _ (by decide), hhigh _ (by decide)⟩
  · cases h

/-- A continuation begins nothing. -/
theorem start_of_continuation {b : UInt8} (h : p.IsOpen) (hb : p.low ≤ b ∧ b ≤ p.high) :
    start b = .illFormed := by
  have hlow : 0x80 ≤ b := UInt8.le_trans h.1 hb.1
  have hhigh : b ≤ 0xBF := UInt8.le_trans hb.2 h.2
  have hlead : b < 0xC2 := UInt8.lt_of_le_of_lt hhigh (by decide)
  rw [start, if_neg (UInt8.not_lt.2 hlow), if_pos hlead]

/-- A byte that begins nothing is an item on its own. -/
theorem itemsFrom_illFormed {b : UInt8} (h : start b = .illFormed) :
    itemsFrom none (b :: rest) = none :: itemsFrom none rest := by
  rw [itemsFrom, h]

/-- A byte that does not go on with a sequence ends it. -/
theorem itemsFrom_broken {b : UInt8} (hb : ¬ (p.low ≤ b ∧ b ≤ p.high)) :
    itemsFrom (some p) (b :: rest) = none :: itemsFrom none (b :: rest) := by
  rcases hstart : start b with c | q | -
  · rw [itemsFrom_char hstart, itemsFrom, if_neg hb, hstart]
  · rw [itemsFrom_sequence hstart, itemsFrom, if_neg hb, hstart]
  · rw [itemsFrom_illFormed hstart, itemsFrom, if_neg hb, hstart]

/-- A continuation ends a sequence with a character, or leaves a shorter one that goes on. -/
theorem itemsFrom_continuation {b : UInt8} (hb : p.low ≤ b ∧ b ≤ p.high) :
    (∃ c, ∀ rest, itemsFrom (some p) (b :: rest) = some c :: itemsFrom none rest) ∨
    ∃ q : Pending, q.IsOpen ∧
      ∀ rest, itemsFrom (some p) (b :: rest) = itemsFrom (some q) rest := by
  rcases hmore : p.more with - | more
  · refine .inl ⟨Char.ofNat (64 * p.bits + (b.toNat - 0x80)), fun rest ↦ ?_⟩
    rw [itemsFrom, if_pos hb, hmore]
  · refine .inr ⟨_, isOpen_next more (64 * p.bits + (b.toNat - 0x80)), fun rest ↦ ?_⟩
    rw [itemsFrom, if_pos hb, hmore]

/-- A sequence that has begun gives at most one item more than what comes behind it. -/
theorem length_itemsFrom_some_le (h : p.IsOpen) (bytes : Bytes) :
    (itemsFrom (some p) bytes).length ≤ (itemsFrom none bytes).length + 1 := by
  -- a continuation is ill-formed where nothing has begun, and that item makes up for the one that
  -- the sequence gives in the end
  induction bytes generalizing p with
  | nil => exact Nat.le_refl 1
  | cons b rest ih =>
    by_cases hb : p.low ≤ b ∧ b ≤ p.high
    · rw [itemsFrom_illFormed (start_of_continuation h hb), List.length_cons]
      rcases itemsFrom_continuation hb with ⟨c, hlast⟩ | ⟨q, hq, hmore⟩
      · rw [hlast, List.length_cons]
        exact Nat.le_succ _
      · rw [hmore]
        exact Nat.le_succ_of_le (ih hq)
    · exact Nat.le_of_eq (by rw [itemsFrom_broken hb, List.length_cons])

/-- One more byte in front gives at most one character more. -/
theorem length_decode_cons_le (b : UInt8) (bytes : Bytes) :
    (decode (b :: bytes)).length ≤ (decode bytes).length + 1 := by
  rw [decode, decode, List.length_map, List.length_map]
  rcases hstart : start b with c | p | -
  · rw [itemsFrom_char hstart]
    exact Nat.le_refl _
  · rw [itemsFrom_sequence hstart]
    exact length_itemsFrom_some_le (isOpen_of_start hstart) bytes
  · rw [itemsFrom_illFormed hstart]
    exact Nat.le_refl _

/-- A character in front of some bytes stands in front of what they give. -/
theorem decode_encodeChar_append (c : Char) (bytes : Bytes) :
    decode (String.utf8EncodeChar c ++ bytes) = c :: decode bytes := by
  rw [decode, itemsFrom_encodeChar]
  rfl

theorem encodeChar_ne_nil (c : Char) : String.utf8EncodeChar c ≠ [] := by
  intro h
  have hitems := itemsFrom_encodeChar c []
  rw [h] at hitems
  cases hitems

/-- The first byte of a character goes on with no sequence. -/
theorem exists_encodeChar_eq_cons (c : Char) : ∃ b rest, String.utf8EncodeChar c = b :: rest ∧
    ∀ p : Pending, p.IsOpen → ¬ (p.low ≤ b ∧ b ≤ p.high) := by
  obtain ⟨b, rest, hbytes⟩ := List.exists_cons_of_ne_nil (encodeChar_ne_nil c)
  refine ⟨b, rest, hbytes, fun p hp hb ↦ ?_⟩
  have hitems := itemsFrom_encodeChar c []
  rw [hbytes, List.append_nil, itemsFrom_illFormed (start_of_continuation hp hb)] at hitems
  cases hitems

/-- Bytes give the same in front of a character as alone. -/
theorem itemsFrom_append {state : Option Pending} (hstate : ∀ p ∈ state, p.IsOpen) (bytes : Bytes)
    (c : Char) : itemsFrom state (bytes ++ (String.utf8EncodeChar c ++ rest)) =
      itemsFrom state bytes ++ some c :: itemsFrom none rest := by
  have hopen {p : Pending} (h : p.IsOpen) : ∀ q ∈ some p, q.IsOpen := by
    rintro _ ⟨⟩
    exact h
  -- for every state, since a byte may begin a sequence, go on with one or break it off
  induction bytes generalizing state with
  | nil =>
    rcases state with - | p
    · exact itemsFrom_encodeChar c rest
    · -- the character breaks off what has begun, and is read all the same
      obtain ⟨b, more, hbytes, hfirst⟩ := exists_encodeChar_eq_cons c
      have hc := itemsFrom_encodeChar c rest
      rw [hbytes, List.cons_append] at hc
      rw [hbytes, List.nil_append, List.cons_append, itemsFrom_broken (hfirst p (hstate p rfl)), hc]
      rfl
  | cons b bytes ih =>
    have hnone : ∀ p ∈ (none : Option Pending), p.IsOpen := by
      rintro _ ⟨⟩
    -- what the byte begins when nothing has begun
    have hfresh : itemsFrom none (b :: bytes ++ (String.utf8EncodeChar c ++ rest)) =
        itemsFrom none (b :: bytes) ++ some c :: itemsFrom none rest := by
      rw [List.cons_append]
      rcases hstart : start b with d | q | -
      · rw [itemsFrom_char hstart, itemsFrom_char hstart, ih hnone, List.cons_append]
      · rw [itemsFrom_sequence hstart, itemsFrom_sequence hstart,
          ih (hopen (isOpen_of_start hstart))]
      · rw [itemsFrom_illFormed hstart, itemsFrom_illFormed hstart, ih hnone, List.cons_append]
    rcases state with - | p
    · exact hfresh
    by_cases hb : p.low ≤ b ∧ b ≤ p.high
    · rw [List.cons_append]
      rcases itemsFrom_continuation hb with ⟨d, hlast⟩ | ⟨q, hq, hmore⟩
      · rw [hlast, hlast, ih hnone, List.cons_append]
      · rw [hmore, hmore, ih (hopen hq)]
    · rw [List.cons_append] at hfresh ⊢
      rw [itemsFrom_broken hb, itemsFrom_broken hb, hfresh, List.cons_append]

/-- **Bytes in front of a character give what they give alone.** -/
theorem decode_append_encodeChar (bytes : Bytes) (c : Char) :
    decode (bytes ++ (String.utf8EncodeChar c ++ rest)) = decode bytes ++ c :: decode rest := by
  rw [decode, itemsFrom_append (by simp), List.map_append]
  rfl

/-! ### Bytes without a defect -/

/-- A sequence that goes on with the same bytes, whatever bits have been read of it. -/
def Pending.GoesOnLike (p q : Pending) : Prop :=
  p.more = q.more ∧ p.low = q.low ∧ p.high = q.high

theorem goesOnLike_next (more bits bits' : Nat) :
    Pending.GoesOnLike ⟨more, 0x80, 0xBF, bits⟩ ⟨more, 0x80, 0xBF, bits'⟩ :=
  ⟨rfl, rfl, rfl⟩

/-- There is no defect where no item is ill-formed, between characters and inside a sequence. -/
theorem defectFrom?_eq_none (bytes : Bytes) :
    (∀ position, none ∉ itemsFrom none bytes → defectFrom? position none bytes = none) ∧
      ∀ position p q first read, Pending.GoesOnLike p q → none ∉ itemsFrom (some p) bytes →
        defectFrom? position (some (q, first, read)) bytes = none := by
  induction bytes with
  | nil => exact ⟨fun _ _ ↦ rfl, fun _ _ _ _ _ _ h ↦ absurd List.mem_cons_self h⟩
  | cons b bytes ih =>
    obtain ⟨ihNone, ihSome⟩ := ih
    constructor
    · intro position h
      rw [itemsFrom] at h
      rw [defectFrom?]
      cases hstart : start b with
      | char c =>
        rw [hstart] at h
        exact ihNone _ fun h' ↦ h (List.mem_cons_of_mem _ h')
      | sequence p =>
        rw [hstart] at h
        exact ihSome _ p p b 1 ⟨rfl, rfl, rfl⟩ h
      | illFormed =>
        rw [hstart] at h
        exact absurd List.mem_cons_self h
    · rintro position p ⟨more, low, high, bits⟩ first read ⟨rfl, rfl, rfl⟩ h
      by_cases hb : p.low ≤ b ∧ b ≤ p.high
      · rw [itemsFrom, if_pos hb] at h
        rw [defectFrom?, if_pos hb]
        cases hmore : p.more with
        | zero =>
          rw [hmore] at h
          exact ihNone _ fun h' ↦ h (List.mem_cons_of_mem _ h')
        | succ more =>
          rw [hmore] at h
          exact ihSome _ _ _ first (read + 1) (goesOnLike_next more _ 0) h
      · rw [itemsFrom_broken hb] at h
        exact absurd List.mem_cons_self h

/-- The bytes of a text have no defect. -/
theorem defect?_encode (t : Text) : defect? (encode t) = none := by
  have hitems := itemsFrom_encode t []
  rw [List.append_nil, itemsFrom, List.append_nil] at hitems
  refine (defectFrom?_eq_none (encode t)).1 0 fun h ↦ ?_
  rw [hitems] at h
  obtain ⟨_, -, h⟩ := List.mem_map.1 h
  exact nomatch h

end StaticServer.Text.Utf8
