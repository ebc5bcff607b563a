import StaticServer.Proofs.Text.Percent

/-!
# Decoding any text

A path in an address is decoded whether or not somebody has encoded it. Such a decoding never makes
a text longer (`length_decode_le`), and it leaves exactly those texts as they are that hold no
escape (`decode_eq_self_iff`): three characters of an escape become at most one.

The proofs go along a text by `escapeInduction`, which takes an escape or else one character from
its front. A character that can be no part of an escape cuts a text into two that are decoded apart
(`decode_append_cons`). And whoever escapes further characters, but no percent sign and no
hexadecimal digit, changes nothing of what is decoded (`IsEscaping.decode_flatMap`).
-/

namespace StaticServer.Text.Percent

/-! ### Escapes one after another -/

/-- A text is empty, or an escape stands at its front, or a character that begins none does. -/
@[elab_as_elim] theorem escapeInduction {motive : Text → Prop} (nil : motive [])
    (escape : ∀ a b x y rest, hexValue? a = some x → hexValue? b = some y → motive rest →
      motive ('%' :: a :: b :: rest))
    (keep : ∀ c rest, (c = '%' → ¬ StartsInHex rest) → motive rest → motive (c :: rest))
    (t : Text) : motive t := by
  -- by induction on the length: an escape takes three characters at once
  induction hn : t.length using Nat.strongRecOn generalizing t with
  | ind n ih =>
    rcases t with - | ⟨c, rest⟩
    · exact nil
    have hshorter (u : Text) (h : u.length < (c :: rest).length) : motive u := ih _ (hn ▸ h) u rfl
    by_cases hescape : c = '%' ∧ StartsInHex rest
    · obtain ⟨rfl, a, b, after, rfl, ha, hb⟩ := hescape
      obtain ⟨x, hx⟩ := Option.isSome_iff_exists.1 ha
      obtain ⟨y, hy⟩ := Option.isSome_iff_exists.1 hb
      refine escape a b x y after hx hy (hshorter after ?_)
      simp only [List.length_cons]
      omega
    · exact keep c rest (fun hc hhex ↦ hescape ⟨hc, hhex⟩) (hshorter rest (Nat.lt_succ_self _))

/-- Somewhere in a text a percent sign stands before two hexadecimal digits. -/
def HasEscape (t : Text) : Prop :=
  ∃ before after, t = before ++ '%' :: after ∧ StartsInHex after

/-- An escape stands at the start or behind it. -/
theorem hasEscape_cons_iff {c : Char} {t : Text} :
    HasEscape (c :: t) ↔ c = '%' ∧ StartsInHex t ∨ HasEscape t := by
  constructor
  · rintro ⟨- | ⟨d, before⟩, after, heq, hafter⟩
    · rw [List.nil_append] at heq
      obtain ⟨rfl, rfl⟩ := List.cons.inj heq
      exact .inl ⟨rfl, hafter⟩
    · rw [List.cons_append] at heq
      obtain ⟨-, rfl⟩ := List.cons.inj heq
      exact .inr ⟨before, after, rfl, hafter⟩
  · rintro (⟨rfl, ht⟩ | ⟨before, after, rfl, hafter⟩)
    · exact ⟨[], t, rfl, ht⟩
    · exact ⟨c :: before, after, rfl, hafter⟩

/-- An escape makes at most one character. -/
theorem length_decode_escape_le {a b : Char} {x y : Nat} (ha : hexValue? a = some x)
    (hb : hexValue? b = some y) (rest : Text) :
    (decode ('%' :: a :: b :: rest)).length ≤ (decode rest).length + 1 := by
  rw [decode, decodeBytes_escape ha hb]
  exact Utf8.length_decode_cons_le _ _

/-- What starts no escape is kept. -/
theorem decode_keep {c : Char} {t : Text} (hc : c = '%' → ¬ StartsInHex t) :
    decode (c :: t) = c :: decode t := by
  rw [decode, decodeBytes_keep hc, Utf8.decode_encodeChar_append, decode]

/-- Decoding makes no text longer. -/
theorem length_decode_le (t : Text) : (decode t).length ≤ t.length := by
  induction t using escapeInduction with
  | nil => exact Nat.le_refl 0
  | escape a b x y rest ha hb ih =>
    have hone := length_decode_escape_le ha hb rest
    rw [List.length_cons, List.length_cons, List.length_cons]
    omega
  | keep c rest hc ih =>
    rw [decode_keep hc, List.length_cons, List.length_cons]
    exact Nat.succ_le_succ ih

/-- **Decoding leaves exactly those texts as they are that hold no escape.** -/
theorem decode_eq_self_iff {t : Text} : decode t = t ↔ ¬ HasEscape t := by
  induction t using escapeInduction with
  | nil =>
    refine iff_of_true rfl ?_
    rintro ⟨before, after, heq, -⟩
    exact absurd heq (by simp)
  | escape a b x y rest ha hb ih =>
    refine iff_of_false (fun heq ↦ ?_) fun hnone ↦ hnone ?_
    · -- three characters have become at most one
      have hone := length_decode_escape_le ha hb rest
      have hrest := length_decode_le rest
      rw [heq, List.length_cons, List.length_cons, List.length_cons] at hone
      omega
    · exact ⟨[], _, rfl, a, b, rest, rfl, by simp [ha], by simp [hb]⟩
  | keep c rest hc ih =>
    rw [decode_keep hc, List.cons_inj_right, ih, hasEscape_cons_iff]
    have hnot : ¬ (c = '%' ∧ StartsInHex rest) := fun h ↦ hc h.1 h.2
    rw [or_iff_right hnot]

/-! ### A character that belongs to no escape -/

/-- Two digits that stand in front of another character do not need it. -/
theorem StartsInHex.of_append {t rest : Text} {c : Char} (hc : hexValue? c = none)
    (h : StartsInHex (t ++ c :: rest)) : StartsInHex t := by
  obtain ⟨a, b, after, heq, ha, hb⟩ := h
  rcases t with - | ⟨a', - | ⟨b', t⟩⟩
  · obtain ⟨rfl, -⟩ := List.cons.inj heq
    simp [hc] at ha
  · obtain ⟨-, hrest⟩ := List.cons.inj heq
    obtain ⟨rfl, -⟩ := List.cons.inj hrest
    simp [hc] at hb
  · obtain ⟨rfl, hrest⟩ := List.cons.inj heq
    obtain ⟨rfl, -⟩ := List.cons.inj hrest
    exact ⟨_, _, t, rfl, ha, hb⟩

/-- A character that has no part in escapes divides what is decoded in two. -/
theorem decodeBytes_append_cons {c : Char} (hpercent : c ≠ '%') (hc : hexValue? c = none)
    (t rest : Text) : decodeBytes (t ++ c :: rest) =
      decodeBytes t ++ (String.utf8EncodeChar c ++ decodeBytes rest) := by
  induction t using escapeInduction with
  | nil => exact decodeBytes_keep fun h ↦ absurd h hpercent
  | escape a b x y t ha hb ih =>
    simp only [List.cons_append, decodeBytes_escape ha hb, ih]
  | keep d t hd ih =>
    -- the character comes too late, or as no digit, to make an escape of a percent sign before it
    have hd' : d = '%' → ¬ StartsInHex (t ++ c :: rest) := fun h hhex ↦ hd h (hhex.of_append hc)
    rw [List.cons_append, decodeBytes_keep hd', decodeBytes_keep hd, ih, List.append_assoc]

/-- **A character that belongs to no escape stays where it is.** -/
theorem decode_append_cons {c : Char} (hpercent : c ≠ '%') (hc : hexValue? c = none)
    (t rest : Text) : decode (t ++ c :: rest) = decode t ++ c :: decode rest := by
  rw [decode, decodeBytes_append_cons hpercent hc, Utf8.decode_append_encodeChar, decode, decode]

theorem decode_concat {c : Char} (hpercent : c ≠ '%') (hc : hexValue? c = none) (t : Text) :
    decode (t ++ [c]) = decode t ++ [c] :=
  decode_append_cons hpercent hc t []

/-! ### Escaping more -/

/-- A function escapes characters, but no percent sign and no hexadecimal digit, so that the escapes
of a text stay as they are. -/
def IsEscaping (f : Char → Text) : Prop :=
  ∀ c, f c = [c] ∨ c ≠ '%' ∧ hexValue? c = none ∧ Escapes (String.utf8EncodeChar c) (f c)

/-- Escapes of some bytes start with a percent sign. -/
theorem Escapes.head?_eq {bytes : Bytes} {e : Text} (h : Escapes bytes e) (hne : bytes ≠ []) :
    ∃ rest, e = '%' :: rest := by
  cases h with
  | nil => exact absurd rfl hne
  | cons => exact ⟨_, rfl⟩

/-- An escaping leaves hexadecimal digits alone, -/
theorem IsEscaping.eq_of_isSome {f : Char → Text} (hf : IsEscaping f) {c : Char}
    (hc : (hexValue? c).isSome = true) : f c = [c] := by
  refine (hf c).resolve_right fun h ↦ ?_
  rw [h.2.1] at hc
  cases hc

/-- What stands at the front of an escaped text are hexadecimal digits only if they did before. -/
theorem IsEscaping.startsInHex {f : Char → Text} (hf : IsEscaping f) {t : Text}
    (h : StartsInHex (t.flatMap f)) : StartsInHex t := by
  -- a character that is escaped would begin with a percent sign
  have hkept {c : Char} {u a rest} (heq : f c ++ u = a :: rest) (ha : (hexValue? a).isSome = true) :
      f c = [c] ∧ c = a ∧ u = rest := by
    rcases hf c with hc | ⟨-, -, hescapes⟩
    · rw [hc] at heq
      obtain ⟨rfl, rfl⟩ := List.cons.inj heq
      exact ⟨hc, rfl, rfl⟩
    · obtain ⟨more, hmore⟩ := hescapes.head?_eq (Utf8.encodeChar_ne_nil c)
      rw [hmore] at heq
      obtain ⟨rfl, -⟩ := List.cons.inj heq
      exact absurd ha (by decide)
  obtain ⟨a, b, after, heq, ha, hb⟩ := h
  rcases t with - | ⟨c, t⟩
  · cases heq
  obtain ⟨-, rfl, hrest⟩ := hkept heq ha
  rcases t with - | ⟨d, t⟩
  · cases hrest
  obtain ⟨-, rfl, -⟩ := hkept hrest hb
  exact ⟨c, d, t, rfl, ha, hb⟩

/-- and so changes nothing of what is decoded, even where the text has escapes of its own. -/
theorem IsEscaping.decodeBytes_flatMap {f : Char → Text} (hf : IsEscaping f) (t : Text) :
    decodeBytes (t.flatMap f) = decodeBytes t := by
  induction t using escapeInduction with
  | nil => rfl
  | escape a b x y rest ha hb ih =>
    have hpercent : f '%' = ['%'] := (hf '%').resolve_right fun h ↦ h.1 rfl
    have hfa := hf.eq_of_isSome (c := a) (by simp [ha])
    have hfb := hf.eq_of_isSome (c := b) (by simp [hb])
    simp only [List.flatMap_cons, hpercent, hfa, hfb, List.singleton_append,
      decodeBytes_escape ha hb, ih]
  | keep c rest hc ih =>
    rw [List.flatMap_cons, decodeBytes_keep hc, ← ih]
    rcases hf c with hfc | ⟨-, -, hescapes⟩
    · rw [hfc, List.singleton_append, decodeBytes_keep fun h hhex ↦ hc h (hf.startsInHex hhex)]
    · exact hescapes.decodeBytes_append _

/-- **Escaping more makes no difference to decoding.** -/
theorem IsEscaping.decode_flatMap {f : Char → Text} (hf : IsEscaping f) (t : Text) :
    decode (t.flatMap f) = decode t := by
  rw [decode, hf.decodeBytes_flatMap, decode]

theorem hexValue?_hexDigit (n : Nat) : hexValue? (hexDigit n) = some (n % 16) := by
  have hdigit : ∀ k < 16, hexValue? (Nat.digitChar k).toUpper = some k := by decide
  exact hdigit (n % 16) (Nat.mod_lt n (by decide))

theorem escapes_flatMap (bytes : Bytes) : Escapes bytes (bytes.flatMap escapeByte) := by
  induction bytes with
  | nil => exact .nil
  | cons b bytes ih =>
    have hbyte : UInt8.ofNat (16 * (b.toNat / 16 % 16) + b.toNat % 16) = b := by
      have hlt := UInt8.toNat_lt_size b
      have hvalue : 16 * (b.toNat / 16 % 16) + b.toNat % 16 = b.toNat := by
        simp only [UInt8.size] at hlt
        omega
      rw [hvalue, UInt8.ofNat_toNat]
    have hescape := Escapes.cons (hexValue?_hexDigit (b.toNat / 16)) (hexValue?_hexDigit b.toNat) ih
    rw [hbyte] at hescape
    exact hescape

/-- Encoding is an escaping if the percent sign and the hexadecimal digits are kept. -/
theorem isEscaping_encodeChar {keep : Char → Bool} (hpercent : keep '%' = true)
    (hhex : ∀ c, (hexValue? c).isSome = true → keep c = true) : IsEscaping (encodeChar keep) := by
  intro c
  rw [encodeChar]
  by_cases hc : keep c = true
  · exact .inl (if_pos hc)
  · rw [if_neg hc]
    refine .inr ⟨fun heq ↦ hc (heq ▸ hpercent), ?_, escapes_flatMap _⟩
    rw [← Option.not_isSome_iff_eq_none]
    exact fun h ↦ hc (hhex c h)

/-- An encoded text is a spelling of the text unless percent signs are kept. -/
theorem spells_encode {keep : Char → Bool} (hpercent : keep '%' = false) (t : Text) :
    Spells (encode keep t) t := by
  induction t with
  | nil => exact .nil
  | cons c t ih =>
    rw [encode, List.flatMap_cons, encodeChar]
    by_cases hc : keep c = true
    · rw [if_pos hc]
      refine .keep (fun heq ↦ ?_) ih
      rw [heq, hpercent] at hc
      cases hc
    · rw [if_neg hc]
      exact .escape (escapes_flatMap _) ih

/-- An encoded text holds characters that are kept and those of escapes. -/
theorem mem_encode {keep : Char → Bool} {t : Text} {c : Char} (h : c ∈ encode keep t) :
    c ∈ t ∧ keep c = true ∨ c = '%' ∨ (hexValue? c).isSome = true := by
  obtain ⟨d, hd, hc⟩ := List.mem_flatMap.1 h
  rw [encodeChar] at hc
  split at hc
  · next hkeep =>
    obtain rfl := List.mem_singleton.1 hc
    exact .inl ⟨hd, hkeep⟩
  · obtain ⟨b, -, hb⟩ := List.mem_flatMap.1 hc
    simp only [escapeByte, List.mem_cons, List.not_mem_nil, or_false] at hb
    rcases hb with rfl | rfl | rfl
    · exact .inr (.inl rfl)
    · exact .inr (.inr (by rw [hexValue?_hexDigit]; rfl))
    · exact .inr (.inr (by rw [hexValue?_hexDigit]; rfl))

/-- A separator that is kept and belongs to no escape cuts an encoded text where it cuts the
text. -/
theorem cut_encode {keep : Char → Bool} {sep : Char} (hkeep : keep sep = true)
    (hpercent : sep ≠ '%') (hhex : hexValue? sep = none) (t : Text) :
    cut sep (encode keep t) = (encode keep (cut sep t).1, (cut sep t).2.map (encode keep)) := by
  have hnot {u : Text} (hu : sep ∉ u) : sep ∉ encode keep u := by
    intro hmem
    rcases mem_encode hmem with ⟨h, -⟩ | h | h
    · exact hu h
    · exact hpercent h
    · rw [hhex] at h
      cases h
  by_cases hm : sep ∈ t
  · obtain ⟨a, b, rfl, ha⟩ := List.eq_append_cons_of_mem hm
    have hencode : encode keep (a ++ sep :: b) = encode keep a ++ sep :: encode keep b := by
      rw [encode, List.flatMap_append, List.flatMap_cons, encodeChar, if_pos hkeep]
      rfl
    rw [hencode, cut_append (hnot ha), cut_append ha]
    rfl
  · rw [cut_of_not_mem hm, cut_of_not_mem (hnot hm)]
    rfl

/-- Every character that an encoded text has lost is missing from its encoding. -/
theorem length_encode_add_le {keep : Char → Bool} {u t : Text} (h : u.Sublist t) :
    (encode keep u).length + t.length ≤ (encode keep t).length + u.length := by
  -- on both sides what is kept adds the same, and what is lost adds at least one on the right
  induction h with
  | slnil => exact Nat.le_refl _
  | @cons u t c h ih =>
    have hchar : 0 < (encodeChar keep c).length := by
      rw [encodeChar]
      split
      · exact Nat.one_pos
      · obtain ⟨b, rest, hbytes⟩ := List.exists_cons_of_ne_nil (Utf8.encodeChar_ne_nil c)
        rw [hbytes]
        exact Nat.succ_pos _
    rw [encode, encode, List.flatMap_cons, List.length_append, List.length_cons, ← encode, ← encode]
    omega
  | @cons_cons u t c h ih =>
    rw [encode, encode, List.flatMap_cons, List.flatMap_cons, List.length_append,
      List.length_append, List.length_cons, List.length_cons, ← encode, ← encode]
    omega

/-- A part of a text that is encoded like the text is the text. -/
theorem eq_of_encode_eq {keep : Char → Bool} {u t : Text} (h : u.Sublist t)
    (heq : encode keep u = encode keep t) : u = t := by
  have hle : (encode keep u).length + t.length ≤ (encode keep t).length + u.length :=
    length_encode_add_le h
  rw [heq] at hle
  exact h.eq_of_length_le (by omega)

end StaticServer.Text.Percent
