import StaticServer.Proofs.Text.Utf8
import StaticServer.Text.Percent

/-!
# Spellings of a text

A text can be percent-encoded in many ways: each character stands as it is or as the escapes of its
bytes, with hexadecimal digits of either case (`Spells`). Decoding takes every spelling of a text to
that text (`Spells.decode_eq`), so which characters are escaped makes no difference.

A percent sign is special. It can stand as it is only where no two hexadecimal digits follow.
-/

namespace StaticServer.Text.Percent

/-- Bytes as `%XX`, one after another. -/
inductive Escapes : Bytes → Text → Prop
  /-- No bytes. -/
  | nil : Escapes [] []
  /-- One more byte in front. -/
  | cons {a b : Char} {x y : Nat} {bytes : Bytes} {t : Text} (ha : hexValue? a = some x)
      (hb : hexValue? b = some y) (h : Escapes bytes t) :
      Escapes (UInt8.ofNat (16 * x + y) :: bytes) ('%' :: a :: b :: t)

/-- Two hexadecimal digits stand at the front of a text. -/
def StartsInHex (t : Text) : Prop :=
  ∃ a b rest, t = a :: b :: rest ∧ (hexValue? a).isSome = true ∧ (hexValue? b).isSome = true

/-- A percent-encoded text and what it stands for. -/
inductive Spells : Text → Text → Prop
  /-- Nothing. -/
  | nil : Spells [] []
  /-- A character as it is. -/
  | keep {c : Char} {t p : Text} (hc : c = '%' → ¬ StartsInHex t) (h : Spells t p) :
      Spells (c :: t) (c :: p)
  /-- A character as the escapes of its bytes. -/
  | escape {c : Char} {e t p : Text} (he : Escapes (String.utf8EncodeChar c) e)
      (h : Spells t p) : Spells (e ++ t) (c :: p)

/-! ### Decoding what is spelled -/

/-- Two digits behind a percent sign give a byte. -/
theorem decodeBytes_escape {a b : Char} {x y : Nat} (ha : hexValue? a = some x)
    (hb : hexValue? b = some y) (rest : Text) :
    decodeBytes ('%' :: a :: b :: rest) = UInt8.ofNat (16 * x + y) :: decodeBytes rest := by
  rw [decodeBytes, ha, hb]

/-- What starts no escape gives the bytes of its own. -/
theorem decodeBytes_keep {c : Char} {t : Text} (hc : c = '%' → ¬ StartsInHex t) :
    decodeBytes (c :: t) = String.utf8EncodeChar c ++ decodeBytes t := by
  by_cases hpercent : c = '%'
  · subst hpercent
    have hnot := hc rfl
    rcases t with - | ⟨a, - | ⟨b, rest⟩⟩
    · rfl
    · rfl
    rcases ha : hexValue? a with - | x
    · rw [decodeBytes, ha]
    rcases hb : hexValue? b with - | y
    · rw [decodeBytes, ha, hb]
    · exact absurd ⟨a, b, rest, rfl, by simp [ha], by simp [hb]⟩ hnot
  · rw [decodeBytes]
    rintro a b rest rfl
    exact absurd rfl hpercent

/-- Escapes give their bytes, in front of anything. -/
theorem Escapes.decodeBytes_append {bytes : Bytes} {e : Text} (h : Escapes bytes e) (rest : Text) :
    decodeBytes (e ++ rest) = bytes ++ decodeBytes rest := by
  induction h with
  | nil => rfl
  | cons ha hb _ ih =>
    rw [List.cons_append, List.cons_append, List.cons_append, decodeBytes_escape ha hb, ih,
      List.cons_append]

/-- What spells a path is decoded to its bytes. -/
theorem Spells.decodeBytes_eq {t p : Text} (h : Spells t p) : decodeBytes t = Utf8.encode p := by
  induction h with
  | nil => rfl
  | keep hc _ ih =>
    rw [decodeBytes_keep hc, ih]
    rfl
  | escape he _ ih =>
    rw [he.decodeBytes_append, ih]
    rfl

/-- **Decoding takes every spelling of a text to that text.** -/
theorem Spells.decode_eq {t p : Text} (h : Spells t p) : decode t = p := by
  rw [decode, h.decodeBytes_eq, Utf8.decode_encode]

end StaticServer.Text.Percent
