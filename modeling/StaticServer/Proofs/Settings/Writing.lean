import Mathlib.Data.List.TakeDrop
import StaticServer.Proofs.Settings.Entries

/-!
# Settings files as they are written

A settings file can be written with one line for each entry, the value between apostrophes
(`Dotenv.IsWritten`). Whatever stands between them is read back, line breaks, number signs and
quotation marks included, as long as it holds no apostrophe, no backslash and no carriage return
(`Dotenv.written_of_isWritten`): each line is read as one entry, and the next one starts behind it
(`Dotenv.takeEntry_assignment`).
-/

namespace StaticServer

namespace Text

/-- Without a carriage return the line breaks stay as they are. -/
theorem unifyBreaks_of_not_mem {t : Text} (h : '\r' ∉ t) : unifyBreaks false t = t := by
  induction t with
  | nil => rfl
  | cons c t ih =>
    rw [List.mem_cons, not_or] at h
    rw [unifyBreaks, if_neg (Ne.symm h.1), ih h.2, Bool.and_false, if_neg Bool.false_ne_true]

end Text

namespace Dotenv

/-! ### What can be written -/

/-- A name that can be written without quotation marks, at the start of a file too. -/
structure IsName (n : Text) : Prop where
  /-- There is something of it. -/
  ne_nil : n ≠ []
  /-- Its characters are those of names. -/
  nameChars : ∀ c ∈ n, isNameChar c = true
  /-- It does not look like a name in quotation marks. -/
  apostrophe : '\x27' ∉ n
  /-- It does not look like a byte order mark. -/
  mark : '\uFEFF' ∉ n

/-- A value that can be written between apostrophes as it is. -/
structure IsLiteral (t : Text) : Prop where
  /-- It does not end before its end. -/
  apostrophe : '\x27' ∉ t
  /-- It holds no escape. -/
  backslash : '\\' ∉ t
  /-- Its line breaks stay as they are. -/
  carriageReturn : '\r' ∉ t

/-- A name and its value as they are written on a line. -/
def assignment (n t : Text) : Text :=
  n ++ '=' :: '\x27' :: (t ++ ['\x27'])

/-- A text has one line for each of some names and values, in their order. The last line may do
without its line break. -/
inductive IsWritten : List (Text × Text) → Text → Prop
  | nothing : IsWritten [] []
  | last (n t : Text) : IsWritten [(n, t)] (assignment n t)
  | line (n t : Text) {es : List (Text × Text)} {text : Text} (h : IsWritten es text) :
    IsWritten ((n, t) :: es) (assignment n t ++ '\n' :: text)

/-! ### Reading a line -/

/-- A literal is taken up to the apostrophe that ends it. -/
theorem takeQuoted?_of_isLiteral {t : Text} (h : IsLiteral t) (rest : Text) :
    takeQuoted? '\x27' false (t ++ '\x27' :: rest) = some (t, rest) := by
  obtain ⟨hapostrophe, hbackslash, -⟩ := h
  induction t with
  | nil => rfl
  | cons c t ih =>
    rw [List.mem_cons, not_or] at hapostrophe hbackslash
    have hescape : (c == '\\' && !false) = false := by simp [Ne.symm hbackslash.1]
    rw [List.cons_append, takeQuoted?, if_neg (by simp [Ne.symm hapostrophe.1]), hescape,
      ih hapostrophe.2 hbackslash.2]
    rfl

theorem unescape_of_not_mem (escapes : List (Char × Char)) {t : Text} (h : '\\' ∉ t) :
    unescape escapes false t = t := by
  induction t with
  | nil => rfl
  | cons c t ih =>
    rw [List.mem_cons, not_or] at h
    rw [unescape, if_neg (Ne.symm h.1), ih h.2]

/-- So a literal between apostrophes is taken as the value. -/
theorem takeValue?_of_isLiteral {t : Text} (h : IsLiteral t) (rest : Text) :
    takeValue? ('\x27' :: (t ++ '\x27' :: rest)) = some (t, rest) := by
  have hquote : ('\x27' :: (t ++ '\x27' :: rest)).dropWhile isLineBlank =
      '\x27' :: (t ++ '\x27' :: rest) := rfl
  rw [takeValue?, hquote]
  show (takeQuoted? '\x27' false (t ++ '\x27' :: rest)).map _ = _
  rw [takeQuoted?_of_isLiteral h, Option.map_some]
  show some (unescape singleEscapes false t, rest) = _
  rw [unescape_of_not_mem _ h.backslash]

namespace IsName

variable {n : Text}

/-- A name has no blanks, and does not end at an equals sign or a comment. -/
theorem of_mem (h : IsName n) {c : Char} (hc : c ∈ n) :
    c ≠ '=' ∧ c ≠ '#' ∧ Text.isBlank c = false := by
  have hname := h.nameChars c hc
  simp only [isNameChar, Bool.and_eq_true, decide_eq_true_eq, Bool.not_eq_true'] at hname
  exact ⟨hname.1.1, hname.1.2, hname.2⟩

theorem isLineBlank_of_mem (h : IsName n) {c : Char} (hc : c ∈ n) : isLineBlank c = false := by
  rw [isLineBlank, (h.of_mem hc).2.2, Bool.false_and]

/-- The word `export` in a name stands there for itself: no blank follows it. -/
theorem dropExport_append (h : IsName n) (rest : Text) :
    dropExport (n ++ '=' :: rest) = n ++ '=' :: rest := by
  rw [dropExport]
  split
  case h_2 => rfl
  case h_1 c more hlead =>
    rw [if_neg]
    intro hblank
    rcases List.append_eq_append_iff.1 (Text.dropLead?_eq_some_iff.1 hlead) with
      ⟨s, hs, hc⟩ | ⟨s, hs, hc⟩
    · rcases s with - | ⟨d, s⟩
      · exact absurd ((List.cons.inj hc).1 ▸ hblank) (by decide)
      · have hmem : '=' ∈ ("export" : Text) := by
          rw [hs, (List.cons.inj hc).1]
          exact List.mem_append_right n List.mem_cons_self
        exact absurd hmem (by decide)
    · rcases s with - | ⟨d, s⟩
      · exact absurd ((List.cons.inj hc).1 ▸ hblank) (by decide)
      · have hmem : c ∈ n := by
          rw [hs, (List.cons.inj hc).1]
          exact List.mem_append_right _ List.mem_cons_self
        exact Bool.false_ne_true ((h.isLineBlank_of_mem hmem).symm.trans hblank)

theorem span_append (h : IsName n) (rest : Text) :
    (n ++ '=' :: rest).span isNameChar = (n, '=' :: rest) := by
  rw [List.span_eq_takeWhile_dropWhile, List.takeWhile_append_of_pos h.nameChars,
    List.dropWhile_append_of_pos h.nameChars]
  simp [isNameChar]

/-- A name is taken up to the equals sign behind it. -/
theorem takeName?_append (h : IsName n) (rest : Text) :
    takeName? (n ++ '=' :: rest) = some (n, '=' :: rest) := by
  obtain ⟨c, n', rfl⟩ := List.exists_cons_of_ne_nil h.ne_nil
  have hc : c ≠ '\x27' := fun heq ↦ h.apostrophe (heq ▸ List.mem_cons_self)
  unfold takeName?
  split
  case h_1 heq => exact absurd (List.cons.inj heq).1 hc
  case h_2 =>
    rw [h.span_append]

end IsName

/-- **A line is read as its entry**, up to where the line ends. -/
theorem takeEntry_assignment {n t rest more : Text} (hn : IsName n) (ht : IsLiteral t)
    (hend : endLine? rest = some more) :
    takeEntry (assignment n t ++ rest) = (some (n, some t), more) := by
  obtain ⟨c, n', rfl⟩ := List.exists_cons_of_ne_nil hn.ne_nil
  have hc := hn.of_mem List.mem_cons_self
  have hline : assignment (c :: n') t ++ rest =
      c :: n' ++ '=' :: '\x27' :: (t ++ '\x27' :: rest) := by
    simp [assignment]
  have hblank : (c :: n' ++ '=' :: '\x27' :: (t ++ '\x27' :: rest)).dropWhile Text.isBlank =
      c :: n' ++ '=' :: '\x27' :: (t ++ '\x27' :: rest) := by
    rw [List.cons_append, List.dropWhile_cons_of_neg (by simp [hc.2.2])]
  rw [hline, takeEntry, hblank, hn.dropExport_append]
  split
  case h_1 heq => exact absurd (List.cons.inj heq).1 hc.2.1
  case h_2 =>
    have hequals (u : Text) : ('=' :: u).dropWhile isLineBlank = '=' :: u := rfl
    simp only [hn.takeName?_append, hequals, takeValue?_of_isLiteral ht, hend]

/-! ### Reading a file -/

/-- The names and values can be written as they are. -/
def CanWrite (es : List (Text × Text)) : Prop :=
  ∀ e ∈ es, IsName e.1 ∧ IsLiteral e.2

theorem assignment_ne_nil (n t : Text) : assignment n t ≠ [] :=
  List.append_ne_nil_of_right_ne_nil n (List.cons_ne_nil _ _)

theorem entriesFrom_nil (lines : Nat) : entriesFrom lines [] = [] := by
  cases lines <;> rfl

/-- **A line that is written is read as its entry**, and what follows the line break is read on its
own. -/
theorem entriesFrom_assignment {n t rest more : Text} (hn : IsName n) (ht : IsLiteral t)
    (hend : endLine? rest = some more) (lines : Nat) :
    entriesFrom (lines + 1) (assignment n t ++ rest) =
      (n, some t) :: entriesFrom lines more := by
  have hsome : (assignment n t ++ rest).isEmpty = false := by
    rw [List.isEmpty_eq_false_iff]
    exact List.append_ne_nil_of_left_ne_nil (assignment_ne_nil n t) rest
  rw [entriesFrom, hsome, if_neg Bool.false_ne_true, takeEntry_assignment hn ht hend]

variable {es : List (Text × Text)} {text : Text}

/-- So a written file is read as its entries, one for each line. -/
theorem IsWritten.entriesFrom_eq (h : IsWritten es text) (hes : CanWrite es) {lines : Nat}
    (hlines : es.length ≤ lines) :
    entriesFrom lines text = es.map fun e ↦ (e.1, some e.2) := by
  induction h generalizing lines with
  | nothing => exact entriesFrom_nil lines
  | last n t =>
    obtain ⟨lines, rfl⟩ := Nat.exists_eq_add_of_le' hlines
    obtain ⟨hn, ht⟩ := hes _ List.mem_cons_self
    rw [← List.append_nil (assignment n t), List.length_singleton,
      entriesFrom_assignment hn ht rfl, entriesFrom_nil]
    rfl
  | line n t h ih =>
    obtain ⟨lines, rfl⟩ := Nat.exists_eq_add_of_le' hlines
    obtain ⟨hn, ht⟩ := hes _ List.mem_cons_self
    rw [List.length_cons, ← Nat.add_assoc, entriesFrom_assignment hn ht rfl,
      ih (fun e he ↦ hes e (List.mem_cons_of_mem _ he)) (Nat.le_add_left _ _)]
    rfl

/-- There are no more lines than characters, which is the fuel of the reader. -/
theorem IsWritten.length_le (h : IsWritten es text) : es.length ≤ text.length := by
  induction h with
  | nothing => exact Nat.le_refl 0
  | last n t => exact List.length_pos_of_ne_nil (assignment_ne_nil n t)
  | line n t h ih =>
    rw [List.length_cons, List.length_append, List.length_cons]
    omega

/-- No line break of a written file is made of a carriage return. -/
theorem IsWritten.not_mem (h : IsWritten es text) (hes : CanWrite es) : '\r' ∉ text := by
  have hassignment {n t : Text} (hn : IsName n) (ht : IsLiteral t) : '\r' ∉ assignment n t := by
    simp only [assignment, List.mem_append, List.mem_cons, List.not_mem_nil, or_false]
    rintro (hmem | hmem | hmem | hmem | hmem)
    · exact absurd (hn.of_mem hmem).2.2 (by decide)
    · exact absurd hmem (by decide)
    · exact absurd hmem (by decide)
    · exact ht.carriageReturn hmem
    · exact absurd hmem (by decide)
  induction h with
  | nothing => exact List.not_mem_nil
  | last n t => exact hassignment (hes _ List.mem_cons_self).1 (hes _ List.mem_cons_self).2
  | line n t h ih =>
    rw [List.mem_append, List.mem_cons]
    rintro (hmem | hmem | hmem)
    · exact hassignment (hes _ List.mem_cons_self).1 (hes _ List.mem_cons_self).2 hmem
    · exact absurd hmem (by decide)
    · exact ih (fun e he ↦ hes e (List.mem_cons_of_mem _ he)) hmem

theorem IsWritten.dropMark_eq (h : IsWritten es text) (hes : CanWrite es) :
    dropMark text = text := by
  have hassignment {n t : Text} (hn : IsName n) (rest : Text) :
      dropMark (assignment n t ++ rest) = assignment n t ++ rest := by
    obtain ⟨c, n', rfl⟩ := List.exists_cons_of_ne_nil hn.ne_nil
    rw [dropMark]
    intro more heq
    exact absurd ((List.cons.inj heq).1 ▸ List.mem_cons_self) hn.mark
  cases h with
  | nothing => rfl
  | last n t =>
    rw [← List.append_nil (assignment n t)]
    exact hassignment (hes _ List.mem_cons_self).1 []
  | line n t h => exact hassignment (hes _ List.mem_cons_self).1 _

/-- **What is written is read back**, entry by entry. -/
theorem written_of_isWritten (h : IsWritten es text) (hes : CanWrite es) :
    written text = es.map fun e ↦ (e.1, some e.2) := by
  rw [written, h.dropMark_eq hes, Text.unifyBreaks_of_not_mem (h.not_mem hes), entries,
    h.entriesFrom_eq hes h.length_le]

end Dotenv

end StaticServer
