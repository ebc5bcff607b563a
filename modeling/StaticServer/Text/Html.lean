import StaticServer.Text.Basic

/-!
# Text in a page

Five characters mean something to a reader of HTML, in running text or in an attribute;
`escape` writes them as references and `unescape` reads these references back.
-/

namespace StaticServer.Text.Html

/-- One character of running text or of an attribute. -/
def escapeChar (c : Char) : Text :=
  if c = '&' then "&amp;"
  else if c = '<' then "&lt;"
  else if c = '>' then "&gt;"
  else if c = '\x22' then "&quot;"
  else if c = '\x27' then "&#x27;"
  else [c]

/-- A text with the five characters written as references. -/
def escape (t : Text) : Text :=
  t.flatMap escapeChar

/-- A text with the references to the five characters read back; all else stays. -/
def unescape : Text → Text
  | '&' :: 'a' :: 'm' :: 'p' :: ';' :: t => '&' :: unescape t
  | '&' :: 'l' :: 't' :: ';' :: t => '<' :: unescape t
  | '&' :: 'g' :: 't' :: ';' :: t => '>' :: unescape t
  | '&' :: 'q' :: 'u' :: 'o' :: 't' :: ';' :: t => '\x22' :: unescape t
  | '&' :: '#' :: 'x' :: '2' :: '7' :: ';' :: t => '\x27' :: unescape t
  | c :: t => c :: unescape t
  | [] => []

/-- An escaped character is read back, whatever follows it. -/
theorem unescape_escapeChar_append (c : Char) (t : Text) :
    unescape (escapeChar c ++ t) = c :: unescape t := by
  unfold escapeChar
  split
  · subst c; rfl
  split
  · subst c; rfl
  split
  · subst c; rfl
  split
  · subst c; rfl
  split
  · subst c; rfl
  · simp_all [unescape]

/-- Reading back what was escaped gives the same text. -/
theorem unescape_escape (t : Text) : unescape (escape t) = t := by
  induction t with
  | nil => rfl
  | cons c t ih =>
    rw [escape, List.flatMap_cons, unescape_escapeChar_append]
    exact congrArg (c :: ·) ih

/-- An escaped text opens no tag. -/
theorem not_mem_escape (t : Text) : '<' ∉ escape t := by
  intro h
  obtain ⟨c, -, hc⟩ := List.mem_flatMap.1 h
  unfold escapeChar at hc
  split at hc
  · exact absurd hc (by decide)
  split at hc
  · exact absurd hc (by decide)
  split at hc
  · exact absurd hc (by decide)
  split at hc
  · exact absurd hc (by decide)
  split at hc
  · exact absurd hc (by decide)
  · next hne _ _ _ => exact hne (List.mem_singleton.1 hc).symm

end StaticServer.Text.Html
