import StaticServer.Proofs.Settings.Selection
import StaticServer.Proofs.Settings.Writing
import StaticServer.Proofs.Text.LetterCase

/-!
# Settings by variables and by a file

It makes no difference whether fields are given their texts by variables of the environment or by
the lines of a settings file (`Settings.ofValues_file_eq_environment`): a variable is taken as it
is, and a line between apostrophes is read back as it was before. So every field has the same text
selected for it (`Sources.select_file_eq_environment`), and with it the same value or the same
fault.
-/

namespace StaticServer

/-! ### The names of fields in any letter case -/

namespace Field

/-- A text is the name of a field outside the program, in any letter case. -/
def Spells (f : Field) (n : Text) : Prop :=
  Text.asciiLower n = f.outerName

instance (f : Field) (n : Text) : Decidable (f.Spells n) :=
  inferInstanceAs (Decidable (Text.asciiLower n = f.outerName))

/-- The characters of the names of fields, in lower case. -/
def nameChars : Text :=
  "abcdefghijklmnopqrstuvwxyz_"

variable {f : Field} {n : Text} {c : Char}

theorem mem_nameChars (h : c ∈ f.outerName) : c ∈ nameChars := by
  have hall : f.outerName.all (· ∈ nameChars) = true := by cases f <;> decide
  exact of_decide_eq_true (List.all_eq_true.1 hall c h)

/-- Only letters of ASCII and the low line have such a character for their lower-case form. -/
theorem isAscii_of_toLower (h : c.toLower ∈ nameChars) : c.toNat < 128 := by
  have hlower : c.toLower = c ∨ c.toNat ≤ 90 := by
    by_cases hc : 'A'.val ≤ c.val ∧ c.val ≤ 'Z'.val
    · exact .inr (UInt32.le_iff_toNat_le.1 hc.2)
    · exact .inl (dif_neg hc)
  rcases hlower with heq | hle
  · have hall : nameChars.all (·.toNat < 128) = true := by decide
    exact of_decide_eq_true (List.all_eq_true.1 hall c (heq ▸ h))
  · omega

/-- A character of such a name can be written without quotation marks, whatever its letter case. -/
theorem isNameChar_of_toLower (h : c.toLower ∈ nameChars) :
    Dotenv.isNameChar c = true ∧ c ≠ '\x27' := by
  have hall : ∀ i < 128, (Char.ofNat i).toLower ∈ nameChars →
      Dotenv.isNameChar (Char.ofNat i) = true ∧ Char.ofNat i ≠ '\x27' := by decide +kernel
  have hc := hall c.toNat (isAscii_of_toLower h)
  rw [Char.ofNat_toNat] at hc
  exact hc h

namespace Spells

theorem toLower_mem (h : f.Spells n) (hc : c ∈ n) : c.toLower ∈ nameChars := by
  refine mem_nameChars (f := f) ?_
  rw [← h]
  exact List.mem_map_of_mem hc

theorem lower_eq (h : f.Spells n) : Text.lower n = f.outerName := by
  rw [Text.lower_of_isAscii fun c hc ↦ isAscii_of_toLower (h.toLower_mem hc)]
  exact h

theorem isName (h : f.Spells n) : Dotenv.IsName n where
  ne_nil := by
    rintro rfl
    cases f <;> exact absurd h (by decide)
  nameChars c hc := (isNameChar_of_toLower (h.toLower_mem hc)).1
  apostrophe hc := (isNameChar_of_toLower (h.toLower_mem hc)).2 rfl
  mark hc := absurd (isAscii_of_toLower (h.toLower_mem hc)) (by decide)

end Spells

end Field

/-! ### What is selected -/

/-- Names with texts give some fields their texts: each of these fields once, whatever the letter
case of its name, and the other fields not at all. -/
def Field.Assigns (texts : Field → Option Text) (es : List (Text × Text)) : Prop :=
  ∀ f : Field, (Bindings.named f.outerName es).map Prod.snd = (texts f).toList

namespace Dotenv

/-- A value that a settings file gives as it stands between apostrophes. -/
structure IsVerbatim (t : Text) : Prop extends IsLiteral t where
  /-- No reference starts in it. -/
  reference : ¬("$\x7b" : Text) <:+: t

/-- The settings file of a tree holds a text. -/
def Holds (t : FileTree) (text : Text) : Prop :=
  ∃ p data, t.resolve fileName = .ok p ∧ t.get? p = some (.file data) ∧
    data.content = Text.Utf8.encode text

end Dotenv

section Assigned

open StaticServer.Field Dotenv

variable {texts : Field → Option Text} {lines : List (Text × Text)} {text : Text}

theorem Field.Assigns.text_of_mem (h : Assigns texts lines) {f : Field} {e : Text × Text}
    (he : e ∈ Bindings.named f.outerName lines) : texts f = some e.2 := by
  have hmem : e.2 ∈ (texts f).toList := h f ▸ List.mem_map_of_mem he
  exact Option.mem_toList.1 hmem

/-- The lines for fields can be written. -/
theorem Field.Assigns.canWrite (h : Assigns texts lines)
    (htexts : ∀ f x, texts f = some x → IsVerbatim x)
    (hnames : ∀ e ∈ lines, ∃ f : Field, f.Spells e.1) : CanWrite lines := by
  intro e he
  obtain ⟨f, hf⟩ := hnames e he
  have hnamed : e ∈ Bindings.named f.outerName lines :=
    List.mem_filter.2 ⟨he, decide_eq_true hf.lower_eq⟩
  exact ⟨hf.isName, (htexts f e.2 (h.text_of_mem hnamed)).toIsLiteral⟩

/-- A settings file gives the fields what its lines say. -/
theorem named_given_of_isWritten (h : Assigns texts lines)
    (htexts : ∀ f x, texts f = some x → IsVerbatim x)
    (hnames : ∀ e ∈ lines, ∃ f : Field, f.Spells e.1) (hwritten : IsWritten lines text)
    (env : Environment) (f : Field) :
    Bindings.named f.outerName (given env text) =
      (Bindings.named f.outerName lines).map fun e ↦ (e.1, some e.2) := by
  have hentries : Bindings.named f.outerName (written text) =
      (Bindings.named f.outerName lines).map fun e ↦ (e.1, some e.2) := by
    rw [written_of_isWritten hwritten (h.canWrite htexts hnames), Bindings.named, List.filter_map]
    rfl
  have hplain : ∀ e ∈ Bindings.named f.outerName (written text), IsPlain e.2 := by
    rw [hentries]
    rintro _ hmem t ht
    obtain ⟨e, he, rfl⟩ := List.mem_map.1 hmem
    obtain rfl := Option.some.inj ht
    exact (htexts f e.2 (h.text_of_mem he)).reference
  rw [named_given_of_isPlain hplain, hentries]

/-- **Variables and lines have the same texts selected.** -/
theorem Sources.select_file_eq_environment {values : Bindings RawValue} {env env' : Environment}
    {es es' : List (Text × Option Text)} (henv : Assigns texts env)
    (henv' : Assigns (fun _ ↦ none) env') (hlines : Assigns texts lines) {f : Field}
    (hes : Bindings.named f.outerName es = [])
    (hes' : Bindings.named f.outerName es' =
      (Bindings.named f.outerName lines).map fun e ↦ (e.1, some e.2)) :
    (plain values env' es').select f = (plain values env es).select f := by
  have hselects := Sources.selects_plain_iff.2 (rfl : (plain values env es).select f = _)
  rw [henv f, hes] at hselects
  generalize (plain values env es).select f = selected at hselects
  symm
  rw [← Sources.selects_plain_iff, henv' f, hes']
  cases hselects with
  | program hvalue => exact .program hvalue
  | @environment x hvalues hvariable =>
    have hx : texts f = some x := Option.mem_toList.1 (List.mem_of_getLast? hvariable)
    have hline := hlines f
    rw [hx] at hline
    obtain ⟨e, he, rfl⟩ := List.map_eq_singleton_iff.1 hline
    rw [he]
    refine .file (n := e.1) hvalues rfl ((Bindings.counts_iff_getLast? ?_).2 rfl)
    exact fun e' he' ↦ by rw [List.mem_singleton.1 he']
  | file hvalues htexts hentry => exact nomatch hentry.mem
  | nothing hvalues htexts hentries =>
    have hline := hlines f
    rw [htexts] at hline
    rw [List.map_eq_nil_iff.1 hline]
    exact .nothing hvalues rfl hentries

/-- **It makes no difference whether variables or a settings file give fields their texts**: the
same settings are loaded, or it is told of the same faults. -/
theorem Settings.ofValues_file_eq_environment {values : Bindings RawValue} {env env' : Environment}
    {t t' : FileTree} (hvalues : SourceOptions.AreDefault values)
    (htexts : ∀ f x, texts f = some x → IsVerbatim x) (henv : Assigns texts env)
    (hmissing : t.resolve fileName = .error .missing) (hlines : Assigns texts lines)
    (hnames : ∀ e ∈ lines, ∃ f : Field, f.Spells e.1) (hwritten : IsWritten lines text)
    (hfile : Holds t' text) (henv' : Assigns (fun _ ↦ none) env') :
    ofValues values env' t' = ofValues values env t := by
  have hread : Dotenv.read t .null fileName = .ok [] := by
    rw [Dotenv.read, hmissing]
  obtain ⟨p, data, hresolve, hdata, hcontent⟩ := hfile
  have hread' : Dotenv.read t' .null fileName = .ok text :=
    Dotenv.read_of_encode hresolve hdata hcontent
  rw [ofValues_eq_load hvalues hread, ofValues_eq_load hvalues hread']
  refine congrArg _ (load_congr fun f ↦ ?_)
  exact Sources.select_file_eq_environment henv henv' hlines rfl
    (named_given_of_isWritten hlines htexts hnames hwritten env' f)

end Assigned

namespace Settings

/-- Texts that a careless reader of settings files would break: with a line break, a comment, an
equals sign, quotation marks and blanks at both ends, and without anything. -/
def unquietTexts : Field → Option Text
  | .version => some ""
  | .host => some " a\n#b=\"c\" "
  | .port => some "\t8_0\n"
  | _ => none

/-- Variables with these texts, and one with another name. -/
def unquietEnvironment : Environment :=
  [("DEVSERVER_HOST", " a\n#b=\"c\" "), ("PATH", "/bin"), ("DEVSERVER_PORT", "\t8_0\n"),
    ("DEVSERVER_VERSION", "")]

/-- Lines with these texts, in another order and with names in other letter cases. -/
def unquietLines : List (Text × Text) :=
  [("DevServer_Port", "\t8_0\n"), ("devserver_version", ""), ("DEVSERVER_HOST", " a\n#b=\"c\" ")]

/-- The text of a settings file with these lines, the last one without its line break. -/
def unquietText : Text :=
  "DevServer_Port='\t8_0\n'\ndevserver_version=''\nDEVSERVER_HOST=' a\n#b=\"c\" '"

/-- A tree without a file. -/
def bareTree : FileTree :=
  ⟨[], [], by decide⟩

/-- A tree with that settings file. -/
def unquietTree : FileTree :=
  ⟨[([Dotenv.fileName], .file ⟨Text.Utf8.encode unquietText, 0⟩)], [], by decide⟩

theorem isVerbatim_unquietTexts {f : Field} {x : Text} (h : unquietTexts f = some x) :
    Dotenv.IsVerbatim x := by
  cases f
  case version =>
    cases h
    exact ⟨⟨by decide, by decide, by decide⟩, by decide +kernel⟩
  case host =>
    cases h
    exact ⟨⟨by decide, by decide, by decide⟩, by decide +kernel⟩
  case port =>
    cases h
    exact ⟨⟨by decide, by decide, by decide⟩, by decide +kernel⟩
  all_goals cases h

/-- The text holds these lines. -/
theorem isWritten_unquietText : Dotenv.IsWritten unquietLines unquietText := by
  have htext : unquietText = Dotenv.assignment "DevServer_Port" "\t8_0\n" ++ '\n' ::
      (Dotenv.assignment "devserver_version" "" ++ '\n' ::
        Dotenv.assignment "DEVSERVER_HOST" " a\n#b=\"c\" ") := by decide
  rw [htext]
  exact .line _ _ (.line _ _ (.last _ _))

/-- The case of these texts: the file and the variables both give a host with all that it holds. -/
theorem ofValues_file_eq_environment_unquietTree :
    ((∀ f x, unquietTexts f = some x → Dotenv.IsVerbatim x) ∧
      Field.Assigns unquietTexts unquietEnvironment ∧
      bareTree.resolve Dotenv.fileName = .error .missing ∧
      Field.Assigns unquietTexts unquietLines ∧
      (∀ e ∈ unquietLines, ∃ f : Field, f.Spells e.1) ∧
      Dotenv.IsWritten unquietLines unquietText ∧ Dotenv.Holds unquietTree unquietText ∧
      Field.Assigns (fun _ ↦ none) []) ∧
    ofValues [] [] unquietTree = ofValues [] unquietEnvironment bareTree ∧
    ofValues [] unquietEnvironment bareTree =
      .ok { version := "", host := some " a\n#b=\"c\" ", port := some 80 } := by
  have htexts : ∀ f x, unquietTexts f = some x → Dotenv.IsVerbatim x :=
    fun _ _ ↦ isVerbatim_unquietTexts
  have henv : Field.Assigns unquietTexts unquietEnvironment := by
    intro f
    cases f <;> decide +kernel
  have hmissing : bareTree.resolve Dotenv.fileName = .error .missing := by decide +kernel
  have hlines : Field.Assigns unquietTexts unquietLines := by
    intro f
    cases f <;> decide +kernel
  have hnames : ∀ e ∈ unquietLines, ∃ f : Field, f.Spells e.1 := by
    simp only [unquietLines, List.forall_mem_cons]
    exact ⟨⟨.port, by decide⟩, ⟨.version, by decide⟩, ⟨.host, by decide⟩, nofun⟩
  have hwritten := isWritten_unquietText
  have hfile : Dotenv.Holds unquietTree unquietText :=
    ⟨[Dotenv.fileName], _, rfl, rfl, rfl⟩
  have hnone : Field.Assigns (fun _ ↦ none) [] := fun _ ↦ rfl
  exact ⟨⟨htexts, henv, hmissing, hlines, hnames, hwritten, hfile, hnone⟩,
    ofValues_file_eq_environment (by decide +kernel) htexts henv hmissing hlines hnames hwritten
      hfile hnone,
    by decide +kernel⟩

end Settings

end StaticServer
