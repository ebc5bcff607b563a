import StaticServer.Proofs.CommandLine.Overrides
import StaticServer.Proofs.Settings.Numeral
import StaticServer.Proofs.Settings.Selection

/-!
# Ports by flag and by settings

A port can be given by a flag and, as a text too, among the values of the program or by a variable.
The two ways have readers of their own, and texts that only one of them takes: `1_000.0` is no
number for the flag, and digits of another script are none for settings. But no text is one number
here and another there, and what is shown of a port is read back as that port by both
(`Settings.port_readers_agree`).
-/

namespace StaticServer

/-! ### Settings from texts -/

section

variable {values : Bindings RawValue} {env : Environment} {tree : FileTree} {t text : Text}
  {es : List (Text × Option Text)} {n : Int}

/-- The values of a program are texts. -/
def RawValue.AreTexts (values : Bindings RawValue) : Prop :=
  ∀ e ∈ values, ∃ x, e.2 = .text x

/-- A field is given a text: by the program, or else by the environment. -/
inductive Field.GivesText (f : Field) (values : Bindings RawValue) (env : Environment) (t : Text) :
    Prop
  | program (hvalue : ((Bindings.named f.name values).map Prod.snd).head? = some (.text t))
  | environment (hvalues : Bindings.named f.name values = [])
      (hvariable : ((Bindings.named f.outerName env).map Prod.snd).getLast? = some t)

/-- A text that one source gives is what is selected. -/
theorem Field.GivesText.select_eq {f : Field} (h : f.GivesText values env t) :
    (Sources.plain values env es).select f = some (.text t) := by
  symm
  rw [← Sources.selects_plain_iff]
  cases h with
  | program hvalue => exact .program hvalue
  | environment hvalues hvariable => exact .environment (by rw [hvalues]; rfl) hvariable

/-- Every field but the port takes every text. -/
theorem Field.result_text {f : Field} (hf : f ≠ .port) (x : Text) :
    f.result (some (.text x)) = .ok (.text x) := by
  cases f
  case port => exact absurd rfl hf
  all_goals rfl

/-- What becomes of a text for the port. -/
theorem Field.result_port (t : Text) :
    Field.port.result (some (.text t)) =
      ((Settings.portOfText t).map .integer).mapError (⟨Field.port.name, ·⟩) :=
  rfl

namespace Sources

/-- Where the program gives texts only, no field is given anything else. -/
theorem exists_text_of_select (hvalues : RawValue.AreTexts values) {f : Field} {v : RawValue}
    (h : (plain values env es).select f = some v) : ∃ x, v = .text x := by
  cases selects_plain_iff.2 h.symm with
  | program hvalue =>
    obtain ⟨e, he, rfl⟩ := List.mem_map.1 (List.mem_of_head? hvalue)
    exact hvalues e (List.mem_filter.1 he).1
  | environment => exact ⟨_, rfl⟩
  | file => exact ⟨_, rfl⟩

end Sources

namespace Settings

theorem portOfText_eq_ok_iff : portOfText t = .ok n ↔ Numeral.ofText t = .ok n :=
  mapError_eq_ok_iff

/-- The port of settings is the number that its text gives. -/
theorem exists_port_of_ofValues {s : Settings} (hdefault : SourceOptions.AreDefault values)
    (hread : Dotenv.read tree .null Dotenv.fileName = .ok text)
    (hport : Field.port.GivesText values env t) (h : ofValues values env tree = .ok s) :
    ∃ n, Numeral.ofText t = .ok n ∧ s.port = some n := by
  rw [ofValues_eq_load hdefault hread, mapError_eq_ok_iff, load_eq_ok_iff] at h
  have hresult := h .port
  rw [hport.select_eq, Field.result_port, mapError_eq_ok_iff] at hresult
  obtain ⟨n, hn⟩ := exists_ok_of_map ⟨_, hresult⟩
  refine ⟨n, portOfText_eq_ok_iff.1 hn, ?_⟩
  rw [hn] at hresult
  have hvalue : RawValue.integer n = .ofField .integer s.port := Except.ok.inj hresult
  cases hs : s.port with
  | none =>
    rw [hs] at hvalue
    cases hvalue
  | some m =>
    rw [hs] at hvalue
    exact congrArg some (RawValue.integer.inj hvalue).symm

/-- A number for the port and texts for the other fields give settings. -/
theorem exists_ofValues_of_ofText (hdefault : SourceOptions.AreDefault values)
    (hvalues : RawValue.AreTexts values)
    (hread : Dotenv.read tree .null Dotenv.fileName = .ok text)
    (hport : Field.port.GivesText values env t) (hn : Numeral.ofText t = .ok n) :
    ∃ s, ofValues values env tree = .ok s := by
  have hall (f : Field) :
      ∃ v, f.result ((Sources.plain values env (Dotenv.given env text)).select f) = .ok v := by
    by_cases hf : f = .port
    · rw [hf, hport.select_eq, Field.result_port, portOfText_eq_ok_iff.2 hn]
      exact ⟨_, rfl⟩
    · rcases hselect : (Sources.plain values env (Dotenv.given env text)).select f with - | v
      · exact ⟨_, rfl⟩
      · obtain ⟨x, rfl⟩ := Sources.exists_text_of_select hvalues hselect
        exact ⟨_, Field.result_text hf x⟩
  rcases load_cases (Sources.plain values env (Dotenv.given env text)) with ⟨s, hs, -⟩ | ⟨-, hne⟩
  · refine ⟨s, ?_⟩
    rw [ofValues_eq_load hdefault hread, hs]
    rfl
  · exact absurd (details_eq_nil_iff.2 hall) hne

end Settings

end

/-! ### The flag -/

namespace CommandLine

variable {t : Text} {n : Int}

theorem parse_port (t : Text) :
    parse ["--port=" ++ t] = (portFlag t).map fun flag ↦ { port := flag } :=
  parse_glued "--port" rfl (by decide) t

theorem toInt?_hyphens : Text.toInt? "--" = none := by
  decide

/-- A text that is an integer is taken as the port. -/
theorem parse_port_of_toInt? (h : Text.toInt? t = some n) :
    parse ["--port=" ++ t] = .ok { port := .given n } := by
  have ht : t ≠ "--" := by
    rintro rfl
    rw [toInt?_hyphens] at h
    cases h
  rw [parse_port, portFlag, if_neg ht, h]
  rfl

/-- A flag takes a number, or two hyphens leave the field blank. -/
theorem cases_of_parse_port {f : Flags} (h : parse ["--port=" ++ t] = .ok f) :
    t = "--" ∨ ∃ n, Text.toInt? t = some n ∧ f = { port := .given n } := by
  by_cases ht : t = "--"
  · exact .inl ht
  right
  rw [parse_port, portFlag, if_neg ht] at h
  cases hn : Text.toInt? t with
  | none =>
    rw [hn] at h
    cases h
  | some n =>
    rw [hn] at h
    exact ⟨n, rfl, (Except.ok.inj h).symm⟩

end CommandLine

/-! ### Both readers -/

namespace Settings

open CommandLine (parse)

/-- Both readers of ports take a text for a number, wherever settings find the text. -/
structure ReadsPort (tree : FileTree) (t : Text) (n : Int) : Prop where
  /-- The flag of the command line has the number. -/
  flag : parse ["--port=" ++ t] = .ok { port := .given n }
  /-- Settings have the number. -/
  settings {values : Bindings RawValue} {env : Environment} :
    SourceOptions.AreDefault values → RawValue.AreTexts values →
      Field.port.GivesText values env t → ∃ s, ofValues values env tree = .ok s ∧ s.port = some n

variable {tree : FileTree} {text : Text}

/-- What is written of an integer is taken for it by both readers. -/
theorem readsPort_ofInt (hread : Dotenv.read tree .null Dotenv.fileName = .ok text) {n : Int}
    (h : (Text.ofInt n).length ≤ Text.digitLimit) : ReadsPort tree (Text.ofInt n) n where
  flag := CommandLine.parse_port_of_toInt? (Text.toInt?_ofInt h)
  settings hdefault hvalues hport := by
    have hn := Numeral.ofText_ofInt h
    obtain ⟨s, hs⟩ := exists_ofValues_of_ofText hdefault hvalues hread hport hn
    obtain ⟨m, hm, hsm⟩ := exists_port_of_ofValues hdefault hread hport hs
    rw [hn] at hm
    cases hm
    exact ⟨s, hs, hsm⟩

/-- **The two readers of ports agree.** Where the command line and the settings both take a text for
the port, they take it for the same number. And what is written of an integer, if it is not too
long, is taken for that integer by both; it is what stands behind the colon in the address for a
browser, so that the port is read back from there. -/
theorem port_readers_agree (hread : Dotenv.read tree .null Dotenv.fileName = .ok text) :
    (∀ t values env f s, SourceOptions.AreDefault values → Field.port.GivesText values env t →
      parse ["--port=" ++ t] = .ok f → ofValues values env tree = .ok s →
        ∃ n, f = { port := .given n } ∧ s.port = some n) ∧
    ∀ n : Int, (Text.ofInt n).length ≤ Text.digitLimit →
      ReadsPort tree (Text.ofInt n) n ∧
      ∀ s : Settings, s.port = some n →
        s.localUrl = "http://localhost:" ++ Text.ofInt n ∧
        ∀ t, s.localUrl = "http://localhost:" ++ t → ReadsPort tree t n := by
  refine ⟨fun t values env f s hdefault hport hparse hs ↦ ?_, fun n hn ↦ ?_⟩
  · obtain ⟨m, hm, hsm⟩ := exists_port_of_ofValues hdefault hread hport hs
    rcases CommandLine.cases_of_parse_port hparse with rfl | ⟨n, hn, rfl⟩
    · exact nomatch hm
    · rw [Numeral.eq_of_ofText_of_toInt? hm hn] at hsm
      exact ⟨n, rfl, hsm⟩
  · have hreads := readsPort_ofInt hread hn
    refine ⟨hreads, fun s hs ↦ ?_⟩
    have hurl : s.localUrl = "http://localhost:" ++ Text.ofInt n := by
      rw [localUrl, shownPort, hs]
      rfl
    refine ⟨hurl, fun t ht ↦ ?_⟩
    obtain rfl := List.append_cancel_left (hurl.symm.trans ht)
    exact hreads

/-- A number with white space around it, a sign, a zero in front and an underscore. -/
def spacedPort : Text :=
  "\t+0_80 "

/-- Variables with a negative port. -/
def negativeEnvironment : Environment :=
  [("DEVSERVER_HOST", "--"), ("devserver_Port", "-7070")]

/-- The case of a port with white space, a sign and an underscore, given next to a settings file
that names the port three times. -/
theorem port_readers_agree_spelledTree :
    Dotenv.read spelledTree .null Dotenv.fileName = .ok spelledText ∧
    (∃ s, ofValues [("port", .text spacedPort)] [] spelledTree = .ok s ∧
      ∃ n, ({ port := .given 80 } : Flags) = { port := .given n } ∧ s.port = some n) ∧
    ReadsPort spelledTree "-7070" (-7070) ∧
    (∃ s, ofValues [] negativeEnvironment spelledTree = .ok s ∧ s.port = some (-7070) ∧
      s.localUrl = "http://localhost:" ++ Text.ofInt (-7070)) := by
  have hread : Dotenv.read spelledTree .null Dotenv.fileName = .ok spelledText :=
    Dotenv.read_of_encode (p := [Dotenv.fileName]) rfl rfl rfl
  obtain ⟨hagree, hwritten⟩ := port_readers_agree hread
  obtain ⟨hreads, hshown⟩ := hwritten (-7070) (by decide)
  have hnothing : SourceOptions.AreDefault [] := by decide +kernel
  have hnegative : Field.port.GivesText [] negativeEnvironment "-7070" :=
    .environment rfl (by decide +kernel)
  obtain ⟨s, hs, hport⟩ := hreads.settings hnothing nofun hnegative
  refine ⟨hread, ⟨{ port := some 80 }, by decide +kernel, ?_⟩, hreads, s, hs, hport,
    (hshown s hport).1⟩
  exact hagree spacedPort [("port", .text spacedPort)] [] _ _ (by decide +kernel)
    (.program (by decide +kernel)) (by decide +kernel) (by decide +kernel)

end Settings

end StaticServer
