import Mathlib.Data.List.Basic
import StaticServer.CommandLine.Parse

/-!
# Flags one behind another

Flags can be put one behind another, and then a later flag wins over an earlier one of the same
option (`Flags.followedBy`). Settings take such flags as they take the earlier ones first and the
later ones then (`Flags.apply_followedBy`).

Reading a command line is compatible with that: behind arguments that give flags, further arguments
are read as they are read alone (`CommandLine.parse_append`). The boundary between the two never
matters, because arguments that give flags have no separator among them, leave no option without its
value, and leave nothing over. `CommandLine.overrides_compose` says what that means for settings,
and what one argument with a value glued to its option does.
-/

namespace StaticServer

/-! ### Flags behind flags -/

/-- A flag with a later one of the same option behind it, which counts when it was given. -/
def Flag.followedBy {α : Type} (f : Flag α) : Flag α → Flag α
  | .absent => f
  | .blank => .blank
  | .given value => .given value

/-- A flag that is given wins over the one before it. -/
theorem Flag.followedBy_of_ne {α : Type} (f : Flag α) {g : Flag α} (h : g ≠ .absent) :
    f.followedBy g = g := by
  cases g with
  | absent => exact absurd rfl h
  | blank => rfl
  | given value => rfl

/-- A flag behind another one is put over a field as one after the other. -/
theorem Flag.over_followedBy {α : Type} (field : Option α) (f g : Flag α) :
    (f.followedBy g).over field = g.over (f.over field) := by
  cases g <;> rfl

namespace Flags

/-- Flags with later ones behind them. -/
def followedBy (f g : Flags) : Flags where
  directory := f.directory.followedBy g.directory
  host := f.host.followedBy g.host
  port := f.port.followedBy g.port
  logLevel := f.logLevel.followedBy g.logLevel

@[simp] theorem followedBy_nothing (f : Flags) : f.followedBy {} = f :=
  rfl

/-- **Later flags override what earlier ones have made of settings.** -/
theorem apply_followedBy (f g : Flags) (s : Settings) :
    (f.followedBy g).apply s = g.apply (f.apply s) := by
  simp only [apply, followedBy, Flag.over_followedBy]

/-- Flags say nothing about the field that an option is for. -/
def Leaves (f : Flags) : CommandLine.Target → Prop
  | .help => True
  | .directory => f.directory = .absent
  | .host => f.host = .absent
  | .port => f.port = .absent
  | .logLevel => f.logLevel = .absent

theorem leaves_nothing (target : CommandLine.Target) : Flags.Leaves {} target := by
  cases target with
  | help => trivial
  | directory | host | port | logLevel => rfl

end Flags

/-- Settings have the same in the field that an option is for. -/
def Settings.Agree (s s' : Settings) : CommandLine.Target → Prop
  | .help => True
  | .directory => s.directory = s'.directory
  | .host => s.host = s'.host
  | .port => s.port = s'.port
  | .logLevel => s.logLevel = s'.logLevel

/-- Flags that say nothing about a field leave it as it is. -/
theorem Flags.Leaves.apply {f : Flags} {target : CommandLine.Target} (h : f.Leaves target)
    (s : Settings) : (f.apply s).Agree s target := by
  cases target with
  | help => trivial
  | directory => exact congrArg (Flag.over s.directory) h
  | host => exact congrArg (Flag.over s.host) h
  | port => exact congrArg (Flag.over s.port) h
  | logLevel => exact congrArg (Flag.over s.logLevel) h

namespace CommandLine

/-! ### One value -/

theorem textFlag_ne_absent (value : Text) : textFlag value ≠ .absent := by
  rw [textFlag]
  split <;> exact nofun

theorem ne_absent_of_portFlag {value : Text} {flag : Flag Int} (h : portFlag value = .ok flag) :
    flag ≠ .absent := by
  rw [portFlag] at h
  split at h
  · exact Except.ok.inj h ▸ nofun
  · split at h
    · exact Except.ok.inj h ▸ nofun
    · cases h

/-- A value sets its flag alike whatever flags there are, and wins over an earlier one. -/
theorem setFlag_followedBy (f g : Flags) (target : Target) (value : Text) :
    setFlag (f.followedBy g) target value = (setFlag g target value).map f.followedBy := by
  cases target with
  | help => rfl
  | port =>
    simp only [setFlag]
    rcases hflag : portFlag value with stop | flag
    · rfl
    · have hlater := f.port.followedBy_of_ne (ne_absent_of_portFlag hflag)
      simp [Except.map, Flags.followedBy, hlater]
  | directory | host | logLevel =>
    simp [setFlag, Except.map, Flags.followedBy, Flag.followedBy_of_ne _ (textFlag_ne_absent value)]

/-- A value says nothing about the fields that its option is not for. -/
theorem leaves_setFlag {f g : Flags} {target other : Target} {value : Text}
    (h : f.Leaves target) (hset : setFlag f other value = .ok g) (hne : other ≠ target) :
    g.Leaves target := by
  cases other with
  | help => cases hset
  | port =>
    rcases hflag : portFlag value with stop | flag
    · rw [CommandLine.setFlag, hflag] at hset
      cases hset
    · rw [CommandLine.setFlag, hflag] at hset
      obtain rfl := Except.ok.inj hset
      cases target <;> simp_all [Flags.Leaves]
  | directory | host | logLevel =>
    obtain rfl := Except.ok.inj hset
    cases target <;> simp_all [Flags.Leaves]

/-! ### Taking options -/

section

variable {f g : Flags} {written argument value : Text} {target : Target} {rest : List Token}

/-- A value that is glued to its option is taken with it. -/
theorem take_glued (htarget : target ≠ .help) :
    take f (.option written target (some value) :: rest) =
      (setFlag f target value >>= fun f ↦ take f rest) := by
  rw [take]
  exact htarget

/-- An option without such a value takes the next argument, if that is a value. -/
theorem take_next (htarget : target ≠ .help) :
    take f (.option written target none :: .value value :: rest) =
      (setFlag f target value >>= fun f ↦ take f rest) := by
  rw [take]
  exact htarget

/-- Otherwise there is no value for it. -/
theorem take_missing (htarget : target ≠ .help)
    (hrest : ∀ value more, rest ≠ .value value :: more) :
    take f (.option written target none :: rest) = .error (.usage (.missingValue target)) := by
  rw [take]
  · exact htarget
  · exact hrest

theorem exists_of_withExtra {result : Except Stop (Flags × List Text)} {extra : List Text}
    (h : withExtra argument result = .ok (f, extra)) :
    ∃ more, result = .ok (f, more) ∧ extra = argument :: more := by
  rcases result with stop | ⟨g, more⟩
  · cases h
  · cases h
    exact ⟨more, rfl, rfl⟩

theorem withExtra_ne_nil {result : Except Stop (Flags × List Text)} :
    withExtra argument result ≠ .ok (f, []) := by
  intro h
  obtain ⟨more, -, hextra⟩ := exists_of_withExtra h
  cases hextra

theorem withExtra_map (change : Flags → Flags) (result : Except Stop (Flags × List Text)) :
    withExtra argument (result.map (Prod.map change id)) =
      (withExtra argument result).map (Prod.map change id) := by
  rcases result with stop | ⟨f, extra⟩
  · rfl
  · rfl

/-- The options behind a value are taken with the flag that the value gives. -/
theorem exists_of_bind_setFlag {result : Flags × List Text}
    (h : (setFlag f target value >>= fun f ↦ take f rest) = .ok result) :
    ∃ g, setFlag f target value = .ok g ∧ take g rest = .ok result := by
  rcases hset : setFlag f target value with stop | g
  · rw [hset] at h
    cases h
  · rw [hset] at h
    exact ⟨g, rfl, h⟩

/-- If the options behind a value are taken alike whatever flags there are, so are they with the
value. -/
theorem bind_setFlag_followedBy
    (hrest : ∀ g, take (f.followedBy g) rest = (take g rest).map (Prod.map f.followedBy id)) :
    (setFlag (f.followedBy g) target value >>= fun g ↦ take g rest) =
      (setFlag g target value >>= fun g ↦ take g rest).map (Prod.map f.followedBy id) := by
  rw [setFlag_followedBy]
  rcases setFlag g target value with stop | g'
  · rfl
  · exact hrest g'

end

/-- **Options are taken alike whatever flags there are**, and what they give wins over those. -/
theorem take_followedBy (f g : Flags) (ts : List Token) :
    take (f.followedBy g) ts = (take g ts).map (Prod.map f.followedBy id) := by
  fun_induction take g ts with
  | case1 g => rfl
  | case2 g written glued rest => rfl
  | case3 g written target value rest htarget ih =>
    rw [take_glued htarget, bind_setFlag_followedBy ih]
  | case4 g written target value rest htarget ih =>
    rw [take_next htarget, bind_setFlag_followedBy ih]
  | case5 g written target rest htarget hnone =>
    rw [take_missing htarget hnone]
    rfl
  | case6 g argument rest ih => rw [take, ih, withExtra_map]
  | case7 g rest ih => rw [take, ih, withExtra_map]
  | case8 g argument rest ih => rw [take, ih, withExtra_map]

/-- **Behind options that leave nothing over, further ones are taken as if they came first.** -/
theorem take_append {f g : Flags} {ts : List Token} (h : take f ts = .ok (g, []))
    (us : List Token) : take f (ts ++ us) = take g us := by
  fun_induction take f ts with
  | case1 f =>
    obtain ⟨rfl, -⟩ := Prod.mk.inj (Except.ok.inj h)
    rfl
  | case2 f written glued rest => cases h
  | case3 f written target value rest htarget ih =>
    obtain ⟨f', hset, hrest⟩ := exists_of_bind_setFlag h
    rw [List.cons_append, take_glued htarget, hset]
    exact ih f' hrest
  | case4 f written target value rest htarget ih =>
    obtain ⟨f', hset, hrest⟩ := exists_of_bind_setFlag h
    rw [List.cons_append, List.cons_append, take_next htarget, hset]
    exact ih f' hrest
  | case5 f written target rest htarget hnone => cases h
  | case6 f argument rest ih => exact absurd h withExtra_ne_nil
  | case7 f rest ih => exact absurd h withExtra_ne_nil
  | case8 f argument rest ih => exact absurd h withExtra_ne_nil

/-- A separator is left over. -/
theorem separator_not_mem_of_take {f g : Flags} {ts : List Token} (h : take f ts = .ok (g, [])) :
    .separator ∉ ts := by
  fun_induction take f ts with
  | case1 f => exact List.not_mem_nil
  | case2 f written glued rest => cases h
  | case3 f written target value rest htarget ih =>
    obtain ⟨f', -, hrest⟩ := exists_of_bind_setFlag h
    simpa using ih f' hrest
  | case4 f written target value rest htarget ih =>
    obtain ⟨f', -, hrest⟩ := exists_of_bind_setFlag h
    simpa using ih f' hrest
  | case5 f written target rest htarget hnone => cases h
  | case6 f argument rest ih => exact absurd h withExtra_ne_nil
  | case7 f rest ih => exact absurd h withExtra_ne_nil
  | case8 f argument rest ih => exact absurd h withExtra_ne_nil

/-- Options say nothing about the fields that none of them is for. -/
theorem leaves_take {f g : Flags} {target : Target} {ts : List Token} {extra : List Text}
    (h : f.Leaves target) (htake : take f ts = .ok (g, extra))
    (hts : ∀ written glued, .option written target glued ∉ ts) : g.Leaves target := by
  fun_induction CommandLine.take f ts generalizing extra with
  | case1 f =>
    obtain ⟨rfl, -⟩ := Prod.mk.inj (Except.ok.inj htake)
    exact h
  | case2 f written glued rest => cases htake
  | case3 f written other value rest hother ih =>
    obtain ⟨f', hset, hrest⟩ := exists_of_bind_setFlag htake
    have hne : other ≠ target := by
      rintro rfl
      exact hts written (some value) List.mem_cons_self
    exact ih f' (leaves_setFlag h hset hne) hrest fun written glued hmem ↦
      hts written glued (List.mem_cons_of_mem _ hmem)
  | case4 f written other value rest hother ih =>
    obtain ⟨f', hset, hrest⟩ := exists_of_bind_setFlag htake
    have hne : other ≠ target := by
      rintro rfl
      exact hts written none List.mem_cons_self
    exact ih f' (leaves_setFlag h hset hne) hrest fun written glued hmem ↦
      hts written glued (List.mem_cons_of_mem _ (List.mem_cons_of_mem _ hmem))
  | case5 f written other rest hother hnone => cases htake
  | case6 f argument rest ih | case7 f rest ih | case8 f argument rest ih =>
    obtain ⟨more, hrest, -⟩ := exists_of_withExtra htake
    exact ih h hrest fun written glued hmem ↦ hts written glued (List.mem_cons_of_mem _ hmem)

/-! ### Telling options from values -/

/-- Arguments without a separator are told apart alike, whatever follows them. -/
theorem tokens_append {a : List Text} (h : ("--" : Text) ∉ a) (b : List Text) :
    tokens (a ++ b) = (do
      let ts ← tokens a
      let us ← tokens b
      .ok (ts ++ us)) := by
  induction a with
  | nil =>
    rw [List.nil_append]
    rcases tokens b with stop | us <;> rfl
  | cons argument a ih =>
    have hargument : argument ≠ "--" := fun heq ↦ h (heq ▸ List.mem_cons_self)
    rw [List.cons_append, tokens, if_neg hargument, tokens, if_neg hargument,
      ih fun hmem ↦ h (List.mem_cons_of_mem argument hmem)]
    rcases classify argument with stop | token
    · rfl
    rcases tokens a with stop | ts
    · rfl
    rcases tokens b with stop | us <;> rfl

theorem separator_mem_of_tokens {a : List Text} {ts : List Token} (h : tokens a = .ok ts)
    (hmem : ("--" : Text) ∈ a) : .separator ∈ ts := by
  induction a generalizing ts with
  | nil => cases hmem
  | cons argument a ih =>
    rw [tokens] at h
    split at h
    · obtain rfl := Except.ok.inj h
      exact List.mem_cons_self
    · next hargument =>
      rcases hclass : classify argument with stop | token
      · rw [hclass] at h
        cases h
      rcases hrest : tokens a with stop | us
      · rw [hclass, hrest] at h
        cases h
      rw [hclass, hrest] at h
      obtain rfl := Except.ok.inj h
      exact List.mem_cons_of_mem token
        (ih hrest ((List.mem_cons.1 hmem).resolve_left (Ne.symm hargument)))

/-! ### A whole command line -/

/-- A command line gives flags exactly if its options do and nothing is left over. -/
theorem parse_eq_ok_iff {a : List Text} {f : Flags} :
    parse a = .ok f ↔ ∃ ts, tokens a = .ok ts ∧ take {} ts = .ok (f, []) := by
  rw [parse]
  rcases tokens a with stop | ts
  · exact iff_of_false nofun (by simp)
  show (take {} ts >>= _) = _ ↔ _
  rcases htake : take {} ts with stop | ⟨g, - | ⟨argument, extra⟩⟩
  · exact iff_of_false nofun (by simp [htake])
  · simp [htake, bind, Except.bind]
  · exact iff_of_false nofun (by simp [htake])

/-- **Behind arguments that give flags, further ones are read as they are read alone**, and what
they give wins. -/
theorem parse_append {a : List Text} {f : Flags} (h : parse a = .ok f) (b : List Text) :
    parse (a ++ b) = (parse b).map f.followedBy := by
  obtain ⟨ts, hts, htake⟩ := parse_eq_ok_iff.1 h
  have hseparator : ("--" : Text) ∉ a := fun hmem ↦
    separator_not_mem_of_take htake (separator_mem_of_tokens hts hmem)
  rw [parse, tokens_append hseparator, hts, parse]
  rcases tokens b with stop | us
  · rfl
  have hus : take {} (ts ++ us) = (take {} us).map (Prod.map f.followedBy id) := by
    rw [take_append htake, ← take_followedBy, f.followedBy_nothing]
  show (take {} (ts ++ us) >>= _) = Except.map _ (take {} us >>= _)
  rw [hus]
  rcases take {} us with stop | ⟨g, - | ⟨extra, more⟩⟩
  · rfl
  · rfl
  · rfl

/-! ### One argument with a value glued to its option -/

/-- An option starts with a hyphen, is longer than that, and holds no equals sign. -/
theorem isOption_of_lookup {written : Text} {target : Target}
    (h : options.lookup written = some target) :
    (∃ c rest, written = '-' :: c :: rest) ∧ '=' ∉ written := by
  have hall : ∀ o ∈ options, (∃ c rest, o.1 = '-' :: c :: rest) ∧ '=' ∉ o.1 := by
    simp [options, Target.all, Target.spellings]
  obtain ⟨front, back, heq, -⟩ := List.lookup_eq_some_iff.1 h
  have hmem : (written, target) ∈ options := heq ▸ List.mem_append_right front List.mem_cons_self
  exact hall _ hmem

/-- What holds an equals sign is no option as it stands. -/
theorem lookup_options_of_mem {argument : Text} (h : '=' ∈ argument) :
    options.lookup argument = none := by
  rcases hlookup : options.lookup argument with - | target
  · rfl
  · exact absurd h (isOption_of_lookup hlookup).2

/-- **A value glued to an option behind an equals sign** is read as it stands, whatever it is. -/
theorem parse_glued (written : Text) {target : Target} (h : options.lookup written = some target)
    (htarget : target ≠ .help) (value : Text) :
    parse [written ++ '=' :: value] = setFlag {} target value := by
  obtain ⟨⟨c, rest, hwritten⟩, hequals⟩ := isOption_of_lookup h
  have hmem : '=' ∈ written ++ '=' :: value := List.mem_append_right written List.mem_cons_self
  have hseparator : written ++ '=' :: value ≠ "--" := by
    intro heq
    rw [heq] at hmem
    exact absurd hmem (by decide)
  have hclass : classify (written ++ '=' :: value) = .ok (.option written target (some value)) := by
    have hhyphen : classify (written ++ '=' :: value) =
        classifyHyphenated (written ++ '=' :: value) := by
      rw [hwritten]
      rfl
    rw [hhyphen, classifyHyphenated, lookup_options_of_mem hmem, Text.cut_append hequals]
    simp only [h]
  have htokens : tokens [written ++ '=' :: value] = .ok [.option written target (some value)] := by
    rw [tokens, if_neg hseparator, hclass]
    rfl
  rw [parse, htokens]
  show (take {} [.option written target (some value)] >>= _) = _
  rw [take_glued htarget]
  rcases setFlag {} target value with stop | f <;> rfl

/-- A command line sets fields in a way: it gives flags, and these change settings in that way. -/
def Sets (arguments : List Text) (change : Settings → Settings) : Prop :=
  ∃ f, parse arguments = .ok f ∧ ∀ s, f.apply s = change s

/-- An option for a target stands among some arguments. -/
def Names (arguments : List Text) (target : Target) : Prop :=
  ∃ ts written glued, tokens arguments = .ok ts ∧ .option written target glued ∈ ts

/-- **Overrides compose.** Behind arguments that give flags, further arguments stop the reading
exactly if they stop it alone, for the same reason; otherwise settings become what the further
ones make of what the first ones make of them. Flags leave the name, the version and every field
alone that no option among the arguments is for. And a value glued to a long option sets exactly
its field, to that text or to the number that it is; a port that is no number is an error with
status 2. -/
theorem overrides_compose :
    (∀ a b f, parse a = .ok f →
      (∀ stop, parse (a ++ b) = .error stop ↔ parse b = .error stop) ∧
      ∀ g, parse b = .ok g → Sets (a ++ b) fun s ↦ g.apply (f.apply s)) ∧
    (∀ a f, parse a = .ok f → ∀ s,
      (f.apply s).projectName = s.projectName ∧ (f.apply s).version = s.version ∧
      ∀ target, ¬ Names a target → (f.apply s).Agree s target) ∧
    ∀ v : Text, v ≠ "--" →
      Sets ["--directory=" ++ v] (fun s ↦ { s with directory := some v }) ∧
      Sets ["--host=" ++ v] (fun s ↦ { s with host := some v }) ∧
      Sets ["--log-level=" ++ v] (fun s ↦ { s with logLevel := some v }) ∧
      (∀ n, Text.toInt? v = some n →
        Sets ["--port=" ++ v] fun s ↦ { s with port := some n }) ∧
      (Text.toInt? v = none → ∃ stop, parse ["--port=" ++ v] = .error stop ∧ stop.status = 2) := by
  refine ⟨fun a b f ha ↦ ⟨fun stop ↦ ?_, fun g hg ↦ ?_⟩, fun a f ha s ↦ ⟨rfl, rfl, ?_⟩,
    fun v hv ↦ ?_⟩
  · rw [parse_append ha]
    rcases parse b with stop' | g
    · exact Iff.rfl
    · exact iff_of_false nofun nofun
  · refine ⟨f.followedBy g, ?_, f.apply_followedBy g⟩
    rw [parse_append ha, hg]
    rfl
  · intro target hnot
    obtain ⟨ts, hts, htake⟩ := parse_eq_ok_iff.1 ha
    have hleaves := leaves_take (Flags.leaves_nothing target) htake fun written glued hmem ↦
      hnot ⟨ts, written, glued, hts, hmem⟩
    exact hleaves.apply s
  · have htext : textFlag v = .given v := if_neg hv
    have hport : parse ["--port=" ++ v] = (portFlag v).map fun flag ↦ { port := flag } :=
      parse_glued "--port" rfl (by decide) v
    rw [portFlag, if_neg hv] at hport
    refine ⟨⟨{ directory := .given v }, ?_, fun s ↦ rfl⟩, ⟨{ host := .given v }, ?_, fun s ↦ rfl⟩,
      ⟨{ logLevel := .given v }, ?_, fun s ↦ rfl⟩, fun n hn ↦ ?_, fun hnone ↦ ?_⟩
    · rw [← htext]
      exact parse_glued "--directory" rfl (by decide) v
    · rw [← htext]
      exact parse_glued "--host" rfl (by decide) v
    · rw [← htext]
      exact parse_glued "--log-level" rfl (by decide) v
    · rw [hn] at hport
      exact ⟨{ port := .given n }, hport, fun s ↦ rfl⟩
    · rw [hnone] at hport
      exact ⟨_, hport, rfl⟩

theorem overrides_compose_twoPorts :
    parse ["-p", "1", "--host="] = .ok { host := .given [], port := .given 1 } ∧
    parse ["--po", "2", "-dx"] = .ok { directory := .given "x", port := .given 2 } ∧
    Sets ["-p", "1", "--host=", "--po", "2", "-dx"]
      (fun s ↦ { s with directory := some "x", host := some [], port := some 2 }) ∧
    parse ["-p", "1", "--host=", "--port"] = .error (.usage (.missingValue .port)) ∧
    Sets ["--directory=-h"] (fun s ↦ { s with directory := some "-h" }) ∧
    ∃ stop, parse ["--port=ten"] = .error stop ∧ stop.status = 2 := by
  have ha : parse ["-p", "1", "--host="] = .ok { host := .given [], port := .given 1 } := by decide
  have hb : parse ["--po", "2", "-dx"] = .ok { directory := .given "x", port := .given 2 } := by
    decide
  obtain ⟨hcompose, -, hone⟩ := overrides_compose
  refine ⟨ha, hb, (hcompose _ _ _ ha).2 _ hb, ((hcompose _ _ _ ha).1 _).2 (by decide),
    (hone "-h" (by decide)).1, (hone "ten" (by decide)).2.2.2.2 (by decide)⟩

end CommandLine

end StaticServer
