import StaticServer.Proofs.Program.Release
import StaticServer.Proofs.Text.LetterCase

/-!
# What the level of logging changes

Two readers take the name of the level from the settings: the loggers look its capitals up among the
names of configuration and take any other name for that of a middle level, while the server knows
six names in lower case and no others. Each may refuse the name, and then the run ends with that
(`Logging.refusal?`, `Server.refusal?`). Otherwise the level changes only what is written: the
application that is created depends on the first refusal alone (`App.setUp_withLevel`), and what a
run does, how it ends and what it responds depends on both (`Server.doings_run`).

The loggers refuse no name that the server knows, in whatever letter case it is written
(`Logging.refusal?_of_knows`), so such names can be exchanged for each other.
`Server.exchangeable_iff` says for any two texts when they can.
-/

namespace StaticServer

/-- Settings with another name for the level. -/
def Settings.withLevel (s : Settings) (name : Text) : Settings :=
  { s with logLevel := some name }

/-! ### The loggers -/

/-- What the loggers refuse a name for, if they do. -/
def Logging.refusal? (name : Text) : Option Logging.NoLevel :=
  otherNames.lookup (name.flatMap Text.capitalAscii)

/-- What configuring refuses a name for does not depend on the state of logging. -/
theorem Logging.configure_refusal (l : Logging) (name : Text) :
    (l.configure name).2 = refusal? name := by
  rw [configure, levelOf, refusal?]
  rcases otherNames.lookup (name.flatMap Text.capitalAscii) with - | v
  · rfl
  · rfl

/-- **The loggers refuse no name that the server knows.** -/
theorem Logging.refusal?_of_knows {name : Text} (h : Server.knows name = true) :
    refusal? name = none := by
  have hall : (Server.levels.all fun known ↦ known.1.all Text.isSmall &&
      (otherNames.lookup (Text.asciiUpper known.1)).isNone) = true := by
    rfl
  obtain ⟨level, hlevel⟩ := Option.isSome_iff_exists.1 h
  obtain ⟨front, back, hlevels, -⟩ := List.lookup_eq_some_iff.1 hlevel
  have hmem : (Text.lower name, level) ∈ Server.levels := by
    rw [hlevels]
    exact List.mem_append_right front List.mem_cons_self
  obtain ⟨hsmall, hlookup⟩ := Bool.and_eq_true_iff.1 (List.all_eq_true.1 hall _ hmem)
  rw [refusal?, Text.flatMap_capitalAscii_of_lower rfl (List.all_eq_true.1 hsmall)]
  exact Option.isNone_iff_eq_none.1 hlookup

/-- **Creating an application**: of the level only the refusal of its name counts. -/
theorem App.setUp_withLevel (c : Circumstances) (t : FileTree) (s : Settings) (name : Text)
    (l : Logging) :
    (App.setUp c t (s.withLevel name) l).2 =
      match Logging.refusal? name with
      | none => App.create c t s
      | some v => .error (.notALevel v) := by
  rw [← l.configure_refusal name]
  show (App.setUp c t { s with logLevel := some name } l).2 = _
  rw [App.setUp]
  dsimp only
  rcases l.configure name with ⟨l', - | v⟩
  · rfl
  · rfl

namespace Server

/-- The name in lower case that the server refuses, if it does. -/
def refusal? (name : Text) : Option Text :=
  if knows name then none else some (Text.lower name)

/-- **Setting the server up**: of the level only the refusal of its name counts for success. -/
theorem prepare_withLevel (env : Environment) (s : Settings) (name : Text) :
    (prepare env (s.withLevel name)).map (fun _ ↦ ()) =
      match refusal? name with
      | none => checkWorkers env
      | some shown => .error (.unknownLevel shown) := by
  have hname : (s.withLevel name).logLevel = some name := rfl
  rw [prepare, refusal?]
  rcases hknows : knows name with - | -
  · rw [levelOf_of_not_knows hname hknows]
    rfl
  · obtain ⟨level, hlevel⟩ := levelOf_of_knows hname hknows
    rw [hlevel]
    rcases checkWorkers env with f | ⟨⟩
    · rfl
    · rfl

/-! ### Runs -/

/-- What a run does: its events, how it ends, and its responses if the serving loop was entered. -/
def Run.doings (r : Run) : List Event × RunEnd × Option (List Response) :=
  (r.events, r.runEnd, r.served.map (·.responses))

/-- What a run does by how its three steps end. -/
def doingsOf (w : World) :
    Except Failure App → List Event × Except Failure Unit → Except Failure Unit →
      List Event × RunEnd × Option (List Response)
  | .error f, _, _ => ([], .failed f, none)
  | .ok _, (events, .error f), _ => (events, .failed f, none)
  | .ok _, (events, .ok ()), .error f => (events, .failed f, none)
  | .ok app, (events, .ok ()), .ok () =>
    (events ++ [.serve 1, .close], .ofLoop w.loopEnd, some (app.respondAll w.tree w.requests))

/-- **What a run does** depends on how its steps end and on nothing else. -/
theorem doings_run (w : World) (s : Settings) (given : Option App) (l : Logging) :
    (run w s given l).doings =
      doingsOf w (application w s given l).2 (bindSocket s w.sockets)
        ((prepare w.environment s).map fun _ ↦ ()) := by
  have hcourse := course_run w s given l
  generalize run w s given l = r at hcourse ⊢
  cases hcourse with
  | noApplication happ => rw [happ]; rfl
  | notBound happ hbind => rw [happ, hbind]; rfl
  | notPrepared happ hbind hprepare => rw [happ, hbind, hprepare]; rfl
  | served happ hbind hprepare => rw [happ, hbind, hprepare]; rfl

/-! ### Exchanging levels -/

/-- Settings without a directory, for which no application is created. -/
def rootlessSettings : Settings :=
  { directory := none }

/-- How creating an application fails without a directory. -/
def rootlessFailure : Option Logging.NoLevel → Failure
  | none => .blankDirectory
  | some v => .notALevel v

theorem rootlessFailure_injective : Function.Injective rootlessFailure := by
  rintro (- | v) (- | u) h
  · rfl
  · cases h
  · cases h
  · rw [Failure.notALevel.inj h]

/-- Without a directory the failure shows what the loggers refuse. -/
theorem setUp_rootless (c : Circumstances) (t : FileTree) (name : Text) (l : Logging) :
    (App.setUp c t (rootlessSettings.withLevel name) l).2 =
      .error (rootlessFailure (Logging.refusal? name)) := by
  rw [App.setUp_withLevel]
  rcases Logging.refusal? name with - | v
  · rfl
  · rfl

/-- So does a run with these settings: all that it does is to fail in this way. -/
theorem doings_rootless (name : Text) :
    (run easyWorld (rootlessSettings.withLevel name) none {}).doings =
      ([], .failed (rootlessFailure (Logging.refusal? name)), none) := by
  have happ : (application easyWorld (rootlessSettings.withLevel name) none {}).2 =
      .error (rootlessFailure (Logging.refusal? name)) := setUp_rootless _ _ name {}
  rw [doings_run, happ]
  rfl

/-- How a run ends in which all else goes well. -/
def easyEnd : Option Text → RunEnd
  | none => .returned
  | some name => .failed (.unknownLevel name)

theorem easyEnd_injective : Function.Injective easyEnd := by
  rintro (- | m) (- | n) h
  · rfl
  · cases h
  · cases h
  · rw [Failure.unknownLevel.inj (RunEnd.failed.inj h)]

/-- With an application given, how a run ends shows what the server refuses. -/
theorem doings_easy (s : Settings) (name : Text) :
    (run easyWorld (s.withLevel name) (some App.siteApp) {}).doings.2.1 =
      easyEnd (refusal? name) := by
  have hbind : bindSocket (s.withLevel name) easyWorld.sockets =
      (s.bindEvents ++ [.setInheritable], .ok ()) := rfl
  rw [doings_run, prepare_withLevel, hbind]
  rcases refusal? name with - | shown
  · rfl
  · rfl

/-- Settings for a directory that is there. -/
def siteSettings : Settings :=
  { directory := some "site" }

/-- With a directory that is there, an application comes about unless the loggers refuse the
name. -/
theorem setUp_site (name : Text) :
    (App.setUp ⟨[], []⟩ App.siteTree (siteSettings.withLevel name) {}).2.toOption =
      if Logging.refusal? name = none then some App.siteApp else none := by
  rw [App.setUp_withLevel]
  rcases Logging.refusal? name with - | v
  · rfl
  · rfl

/-- **Logging does not change what the server does** as long as the name of the level is refused in
the same way. Two names lead to an application in the same cases, whatever the settings are besides,
and to the same one, exactly if the loggers refuse both or neither. And they give runs in which the
same is done, which respond the same and end in the same way, exactly if the server knows both
names, or if it knows neither, they are the same in lower case, and the loggers refuse both for the
same or neither. -/
theorem exchangeable_iff (a b : Text) :
    ((∀ (c : Circumstances) (t : FileTree) (s : Settings) (l : Logging),
        (App.setUp c t (s.withLevel a) l).2.toOption =
          (App.setUp c t (s.withLevel b) l).2.toOption) ↔
      (Logging.refusal? a = none ↔ Logging.refusal? b = none)) ∧
    ((∀ (w : World) (s : Settings) (given : Option App) (l : Logging),
        (run w (s.withLevel a) given l).doings = (run w (s.withLevel b) given l).doings) ↔
      (knows a = true ∧ knows b = true) ∨
        (Logging.refusal? a = Logging.refusal? b ∧ refusal? a = refusal? b)) := by
  have hrun (hlogging : Logging.refusal? a = Logging.refusal? b) (hserver : refusal? a = refusal? b)
      (w : World) (s : Settings) (given : Option App) (l : Logging) :
      (run w (s.withLevel a) given l).doings = (run w (s.withLevel b) given l).doings := by
    have happ : (application w (s.withLevel a) given l).2 =
        (application w (s.withLevel b) given l).2 := by
      rcases given with - | app
      · show (App.setUp _ _ (s.withLevel a) l).2 = (App.setUp _ _ (s.withLevel b) l).2
        rw [App.setUp_withLevel, App.setUp_withLevel, hlogging]
      · rfl
    -- the socket is bound to the host and the port, which are the same
    have hbind : bindSocket (s.withLevel a) w.sockets = bindSocket (s.withLevel b) w.sockets := rfl
    rw [doings_run, doings_run, happ, hbind, prepare_withLevel, prepare_withLevel, hserver]
  refine ⟨⟨fun h ↦ ?_, fun h c t s l ↦ ?_⟩, fun h ↦ .inr ⟨?_, ?_⟩, ?_⟩
  · have hsame := h ⟨[], []⟩ App.siteTree siteSettings {}
    rw [setUp_site, setUp_site] at hsame
    refine ⟨fun ha ↦ ?_, fun hb ↦ ?_⟩
    · by_contra hb
      rw [if_pos ha, if_neg hb] at hsame
      exact nomatch hsame
    · by_contra ha
      rw [if_neg ha, if_pos hb] at hsame
      exact nomatch hsame
  · rw [App.setUp_withLevel, App.setUp_withLevel]
    rcases ha : Logging.refusal? a with - | v
    · rw [h.1 ha]
    · obtain ⟨u, hb⟩ : ∃ u, Logging.refusal? b = some u :=
        Option.ne_none_iff_exists'.1 fun hb ↦ nomatch ha.symm.trans (h.2 hb)
      rw [hb]
      rfl
  · have hsame := h easyWorld rootlessSettings none {}
    rw [doings_rootless, doings_rootless] at hsame
    exact rootlessFailure_injective (RunEnd.failed.inj (congrArg (·.2.1) hsame))
  · have hsame := congrArg (·.2.1) (h easyWorld {} (some App.siteApp) {})
    rw [doings_easy, doings_easy] at hsame
    exact easyEnd_injective hsame
  · rintro (⟨ha, hb⟩ | ⟨hlogging, hserver⟩)
    · refine hrun ?_ ?_
      · rw [Logging.refusal?_of_knows ha, Logging.refusal?_of_knows hb]
      · exact (if_pos ha).trans (if_pos hb).symm
    · exact hrun hlogging hserver

/-- **Levels that change what the server does**: with a name that stands for something else in the
loggers' table no application is created, and with one that the server does not know the serving
loop is not entered. -/
theorem not_exchangeable_names :
    ((App.setUp ⟨[], []⟩ App.siteTree (siteSettings.withLevel "INFO") {}).2 = .ok App.siteApp ∧
      (App.setUp ⟨[], []⟩ App.siteTree (siteSettings.withLevel "basic_format") {}).2 =
        .error (.notALevel (.text Logging.basicStyle.format))) ∧
    (run easyWorld (siteSettings.withLevel "INFO") none {}).runEnd = .returned ∧
      (run easyWorld (siteSettings.withLevel "silly") none {}).runEnd =
        .failed (.unknownLevel "silly") := by
  refine ⟨⟨?_, ?_⟩, by decide +kernel, by decide +kernel⟩
  · rw [App.setUp_withLevel]
    rfl
  · rw [App.setUp_withLevel]
    rfl

end Server

end StaticServer
