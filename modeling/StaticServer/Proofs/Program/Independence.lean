import StaticServer.Proofs.FileTree.Edit
import StaticServer.Proofs.Program.Session

/-!
# Requests do not depend on each other

All that an application keeps of a request is whether it has found the root (`App.handle_snd`), and
all that a session keeps of what has been asked and changed in it is that and the tree
(`Session.exists_app_after`). Changes of the tree never change the directory that relative paths
start from, so its settings give the same root at any time: as long as a directory is there, the
application answers as one that has just been created (`Session.requests_independent`).

Between two changes of the tree the root is there all the time or not at all. A request that finds
it makes no difference to those behind it, which would find it themselves, so requests in a row are
answered each as if it were the only one, and in any order.
-/

namespace StaticServer

namespace App

variable {app : App} {t : FileTree} {r : Request}

/-! ### What is kept of a request -/

/-- Does a request find the root? Its path can be served, and the root is there. -/
def findsRoot (app : App) (t : FileTree) (r : Request) : Bool :=
  isRoutable r.path && rootIsThere app.site ⟨t, r.denied⟩

/-- The application when the root has been found by something, or not. -/
def found (app : App) (b : Bool) : App :=
  { app with checked := app.checked || b }

@[simp] theorem found_false (app : App) : app.found false = app := by
  rw [found, Bool.or_false]

@[simp] theorem found_found (app : App) (b c : Bool) :
    (app.found b).found c = app.found (b || c) := by
  rw [found, found, found, Bool.or_assoc]

/-- **All that is kept of a request** is whether it has found the root. -/
theorem handle_snd (app : App) (t : FileTree) (r : Request) :
    (app.handle t r).2 = app.found (app.findsRoot t r) := by
  rcases app.isReady_or t r with hready | ⟨hpath, hroot⟩ | hpath
  · rw [handle_of_isReady hready, found, findsRoot, hready.1, Bool.true_and, hready.2]
  · have hmissing := (Bool.or_eq_false_iff.1 hroot).2
    rw [handle_of_rootMissing hpath hroot, findsRoot, hmissing, Bool.and_false, found_false]
  · rw [handle_of_not_isRoutable hpath, findsRoot, hpath, Bool.false_and, found_false]

/-- Two applications that serve the same answer alike when the root has been found by both, or is
there for both, or neither. -/
theorem handle_fst_congr {other : App} (hsite : other.site = app.site)
    (hroot : (other.checked || rootIsThere app.site ⟨t, r.denied⟩) =
      (app.checked || rootIsThere app.site ⟨t, r.denied⟩)) :
    (other.handle t r).1 = (app.handle t r).1 := by
  rw [handle, handle, serve, serve, hsite, hroot]
  by_cases hpath : isRoutable r.path = true
  · rw [if_pos hpath, if_pos hpath]
  · rw [if_neg hpath, if_neg hpath]

/-- That the root has been found makes no difference to a request that would find it itself. -/
theorem handle_found {b : Bool}
    (h : b = true → rootIsThere app.site ⟨t, r.denied⟩ = true) :
    ((app.found b).handle t r).1 = (app.handle t r).1 := by
  refine handle_fst_congr rfl ?_
  rcases b with - | -
  · rw [found_false]
  · rw [h rfl, Bool.or_true, Bool.or_true]

/-! ### Creating the application anew -/

/-- An application that has been created is created again over any tree with the same working
directory in which its root is there. -/
theorem create_again {c : Circumstances} {settings : Settings} {u : FileTree}
    (hcreate : App.create c t settings = .ok app)
    (hstart : u.workingDirectory = t.workingDirectory)
    (hroot : u.leadsToDirectory (Path.text app.site.root) = true) :
    App.create c u settings = .ok app := by
  rw [App.create] at hcreate ⊢
  rcases hdirectory : settings.directory with - | directory
  · rw [hdirectory] at hcreate
    cases hcreate
  · have habsolute : u.absolute directory = t.absolute directory := by
      rw [FileTree.absolute, FileTree.absolute, FileTree.start, FileTree.start, hstart]
    simp only [hdirectory] at hcreate
    split at hcreate
    · obtain rfl := Except.ok.inj hcreate
      simp only [habsolute]
      exact if_pos hroot
    · cases hcreate

end App

namespace Session

variable {s : Session}

/-! ### What is kept of a session -/

/-- A step changes nothing of the application but that the root may have been found. -/
theorem exists_app_step (s : Session) (step : Step) : ∃ b, (s.step step).1.app = s.app.found b := by
  have hchange (edit : FileTree → Except EditError FileTree) : (s.change edit).app = s.app := by
    rw [change]
    split <;> rfl
  cases step with
  | ask r => exact ⟨_, App.handle_snd s.app s.tree r⟩
  | putFile path data => exact ⟨false, (hchange _).trans (App.found_false s.app).symm⟩
  | putDirectory path => exact ⟨false, (hchange _).trans (App.found_false s.app).symm⟩
  | putLink path target => exact ⟨false, (hchange _).trans (App.found_false s.app).symm⟩
  | remove path => exact ⟨false, (App.found_false s.app).symm⟩

/-- Steps leave an application what it is, but for its having found its root. -/
theorem exists_app_after (s : Session) (steps : List Step) :
    ∃ b, (s.after steps).app = s.app.found b := by
  induction steps generalizing s with
  | nil => exact ⟨false, (App.found_false s.app).symm⟩
  | cons first rest ih =>
    obtain ⟨b, hb⟩ := s.exists_app_step first
    obtain ⟨c, hc⟩ := ih (s.step first).1
    exact ⟨b || c, hc.trans (by rw [hb, App.found_found])⟩

/-- No step changes where relative paths start. -/
theorem workingDirectory_step (s : Session) (step : Step) :
    (s.step step).1.tree.workingDirectory = s.tree.workingDirectory := by
  have hchange {edit : FileTree → Except EditError FileTree}
      (hedit : FileTree.StartsFrom s.tree.workingDirectory (edit s.tree)) :
      (s.change edit).tree.workingDirectory = s.tree.workingDirectory := by
    rw [change]
    split
    · next u hu => exact hedit u hu
    · rfl
  cases step with
  | ask r => rfl
  | putFile path data => exact hchange (FileTree.startsFrom_putFile rfl path data)
  | putDirectory path => exact hchange (FileTree.startsFrom_putDirectory rfl path)
  | putLink path target => exact hchange (FileTree.startsFrom_putLink rfl path target)
  | remove path => exact FileTree.workingDirectory_remove s.tree path

theorem workingDirectory_after (s : Session) (steps : List Step) :
    (s.after steps).tree.workingDirectory = s.tree.workingDirectory := by
  induction steps generalizing s with
  | nil => rfl
  | cons first rest ih => exact (ih _).trans (s.workingDirectory_step first)

/-! ### Requests in a row -/

/-- **The session after some requests in a row**: its tree is the same, and the root has been found
if one of them finds it. -/
theorem after_map_ask (s : Session) (requests : List Request) :
    s.after (requests.map .ask) =
      ⟨s.app.found (requests.any (s.app.findsRoot s.tree)), s.tree⟩ := by
  induction requests generalizing s with
  | nil => rw [List.any_nil, App.found_false]; rfl
  | cons r rest ih =>
    have hstep : (s.step (.ask r)).1 = ⟨s.app.found (s.app.findsRoot s.tree r), s.tree⟩ :=
      congrArg (Session.mk · s.tree) (App.handle_snd s.app s.tree r)
    rw [List.map_cons, after, hstep, ih, App.found_found, List.any_cons]
    rfl

/-- **Requests in a row are answered each as if it were the only one.** -/
theorem responses_map_ask_eq {requests : List Request} (hdenied : ∀ r ∈ requests, r.denied = []) :
    s.responses (requests.map .ask) = requests.map fun r ↦ (s.app.handle s.tree r).1 := by
  induction requests generalizing s with
  | nil => rfl
  | cons r rest ih =>
    obtain ⟨hr, hrest⟩ := List.forall_mem_cons.1 hdenied
    rw [List.map_cons, responses_cons, ih hrest, List.map_cons]
    refine congrArg (_ :: ·) (List.map_congr_left fun q hq ↦ ?_)
    -- if the first one finds the root, so does the other
    have hfound : s.app.findsRoot s.tree r = true →
        App.rootIsThere s.app.site ⟨s.tree, q.denied⟩ = true := by
      rw [App.findsRoot, Bool.and_eq_true, hr, hrest q hq]
      exact And.right
    show ((s.app.handle s.tree r).2.handle s.tree q).1 = _
    rw [App.handle_snd, App.handle_found hfound]

/-- A session has arisen from settings: an application has been created from them over some tree,
and steps of any kind have followed. -/
def HasArisen (c : Circumstances) (settings : Settings) (s : Session) : Prop :=
  ∃ t app steps, App.create c t settings = .ok app ∧ s = (Session.mk app t).after steps

/-- An application that has been created at some time in the past would be created now, if its root
is there, and as long as nothing is denied it answers as it would then. -/
theorem HasArisen.exists_fresh {c : Circumstances} {settings : Settings}
    (h : s.HasArisen c settings)
    (hroot : s.tree.leadsToDirectory (Path.text s.app.site.root) = true) :
    ∃ fresh, App.create c s.tree settings = .ok fresh ∧
      ∀ r : Request, r.denied = [] → (s.app.handle s.tree r).1 = (fresh.handle s.tree r).1 := by
  obtain ⟨t, app, steps, hcreate, rfl⟩ := h
  obtain ⟨b, hb⟩ := (Session.mk app t).exists_app_after steps
  rw [hb] at hroot ⊢
  have hstart := (Session.mk app t).workingDirectory_after steps
  refine ⟨app, App.create_again hcreate hstart hroot, fun r hr ↦ App.handle_found fun _ ↦ ?_⟩
  rw [App.rootIsThere, hr]
  exact hroot

/-- **Requests do not depend on each other.** In a session with an application that has come from
settings, at any time: requests in a row change nothing in the tree; while the root is a directory
they are answered as by an application that is created from the settings now; each is answered as if
it were the only one, whatever steps follow; and in another order they get the same responses and
leave the same session. -/
theorem requests_independent {c : Circumstances} {settings : Settings}
    (h : s.HasArisen c settings) {requests : List Request}
    (hdenied : ∀ r ∈ requests, r.denied = []) :
    (s.after (requests.map .ask)).tree = s.tree ∧
    (s.tree.leadsToDirectory (Path.text s.app.site.root) = true →
      ∃ fresh, App.create c s.tree settings = .ok fresh ∧
        s.responses (requests.map .ask) = requests.map fun r ↦ (fresh.handle s.tree r).1) ∧
    (∀ later, s.responses (requests.map .ask ++ later) =
      (requests.map fun r ↦ (s.app.handle s.tree r).1) ++
        (s.after (requests.map .ask)).responses later) ∧
    ∀ others : List Request, others.Perm requests →
      (others.zip (s.responses (others.map .ask))).Perm
        (requests.zip (s.responses (requests.map .ask))) ∧
      s.after (others.map .ask) = s.after (requests.map .ask) := by
  refine ⟨?_, fun hroot ↦ ?_, fun later ↦ ?_, fun others hperm ↦ ⟨?_, ?_⟩⟩
  · rw [after_map_ask]
  · obtain ⟨fresh, hfresh, hsame⟩ := h.exists_fresh hroot
    refine ⟨fresh, hfresh, ?_⟩
    rw [responses_map_ask_eq hdenied]
    exact List.map_congr_left fun r hr ↦ hsame r (hdenied r hr)
  · rw [responses_append, responses_map_ask_eq hdenied]
  · rw [responses_map_ask_eq hdenied,
      responses_map_ask_eq fun r hr ↦ hdenied r (hperm.mem_iff.1 hr), ← List.map_prod_left_eq_zip,
      ← List.map_prod_left_eq_zip]
    exact hperm.map _
  · rw [after_map_ask, after_map_ask, hperm.any_eq]

/-- The root is removed, asked in vain, and made again with a file in it. -/
def returnSteps : List Step :=
  [.remove "site", .ask ⟨"GET", "/a.txt", [], []⟩, .putFile "site/a.txt" ⟨Text.Utf8.encode "a", 0⟩]

/-- The session after that. -/
def returnSession : Session :=
  siteSession.after returnSteps

/-- A request for the file and one for the directory. -/
def fileAndDirectory : List Request :=
  [⟨"GET", "/a.txt", [], []⟩, ⟨"GET", "/", [], []⟩]

/-- The case of a session that goes on when an earlier request has failed. -/
theorem requests_independent_returnSession :
    siteSession.responses returnSteps = [App.failure] ∧
    returnSession.HasArisen ⟨[], []⟩ { directory := some "site" } ∧
    (∀ r ∈ fileAndDirectory, r.denied = []) ∧
    (∃ fresh, App.create ⟨[], []⟩ returnSession.tree { directory := some "site" } = .ok fresh ∧
      returnSession.responses (fileAndDirectory.map .ask) =
        fileAndDirectory.map fun r ↦ (fresh.handle returnSession.tree r).1) ∧
    (fileAndDirectory.reverse.zip
        (returnSession.responses (fileAndDirectory.reverse.map .ask))).Perm
      (fileAndDirectory.zip (returnSession.responses (fileAndDirectory.map .ask))) := by
  have hcreate : App.create ⟨[], []⟩ App.siteTree { directory := some "site" } = .ok App.siteApp :=
    rfl
  have harisen : returnSession.HasArisen ⟨[], []⟩ { directory := some "site" } :=
    ⟨App.siteTree, App.siteApp, returnSteps, hcreate, rfl⟩
  have hdenied : ∀ r ∈ fileAndDirectory, r.denied = [] := by decide
  obtain ⟨-, hfresh, -, hperm⟩ := requests_independent harisen hdenied
  exact ⟨by decide +kernel, harisen, hdenied, hfresh (by decide +kernel),
    (hperm _ (List.reverse_perm _)).1⟩

end Session

end StaticServer
