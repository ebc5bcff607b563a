import StaticServer.Proofs.Program.Course
import StaticServer.Proofs.Program.Serving

/-!
# Releasing the socket

A run creates one socket at most, and it is to be closed when the run ends, however it ends. That is
so when the address is refused, and whenever the serving loop has been entered, even if the loop
crashes. In between nothing looks after the socket: `Server.LeavesOpen` lists what can happen there,
by the answers of the operating system, the settings and the environment, and
`Server.allClosed_run_iff` says that this is all.
-/

namespace StaticServer

namespace Event

/-- Is a socket created? -/
def isSocket : Event → Bool
  | .socket _ => true
  | _ => false

/-- Every socket that is created is closed later on. -/
def AllClosed (events : List Event) : Prop :=
  ∀ front family back, events = front ++ .socket family :: back → .close ∈ back

theorem allClosed_nil : AllClosed [] := by
  intro front family back h
  cases (List.append_eq_nil_iff.1 h.symm).2

/-- A socket for which an address has been tried is closed exactly if that happens later on. -/
theorem allClosed_bindEvents_append {s : Settings} {rest : List Event}
    (hrest : ∀ e ∈ rest, e.isSocket = false) :
    AllClosed (s.bindEvents ++ rest) ↔ .close ∈ rest := by
  constructor
  · intro h
    have hclose : .close ∈ [.reuseAddress, .bind s.host s.port] ++ rest := h [] _ _ rfl
    simpa using hclose
  · intro h front family back heq
    rcases front with - | ⟨first, front⟩
    · obtain rfl := (List.cons.inj heq).2
      exact List.mem_append_right _ h
    · -- the first event is the only one that creates a socket
      have htail : [.reuseAddress, .bind s.host s.port] ++ rest = front ++ .socket family :: back :=
        (List.cons.inj heq).2
      have hmem : .socket family ∈ [.reuseAddress, .bind s.host s.port] ++ rest := by
        rw [htail]
        exact List.mem_append_right front List.mem_cons_self
      have hrest' : .socket family ∈ rest := by simpa using hmem
      cases hrest _ hrest'

/-- One socket is created, if none is created later on. -/
theorem countP_isSocket_bindEvents_append {s : Settings} {rest : List Event}
    (hrest : ∀ e ∈ rest, e.isSocket = false) : (s.bindEvents ++ rest).countP isSocket = 1 := by
  have hzero : rest.countP isSocket = 0 :=
    List.countP_eq_zero.2 fun e he ↦ Bool.eq_false_iff.1 (hrest e he)
  rw [List.countP_append, hzero]
  rfl

end Event

open Event in
/-- The attempt to get a socket creates one at most. -/
theorem Binds.countP_le {s : Settings} {o : SocketResults} {events : List Event}
    {result : Except Failure Unit} (h : Binds s o events result) : events.countP isSocket ≤ 1 := by
  cases h with
  | notCreated => exact Nat.zero_le 1
  | refused => exact (countP_isSocket_bindEvents_append (by decide)).le
  | outOfRange => exact le_of_eq rfl
  | notInheritable => exact (countP_isSocket_bindEvents_append (by decide)).le
  | bound => exact (countP_isSocket_bindEvents_append (by decide)).le

namespace Server

open Event

/-- What leaves a socket open: there is an application and a socket, and something goes wrong with
the socket, or with the server, before the serving loop is entered. -/
structure LeavesOpen (w : World) (s : Settings) (given : Option App) (l : Logging) : Prop where
  /-- There is an application. -/
  app : ∃ app, (application w s given l).2 = .ok app
  /-- There is a socket. -/
  created : w.sockets.create = none
  /-- The port is none, or the socket is bound and then it cannot be made inheritable or the server
  cannot be set up. -/
  fails : w.sockets.bind = .portOutOfRange ∨
    w.sockets.bind = .bound ∧
      (w.sockets.setInheritable ≠ none ∨ isPrepared w.environment s = false)

variable {w : World} {s : Settings} {given : Option App} {l l' : Logging} {events : List Event}

/-- A run without a bound socket leaves one open when the port is none or child processes cannot
inherit it. -/
theorem allClosed_of_notBound {app : App} {f : Failure}
    (happ : (application w s given l).2 = .ok app) (hbinds : Binds s w.sockets events (.error f)) :
    AllClosed events ↔ ¬ LeavesOpen w s given l := by
  cases hbinds with
  | notCreated hcreate =>
    exact iff_of_true allClosed_nil fun h ↦ nomatch hcreate.symm.trans h.created
  | refused hcreate hbind =>
    refine iff_of_true ((allClosed_bindEvents_append (by decide)).2 (by decide)) fun h ↦ ?_
    rcases h.fails with hrange | ⟨hbound, -⟩
    · exact nomatch hbind.symm.trans hrange
    · exact nomatch hbind.symm.trans hbound
  | outOfRange hcreate hbind =>
    have hopen : ¬ AllClosed (s.bindEvents ++ []) := by
      rw [allClosed_bindEvents_append (by decide)]
      exact List.not_mem_nil
    rw [List.append_nil] at hopen
    exact iff_of_false hopen (not_not_intro ⟨⟨app, happ⟩, hcreate, .inl hbind⟩)
  | notInheritable hcreate hbind hinherit =>
    have hopen : ¬ AllClosed (s.bindEvents ++ [.setInheritable]) := by
      rw [allClosed_bindEvents_append (by decide)]
      decide
    have hsome : w.sockets.setInheritable ≠ none := by
      rw [hinherit]
      exact Option.some_ne_none _
    exact iff_of_false hopen
      (not_not_intro ⟨⟨app, happ⟩, hcreate, .inr ⟨hbind, .inl hsome⟩⟩)

/-- **When the socket of a run is released.** A run creates one socket at most. It is closed when
the run ends, however the serving loop ends, unless the run breaks off between the attempt to bind
the socket and the serving loop. -/
theorem allClosed_run_iff (w : World) (s : Settings) (given : Option App) (l : Logging) :
    (run w s given l).events.countP isSocket ≤ 1 ∧
      (AllClosed (run w s given l).events ↔ ¬ LeavesOpen w s given l) := by
  have hcourse := course_run w s given l
  generalize run w s given l = r at hcourse ⊢
  cases hcourse with
  | noApplication happ =>
    refine ⟨Nat.zero_le 1, iff_of_true allClosed_nil fun h ↦ ?_⟩
    obtain ⟨app, happ'⟩ := h.app
    exact nomatch (congrArg Prod.snd happ).symm.trans happ'
  | notBound happ hbind =>
    have hbinds := binds_bindSocket s w.sockets
    rw [hbind] at hbinds
    exact ⟨hbinds.countP_le, allClosed_of_notBound (congrArg Prod.snd happ) hbinds⟩
  | notPrepared happ hbind hprepare =>
    obtain ⟨rfl, hcreate, hbound, -⟩ := bindSocket_of_ok hbind
    have hopen : ¬ AllClosed (s.bindEvents ++ [.setInheritable]) := by
      rw [allClosed_bindEvents_append (by decide)]
      decide
    have hnot := (isPrepared_of_error hprepare).1
    exact ⟨(countP_isSocket_bindEvents_append (by decide)).le, iff_of_false hopen
      (not_not_intro ⟨⟨_, congrArg Prod.snd happ⟩, hcreate, .inr ⟨hbound, .inr hnot⟩⟩)⟩
  | served happ hbind hprepare =>
    obtain ⟨rfl, -, hbound, hinherit⟩ := bindSocket_of_ok hbind
    have hevents : s.bindEvents ++ [.setInheritable] ++ [.serve 1, .close] =
        s.bindEvents ++ [.setInheritable, .serve 1, .close] := List.append_assoc _ _ _
    simp only [hevents]
    refine ⟨(countP_isSocket_bindEvents_append (by decide)).le,
      iff_of_true ((allClosed_bindEvents_append (by decide)).2 (by decide)) fun h ↦ ?_⟩
    rcases h.fails with hrange | ⟨-, hnot | hnot⟩
    · exact nomatch hbound.symm.trans hrange
    · exact hnot hinherit
    · exact nomatch (isPrepared_of_ok hprepare).symm.trans hnot

/-- A world in which everything that is asked of the operating system goes well. -/
def easyWorld : World :=
  { tree := App.siteTree, circumstances := ⟨[], []⟩ }

/-- The settings for a directory and a level that the server does not know. -/
def sillySettings : Settings :=
  { directory := some "site", logLevel := some "silly" }

/-- **A socket that is left open**: it is bound, the level is not known, and the run ends with
that. -/
theorem not_allClosed_sillySettings :
    (run easyWorld sillySettings none {}).events =
        [.socket .inet, .reuseAddress, .bind (some "0.0.0.0") (some 7070), .setInheritable] ∧
      (run easyWorld sillySettings none {}).runEnd = .failed (.unknownLevel "silly") ∧
      ¬ AllClosed (run easyWorld sillySettings none {}).events := by
  have hevents : (run easyWorld sillySettings none {}).events =
      [.socket .inet, .reuseAddress, .bind (some "0.0.0.0") (some 7070), .setInheritable] := by
    decide +kernel
  refine ⟨hevents, by decide +kernel, fun h ↦ ?_⟩
  have hclose := h [] _ _ hevents
  exact absurd hclose (by decide)

end Server

end StaticServer
