import Mathlib.Data.List.Infix
import StaticServer.Proofs.FileTree.RealPath

/-!
# Settled places

A settled place is its own real path (`IsSettled.realPath_eq`). Looking at it by its text passes no
link and answers the place itself when an entry stands there; otherwise it ends with a fault,
because nothing stands there or because the text or a name in it is too long
(`IsSettled.resolve_text`).

The text of a place is taken apart into its names again (`parts_text`), and it is no shorter than
the texts of the places above (`size_text_le`). That is why the links that are too long to be looked
at do no harm here: a text that is short enough has no such link above it.
-/

namespace StaticServer

namespace Path

/-! ### The text of a place -/

theorem join_prefix_append (q r : Path) : Text.join "/" q <+: Text.join "/" (q ++ r) := by
  induction q with
  | nil => exact List.nil_prefix
  | cons name q ih =>
    rcases q with - | ⟨name', q⟩
    · rcases r with - | ⟨next, r⟩
      · exact List.prefix_refl _
      · rw [Text.join, Text.join, List.intercalate_singleton, List.singleton_append,
          List.intercalate_cons_cons, List.append_assoc]
        exact List.prefix_append name _
    · rw [Text.join, Text.join, List.cons_append, List.cons_append, List.intercalate_cons_cons,
        List.intercalate_cons_cons]
      exact (List.prefix_append_right_inj _).2 ih

/-- The text of a place is no shorter than that of a place above it. -/
theorem size_text_le {p q : Path} (h : q <+: p) :
    Text.Utf8.size (text q) ≤ Text.Utf8.size (text p) := by
  obtain ⟨r, rfl⟩ := h
  obtain ⟨rest, hrest⟩ := join_prefix_append q r
  have htext : text (q ++ r) = text q ++ rest := by
    rw [text, text, ← hrest, List.cons_append]
  rw [htext, Text.Utf8.size, Text.Utf8.size, Text.Utf8.encode, Text.Utf8.encode,
    List.flatMap_append, List.length_append]
  exact Nat.le_add_right _ _

theorem isAbsolute_text (p : Path) : isAbsolute (text p) = true := by
  simp [isAbsolute, text]

theorem mem_text {p : Path} {c : Char} (h : c ∈ text p) : c = '/' ∨ ∃ name ∈ p, c ∈ name := by
  rcases List.mem_cons.1 h with rfl | h
  · exact .inl rfl
  induction p with
  | nil => simp [Text.join] at h
  | cons name p ih =>
    rcases p with - | ⟨next, p⟩
    · rw [Text.join, List.intercalate_singleton] at h
      exact .inr ⟨name, List.mem_cons_self, h⟩
    · rw [Text.join, List.intercalate_cons_cons, List.mem_append, List.mem_append] at h
      rcases h with (h | h) | h
      · exact .inr ⟨name, List.mem_cons_self, h⟩
      · exact .inl (by simpa using h)
      · rcases ih (List.mem_cons_of_mem _ h) h with h | ⟨other, hother, h⟩
        · exact .inl h
        · exact .inr ⟨other, List.mem_cons_of_mem name hother, h⟩

theorem nul_not_mem_text {p : Path} (h : p.IsPlain) : '\x00' ∉ text p := by
  intro hmem
  rcases mem_text hmem with heq | ⟨name, hname, hnul⟩
  · exact absurd heq (by decide)
  · exact nul_not_mem_of_isName (h name hname) hnul

/-- **The parts of a place's text are its names**, behind the empty part before the first slash. -/
theorem parts_text {p : Path} (h : p.IsPlain) (hne : p ≠ []) : parts (text p) = [] :: p := by
  have hslash : ∀ name ∈ p, '/' ∉ name := fun name hname ↦ slash_not_mem_of_isName (h name hname)
  rw [parts, text, List.splitOn_cons_eq_if_modifyHead, if_pos (beq_self_eq_true '/')]
  exact congrArg ([] :: ·) (List.splitOn_intercalate '/' hslash hne)

end Path

namespace FileTree

variable {t : FileTree} {p : Path}

/-! ### Following names without links -/

/-- Names at which no links stand lead to the place that they spell. -/
theorem leads_names {names : List Text} {here : Path} (hplain : Path.IsPlain names)
    (hlink : ∀ q, here <+: q → q <+: here ++ names → q ≠ here → t.visibleLink? q = none) :
    t.Leads 0 here names (here ++ names) := by
  induction names generalizing here with
  | nil =>
    rw [List.append_nil]
    exact .done here
  | cons name rest ih =>
    have hstep : here ++ name :: rest = here ++ [name] ++ rest := by
      rw [List.append_assoc, List.singleton_append]
    have hfirst : t.visibleLink? (here ++ [name]) = none :=
      hlink _ (List.prefix_append here [name]) (hstep ▸ List.prefix_append _ rest) (by simp)
    refine .enter (hplain name List.mem_cons_self) hfirst ?_
    rw [hstep] at hlink ⊢
    refine ih (fun other hother ↦ hplain other (List.mem_cons_of_mem name hother)) ?_
    intro q hq hle _
    refine hlink q ((List.prefix_append here [name]).trans hq) hle ?_
    rintro rfl
    have hlen := hq.length_le
    rw [List.length_append, List.length_singleton] at hlen
    omega

/-- The names of a settled place lead to it. -/
theorem IsSettled.leadsTo (hplain : p.IsPlain) (hsettled : t.IsSettled p) : t.LeadsTo p p := by
  have hleads := leads_names hplain (t := t) fun q (_ : [] <+: q) hq _ ↦ hsettled q hq
  exact ⟨0, hleads⟩

/-- A settled place is its own real path. -/
theorem IsSettled.realPath_eq (hplain : p.IsPlain) (hsettled : t.IsSettled p) :
    t.realPath p = .ok p :=
  (hsettled.leadsTo hplain).realPath_eq

/-- Parts behind others lead where they lead from the place that those lead to. -/
theorem LeadsTo.append_iff {parts more : List Text} {q : Path} (h : t.LeadsTo parts p) :
    t.LeadsTo (parts ++ more) q ↔ t.LeadsTo (p ++ more) q := by
  have hself := h.settled.leadsTo h.plain
  constructor
  · rintro ⟨n, hq⟩
    obtain ⟨k, l, p', hp', hmore⟩ := hq.split
    obtain rfl := h.unique ⟨k, hp'⟩
    obtain ⟨m, hself⟩ := hself
    exact ⟨m + l, hself.append hmore⟩
  · rintro ⟨n, hq⟩
    obtain ⟨k, l, p', hp', hmore⟩ := hq.split
    obtain rfl := hself.unique ⟨k, hp'⟩
    obtain ⟨m, h⟩ := h
    exact ⟨m + l, h.append hmore⟩

/-- Where there are no links at all, every place is settled. -/
theorem isSettled_of_links_eq_nil (h : t.links = []) (p : Path) : t.IsSettled p := by
  intro q _
  rcases hlink : t.visibleLink? q with - | target
  · rfl
  · have hmem := mem_links_of_visibleLink? hlink
    rw [h] at hmem
    cases hmem

/-! ### Inside a root -/

/-- Is the real path of a place inside the real path of a root, by whole names? -/
def isInside (t : FileTree) (root p : Path) : Bool :=
  match t.realPath root, t.realPath p with
  | .ok directory, .ok q => Path.isWithin directory q
  | _, _ => false

/-- A path is inside a root if both have real paths, and that of the path is within that of the
root. -/
theorem isInside_iff {root : Path} : t.isInside root p = true ↔ ∃ directory q,
    t.realPath root = .ok directory ∧ t.realPath p = .ok q ∧ Path.isWithin directory q = true := by
  rw [isInside]
  rcases t.realPath root with f | directory <;> rcases t.realPath p with f' | q <;> simp

/-- A settled place is its own real path. -/
theorem IsSettled.isInside_iff {root : Path} (hplain : p.IsPlain) (hsettled : t.IsSettled p) :
    t.isInside root p = true ↔
      ∃ directory, t.realPath root = .ok directory ∧ Path.isWithin directory p = true := by
  rw [FileTree.isInside_iff, hsettled.realPath_eq hplain]
  constructor
  · rintro ⟨directory, q, hroot, heq, hwithin⟩
    obtain rfl : p = q := Except.ok.inj heq
    exact ⟨directory, hroot, hwithin⟩
  · rintro ⟨directory, hroot, hwithin⟩
    exact ⟨directory, p, hroot, rfl, hwithin⟩

/-! ### Looking at a settled place -/

/-- An entry stands at a place, and there are directories at all places above. -/
structure Stands (t : FileTree) (p : Path) (e : Entry) : Prop where
  /-- The entry. -/
  entry : t.get? p = some e
  /-- The directories above. -/
  above : ∀ q, q <+: p → q ≠ p → t.isDirectory q = true

instance (t : FileTree) (p : Path) (e : Entry) : Decidable (t.Stands p e) :=
  decidable_of_iff (t.get? p = some e ∧ ∀ q ∈ p.inits, q ≠ p → t.isDirectory q = true) <| by
    constructor
    · rintro ⟨hentry, habove⟩
      exact ⟨hentry, fun q hq ↦ habove q ((List.mem_inits q p).2 hq)⟩
    · rintro ⟨hentry, habove⟩
      exact ⟨hentry, fun q hq ↦ habove q ((List.mem_inits q p).1 hq)⟩

theorem Stands.unique {e e' : Entry} (h : t.Stands p e) (h' : t.Stands p e') : e = e' :=
  Option.some_inj.1 (h.entry.symm.trans h'.entry)

theorem Stands.isDirectory (h : t.Stands p .directory) : t.isDirectory p = true := by
  rw [FileTree.isDirectory, h.entry]
  rfl

theorem stands_nil : t.Stands [] .directory := by
  refine ⟨t.get?_nil, fun q hq hne ↦ ?_⟩
  exact absurd (List.prefix_nil.1 hq) hne

theorem Stands.concat {name : Text} {e e' : Entry} (h : t.Stands p e)
    (hdir : t.isDirectory p = true) (hget : t.get? (p ++ [name]) = some e') :
    t.Stands (p ++ [name]) e' := by
  refine ⟨hget, fun q hq hne ↦ ?_⟩
  have hle := (List.prefix_concat_iff.1 hq).resolve_left hne
  by_cases heq : q = p
  · rwa [heq]
  · exact h.above q hle heq

/-- Following names on which no links stand ends at the place that they spell, when an entry stands
there and no name is too long, and with one of three faults otherwise. -/
theorem walkWith_names {follow : Path → List Text → Except Fault Path} {names : List Text}
    {here : Path} {e : Entry} (hhere : t.Stands here e) (hplain : Path.IsPlain names)
    (hlink : ∀ q, q <+: here ++ names → t.linkTarget? q = none) :
    (∃ e, t.Stands (here ++ names) e ∧ t.walkWith follow here names = .ok (here ++ names)) ∨
    (∃ f, (f = .missing ∨ f = .notDirectory) ∧ (∀ e, ¬ t.Stands (here ++ names) e) ∧
      t.walkWith follow here names = .error f) ∨
    t.walkWith follow here names = .error .nameTooLong := by
  induction names generalizing here e with
  | nil =>
    rw [List.append_nil]
    exact .inl ⟨e, hhere, rfl⟩
  | cons name rest ih =>
    have hname := hplain name List.mem_cons_self
    have hrest : Path.IsPlain rest := fun x hx ↦ hplain x (List.mem_cons_of_mem name hx)
    have hstep : here ++ name :: rest = here ++ [name] ++ rest := by
      rw [List.append_assoc, List.singleton_append]
    rw [hstep] at hlink ⊢
    have hprefix : here ++ [name] <+: here ++ [name] ++ rest := List.prefix_append _ rest
    rw [walkWith]
    split_ifs with hdir hstay hup hlong
    · refine .inr (.inl ⟨.notDirectory, .inr rfl, fun e' h ↦ ?_, rfl⟩)
      have habove := h.above here ((List.prefix_append here [name]).trans hprefix) (by simp)
      simp [habove] at hdir
    · simp [Path.isStay_of_isName hname] at hstay
    · exact absurd hup (Path.ne_up_of_isName hname)
    · exact .inr (.inr rfl)
    split
    · next hget =>
      -- nothing is there, so nothing stands here, and nothing below for want of a directory
      refine .inr (.inl ⟨.missing, .inl rfl, fun e' h ↦ ?_, rfl⟩)
      rcases rest with - | ⟨next, rest⟩
      · have hentry := h.entry
        rw [List.append_nil, hget] at hentry
        cases hentry
      · have habove := h.above (here ++ [name]) hprefix (by simp)
        rw [isDirectory, hget] at habove
        cases habove
    · next target hget =>
      exact absurd hget (linkTarget?_eq_none_iff.1 (hlink _ hprefix) target)
    · next e' _ hget =>
      exact ih (hhere.concat (by simpa using hdir) hget) hrest hlink

/-- The walk from the root over the parts of a place's text is the walk over its names. -/
theorem walk_parts_text (hplain : p.IsPlain) (n : Nat) :
    t.walk n [] (Path.parts (Path.text p)) = t.walk n [] p := by
  have hdir : (!t.isDirectory []) = false := by
    rw [isDirectory, get?_nil]
    rfl
  have hskip (follow : Path → List Text → Except Fault Path) (rest : List Text) :
      t.walkWith follow [] ([] :: rest) = t.walkWith follow [] rest := by
    rw [walkWith, if_neg (by simp [hdir]), if_pos (by decide)]
  by_cases hne : p = []
  · subst hne
    have hparts : Path.parts (Path.text []) = [[], []] := by decide
    cases n <;> rw [walk, hparts, hskip, hskip]
  · cases n <;> rw [walk, Path.parts_text hplain hne, hskip]

/-- **Looking at a settled place** by its text answers that place when an entry stands there, and
ends with one of two faults when there is none; or the text is too long. -/
theorem IsSettled.resolve_text (hplain : p.IsPlain) (hsettled : t.IsSettled p) :
    (∃ e, t.Stands p e ∧ t.resolve (Path.text p) = .ok p) ∨
    (∃ f, (f = .missing ∨ f = .notDirectory) ∧ (∀ e, ¬ t.Stands p e) ∧
      t.resolve (Path.text p) = .error f) ∨
    t.resolve (Path.text p) = .error .nameTooLong := by
  rw [resolve, if_neg (by simpa using Path.nul_not_mem_text hplain),
    if_neg (by simp [Path.text])]
  split_ifs with hlong
  · exact .inr (.inr rfl)
  -- the text is short enough, so every link above would be looked at
  have hlink : ∀ q, q <+: [] ++ p → t.linkTarget? q = none := by
    intro q hq
    have hshort := Nat.lt_of_le_of_lt (Path.size_text_le hq) (Nat.not_le.1 hlong)
    have hvisible := hsettled q hq
    rwa [visibleLink?, if_neg (Nat.not_le.2 hshort)] at hvisible
  rw [start, if_pos (Path.isAbsolute_text p), walk_parts_text hplain, linkLimit, walk]
  exact walkWith_names stands_nil hplain hlink

/-- The text of a settled place leads to no other. -/
theorem IsSettled.eq_of_resolve_text {q : Path} (hplain : p.IsPlain) (hsettled : t.IsSettled p)
    (h : t.resolve (Path.text p) = .ok q) : q = p := by
  rcases hsettled.resolve_text hplain with ⟨-, -, hok⟩ | ⟨f, -, -, herror⟩ | herror
  · exact Except.ok.inj (h.symm.trans hok)
  · rw [h] at herror
    cases herror
  · rw [h] at herror
    cases herror

/-- What stands at a settled place is seen there, unless the text is too long. -/
theorem Stands.resolve_text {e : Entry} (h : t.Stands p e) (hplain : p.IsPlain)
    (hsettled : t.IsSettled p) (hshort : t.resolve (Path.text p) ≠ .error .nameTooLong) :
    t.resolve (Path.text p) = .ok p := by
  rcases hsettled.resolve_text hplain with ⟨-, -, hok⟩ | ⟨f, -, hnone, -⟩ | hlong
  · exact hok
  · exact absurd h (hnone e)
  · exact absurd hlong hshort

end FileTree

end StaticServer
