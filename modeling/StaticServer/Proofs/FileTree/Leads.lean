import StaticServer.FileTree.RealPath

/-!
# Where parts lead

`t.Leads n here parts q` says that following `parts` from the place `here` ends at the place `q`
and passes `n` links on the way. It is the specification that the real paths of a tree are
measured against, with no limit on the number of links and no memory of links. As in
real paths, a name at which nothing stands is taken as it is, going up takes a name away whether or
not an entry has it, and a link counts where its place is short enough to be looked at.

A place at which no link stands, nor at any place above it, is *settled*. What parts lead to is
settled (`Leads.settled`) and a list of names (`Leads.plain`), and it is unique (`Leads.unique`).
The number of links is part of the relation because it is what decreases from a link to the links
met on the way to its target; that is what rules out that a link which leads somewhere meets
itself.
-/

namespace StaticServer

instance decidableEqExcept {ε α : Type} [DecidableEq ε] [DecidableEq α] :
    DecidableEq (Except ε α)
  | .error _, .error _ => decidable_of_iff _ (Iff.of_eq (Except.error.injEq _ _)).symm
  | .ok _, .ok _ => decidable_of_iff _ (Iff.of_eq (Except.ok.injEq _ _)).symm
  | .error _, .ok _ => isFalse nofun
  | .ok _, .error _ => isFalse nofun

namespace Path

/-- A place that is a list of names. -/
def IsPlain (p : Path) : Prop :=
  ∀ name ∈ p, isName name = true

instance (p : Path) : Decidable p.IsPlain :=
  inferInstanceAs (Decidable (∀ name ∈ p, isName name = true))

/-! ### Parts and names -/

/-- A name is a part that does not stay, does not go up, and has no slash and no NUL in it. -/
theorem isName_iff {part : Text} :
    isName part = true ↔ isStay part = false ∧ part ≠ up ∧ '/' ∉ part ∧ '\x00' ∉ part := by
  simp only [isName, isStay, up, Bool.and_eq_true, Bool.not_eq_true', decide_eq_true_eq,
    Bool.or_eq_false_iff, decide_eq_false_iff_not, List.contains_eq_mem, and_assoc]

@[simp] theorem isStay_up : isStay up = false := by decide

@[simp] theorem isName_up : isName up = false := by decide

theorem isStay_of_isName {part : Text} (h : isName part = true) : isStay part = false :=
  (isName_iff.1 h).1

theorem ne_up_of_isName {part : Text} (h : isName part = true) : part ≠ up :=
  (isName_iff.1 h).2.1

theorem slash_not_mem_of_isName {part : Text} (h : isName part = true) : '/' ∉ part :=
  (isName_iff.1 h).2.2.1

theorem nul_not_mem_of_isName {part : Text} (h : isName part = true) : '\x00' ∉ part :=
  (isName_iff.1 h).2.2.2

/-- No part of a path's text has a slash in it. -/
theorem slash_not_mem_of_mem_parts {t part : Text} (h : part ∈ parts t) : '/' ∉ part := by
  induction t generalizing part with
  | nil =>
    rw [List.mem_singleton.1 h]
    exact List.not_mem_nil
  | cons c t ih =>
    rw [parts, List.splitOn_cons_eq_if_modifyHead] at h
    split at h
    · rcases List.mem_cons.1 h with rfl | h
      · exact List.not_mem_nil
      · exact ih h
    · next hc =>
      obtain ⟨first, rest, hsplit : parts t = first :: rest⟩ :=
        List.exists_cons_of_ne_nil (List.splitOn_ne_nil '/' t)
      rw [← parts, hsplit, List.modifyHead_cons] at h
      rcases List.mem_cons.1 h with rfl | h
      · rw [List.mem_cons, not_or]
        exact ⟨Ne.symm (by simpa using hc), ih (hsplit ▸ List.mem_cons_self)⟩
      · exact ih (hsplit ▸ List.mem_cons_of_mem first h)

theorem IsPlain.dropLast {p : Path} (h : p.IsPlain) : Path.IsPlain p.dropLast :=
  fun name hname ↦ h name (List.dropLast_subset p hname)

theorem IsPlain.concat {p : Path} {name : Text} (h : p.IsPlain) (hname : isName name = true) :
    Path.IsPlain (p ++ [name]) := by
  intro other hother
  rcases List.mem_append.1 hother with hother | hother
  · exact h other hother
  · rwa [List.mem_singleton.1 hother]

theorem isPlain_nil : Path.IsPlain [] :=
  fun _ h ↦ absurd h List.not_mem_nil

end Path

namespace FileTree

variable {t : FileTree}

/-! ### The relation -/

/-- Following parts from a place ends at a place and passes a number of links. -/
inductive Leads (t : FileTree) : Nat → Path → List Text → Path → Prop
  /-- No part is left. -/
  | done (here : Path) : Leads t 0 here [] here
  /-- A part that stays where it is. -/
  | stay {n : Nat} {here : Path} {part : Text} {rest : List Text} {q : Path}
      (hpart : Path.isStay part = true) (hrest : Leads t n here rest q) :
      Leads t n here (part :: rest) q
  /-- The part that goes up. -/
  | up {n : Nat} {here : Path} {rest : List Text} {q : Path}
      (hrest : Leads t n here.dropLast rest q) : Leads t n here (Path.up :: rest) q
  /-- A name at which no link stands. -/
  | enter {n : Nat} {here : Path} {name : Text} {rest : List Text} {q : Path}
      (hname : Path.isName name = true) (hplain : t.visibleLink? (here ++ [name]) = none)
      (hrest : Leads t n (here ++ [name]) rest q) : Leads t n here (name :: rest) q
  /-- The name of a link, which leads to where its target leads. -/
  | follow {m n : Nat} {here : Path} {name target : Text} {rest : List Text} {p q : Path}
      (hname : Path.isName name = true) (hlink : t.visibleLink? (here ++ [name]) = some target)
      (htarget : Leads t m (if Path.isAbsolute target then [] else here) (Path.parts target) p)
      (hrest : Leads t n p rest q) : Leads t (m + n + 1) here (name :: rest) q

/-- The link at a place leads to a place, and so many links are passed on the way to its target. -/
def LinkLeads (t : FileTree) (n : Nat) (place p : Path) : Prop :=
  ∃ here name target, place = here ++ [name] ∧ t.visibleLink? place = some target ∧
    t.Leads n (if Path.isAbsolute target then [] else here) (Path.parts target) p

/-- **No link loops**: every link of the tree leads somewhere. -/
def LoopFree (t : FileTree) : Prop :=
  ∀ here name target, t.visibleLink? (here ++ [name]) = some target →
    ∃ n p, t.Leads n (if Path.isAbsolute target then [] else here) (Path.parts target) p

namespace Leads

/-- **Where parts lead is unique**, and so is the number of links on the way. -/
theorem unique {m n : Nat} {here : Path} {parts : List Text} {p q : Path}
    (hp : t.Leads m here parts p) (hq : t.Leads n here parts q) : m = n ∧ p = q := by
  -- the first part and the entry at its name leave one case for the other way
  induction hp generalizing n q with
  | done here =>
    cases hq
    exact ⟨rfl, rfl⟩
  | stay hpart _ ih =>
    cases hq with
    | stay _ hrest => exact ih hrest
    | up _ => simp at hpart
    | enter hname _ _ => simp [Path.isStay_of_isName hname] at hpart
    | follow hname _ _ _ => simp [Path.isStay_of_isName hname] at hpart
  | up _ ih =>
    cases hq with
    | stay hpart _ => simp at hpart
    | up hrest => exact ih hrest
    | enter hname _ _ => simp at hname
    | follow hname _ _ _ => simp at hname
  | enter hname hplain _ ih =>
    cases hq with
    | stay hpart _ => simp [Path.isStay_of_isName hname] at hpart
    | up _ => simp at hname
    | enter _ _ hrest => exact ih hrest
    | follow _ hlink _ _ => simp [hplain] at hlink
  | follow hname hlink _ _ ihTarget ih =>
    cases hq with
    | stay hpart _ => simp [Path.isStay_of_isName hname] at hpart
    | up _ => simp at hname
    | enter _ hplain _ => simp [hlink] at hplain
    | follow _ hlink' htarget hrest =>
      obtain rfl : _ = _ := Option.some_inj.1 (hlink.symm.trans hlink')
      obtain ⟨rfl, rfl⟩ := ihTarget htarget
      obtain ⟨rfl, rfl⟩ := ih hrest
      exact ⟨rfl, rfl⟩

/-- What leads on from where something leads to leads on from the start. -/
theorem append {m n : Nat} {here : Path} {first second : List Text} {p q : Path}
    (hp : t.Leads m here first p) (hq : t.Leads n p second q) :
    t.Leads (m + n) here (first ++ second) q := by
  induction hp with
  | done here => rwa [Nat.zero_add]
  | stay hpart _ ih => exact stay hpart (ih hq)
  | up _ ih => exact up (ih hq)
  | enter hname hplain _ ih => exact enter hname hplain (ih hq)
  | @follow k l _ _ _ _ _ _ hname hlink htarget _ _ ih =>
    rw [show k + l + 1 + n = k + (l + n) + 1 by omega]
    exact follow hname hlink htarget (ih hq)

/-- What some parts lead to is reached by way of what the first ones lead to. -/
theorem split {n : Nat} {here : Path} {first second : List Text} {q : Path}
    (h : t.Leads n here (first ++ second) q) :
    ∃ k l p, t.Leads k here first p ∧ t.Leads l p second q := by
  induction first generalizing n here with
  | nil => exact ⟨0, n, here, done here, h⟩
  | cons part first ih =>
    cases h with
    | stay hpart hrest =>
      obtain ⟨k, l, p, hp, hq⟩ := ih hrest
      exact ⟨k, l, p, stay hpart hp, hq⟩
    | up hrest =>
      obtain ⟨k, l, p, hp, hq⟩ := ih hrest
      exact ⟨k, l, p, up hp, hq⟩
    | enter hname hplain hrest =>
      obtain ⟨k, l, p, hp, hq⟩ := ih hrest
      exact ⟨k, l, p, enter hname hplain hp, hq⟩
    | @follow m _ _ _ _ _ _ _ hname hlink htarget hrest =>
      obtain ⟨k, l, p, hp, hq⟩ := ih hrest
      exact ⟨m + k + 1, l, p, follow hname hlink htarget hp, hq⟩

/-- What parts lead to is a list of names. -/
theorem plain {n : Nat} {here : Path} {parts : List Text} {q : Path}
    (h : t.Leads n here parts q) (hhere : here.IsPlain) : q.IsPlain := by
  induction h with
  | done here => exact hhere
  | stay _ _ ih => exact ih hhere
  | up _ ih => exact ih hhere.dropLast
  | enter hname _ _ ih => exact ih (hhere.concat hname)
  | @follow _ _ _ _ target _ _ _ _ _ _ _ ihTarget ih =>
    refine ih (ihTarget ?_)
    split
    · exact Path.isPlain_nil
    · exact hhere

end Leads

/-! ### Settled places -/

/-- No link stands at a place or above it. -/
def IsSettled (t : FileTree) (p : Path) : Prop :=
  ∀ q, q <+: p → t.visibleLink? q = none

theorem isSettled_nil : t.IsSettled [] := by
  intro q hq
  rw [List.prefix_nil.1 hq]
  exact t.visibleLink?_nil

theorem IsSettled.dropLast {p : Path} (h : t.IsSettled p) : t.IsSettled p.dropLast :=
  fun q hq ↦ h q (hq.trans (List.dropLast_prefix p))

/-- A place below a settled one is settled if no link is seen there. -/
theorem IsSettled.concat {p : Path} {name : Text} (h : t.IsSettled p)
    (hname : t.visibleLink? (p ++ [name]) = none) : t.IsSettled (p ++ [name]) := by
  intro q hq
  rcases List.prefix_concat_iff.1 hq with rfl | hq
  · exact hname
  · exact h q hq

/-- **What parts lead to is settled.** -/
theorem Leads.settled {n : Nat} {here : Path} {parts : List Text} {q : Path}
    (h : t.Leads n here parts q) (hhere : t.IsSettled here) : t.IsSettled q := by
  induction h with
  | done here => exact hhere
  | stay _ _ ih => exact ih hhere
  | up _ ih => exact ih hhere.dropLast
  | enter _ hplain _ ih => exact ih (hhere.concat hplain)
  | follow _ _ _ _ ihTarget ih =>
    refine ih (ihTarget ?_)
    split
    · exact isSettled_nil
    · exact hhere

/-! ### Trees without loops -/

/-- **Without loops everything leads somewhere.** -/
theorem LoopFree.exists_leads (h : t.LoopFree) (here : Path) {parts : List Text}
    (hslash : ∀ part ∈ parts, '/' ∉ part) (hnul : ∀ part ∈ parts, '\x00' ∉ part) :
    ∃ n q, t.Leads n here parts q := by
  induction parts generalizing here with
  | nil => exact ⟨0, here, .done here⟩
  | cons part rest ih =>
    have hrest (p : Path) : ∃ n q, t.Leads n p rest q :=
      ih p (fun x hx ↦ hslash x (List.mem_cons_of_mem part hx))
        (fun x hx ↦ hnul x (List.mem_cons_of_mem part hx))
    by_cases hstay : Path.isStay part = true
    · obtain ⟨n, q, hq⟩ := hrest here
      exact ⟨n, q, .stay hstay hq⟩
    by_cases hup : part = Path.up
    · obtain ⟨n, q, hq⟩ := hrest here.dropLast
      exact ⟨n, q, hup ▸ .up hq⟩
    have hname : Path.isName part = true :=
      Path.isName_iff.2 ⟨by simpa using hstay, hup, hslash part List.mem_cons_self,
        hnul part List.mem_cons_self⟩
    rcases hlink : t.visibleLink? (here ++ [part]) with - | target
    · obtain ⟨n, q, hq⟩ := hrest (here ++ [part])
      exact ⟨n, q, .enter hname hlink hq⟩
    · obtain ⟨m, p, hp⟩ := h here part target hlink
      obtain ⟨n, q, hq⟩ := hrest p
      exact ⟨m + n + 1, q, .follow hname hlink hp hq⟩

/-! ### From the root of the file system -/

/-- Following parts from the root of the file system ends at a place. -/
def LeadsTo (t : FileTree) (parts : List Text) (q : Path) : Prop :=
  ∃ n, t.Leads n [] parts q

namespace LeadsTo

variable {parts : List Text} {p q : Path}

/-- Parts lead to one place only. -/
theorem unique (hp : t.LeadsTo parts p) (hq : t.LeadsTo parts q) : p = q := by
  obtain ⟨m, hp⟩ := hp
  obtain ⟨n, hq⟩ := hq
  exact (hp.unique hq).2

/-- What parts lead to is a plain place. -/
theorem plain (h : t.LeadsTo parts q) : q.IsPlain := by
  obtain ⟨n, h⟩ := h
  exact h.plain Path.isPlain_nil

/-- And it is a settled one: no link is left on the way to it. -/
theorem settled (h : t.LeadsTo parts q) : t.IsSettled q := by
  obtain ⟨n, h⟩ := h
  exact h.settled isSettled_nil

/-- What leads somewhere leads somewhere with fewer parts, too. -/
theorem exists_of_append {more : List Text} (h : t.LeadsTo (parts ++ more) q) :
    ∃ p, t.LeadsTo parts p := by
  obtain ⟨n, h⟩ := h
  obtain ⟨k, _, p, hp, -⟩ := h.split
  exact ⟨p, k, hp⟩

end LeadsTo

/-- **In a tree without loops all parts lead somewhere.** -/
theorem LoopFree.exists_leadsTo (h : t.LoopFree) {parts : List Text}
    (hslash : ∀ part ∈ parts, '/' ∉ part) (hnul : ∀ part ∈ parts, '\x00' ∉ part) :
    ∃ q, t.LeadsTo parts q := by
  obtain ⟨n, q, hq⟩ := h.exists_leads [] hslash hnul
  exact ⟨q, n, hq⟩

end FileTree

end StaticServer
