import StaticServer.Proofs.FileTree.Settled
import StaticServer.Site.Lookup

/-!
# What a lookup finds

Something is found by a relative path exactly when the path is not foreign, its real path is within
that of the root, and there is an entry at the real path that may be looked at
(`find_eq_ok_some_iff`). Nothing is assumed of the tree there.

With nothing denied, and for parts that lead to a place, the outcome of `find` is told by that
place: whether it is inside the root, what stands there, and whether its text is short enough.
`find_cases` says which outcomes there are.
-/

namespace StaticServer.Lookup

deriving instance DecidableEq for Found

/-! ### Finding in general -/

/-- The entry that a place leads to is that at the place to which its text resolves. -/
theorem View.entry_eq_ok_iff {v : View} {p : Path} {e : Entry} : v.entry p = .ok e ↔
    v.isDenied p = false ∧ ∃ q, v.tree.resolve (Path.text p) = .ok q ∧ v.tree.get? q = some e := by
  rw [View.entry]
  rcases v.isDenied p with - | -
  · rw [if_neg Bool.false_ne_true]
    rcases v.tree.resolve (Path.text p) with f | q
    · simp
    · rcases hget : v.tree.get? q with - | e' <;> simp [hget]
  · simp

/-- **What a lookup finds**: the real path of the parts, if it is within that of the root and there
is something to look at. -/
theorem find_eq_ok_some_iff {v : View} {root : Path} {parts : List Text} {found : Found} :
    find v root parts = .ok (some found) ↔
      isForeign parts = false ∧ v.tree.realPath (root ++ parts) = .ok found.place ∧
      (∃ directory, v.tree.realPath root = .ok directory ∧
        Path.isWithin directory found.place = true) ∧ v.entry found.place = .ok found.entry := by
  obtain ⟨place, e⟩ := found
  rw [find]
  rcases isForeign parts with - | -
  · rw [if_neg Bool.false_ne_true]
    rcases v.tree.realPath (root ++ parts) with f | p
    · simp [bind, Except.bind]
    rcases v.tree.realPath root with f | directory
    · simp [bind, Except.bind]
    simp only [bind, Except.bind, Except.ok.injEq, true_and, exists_eq_left']
    by_cases hwithin : Path.isWithin directory p = true
    · rw [if_pos hwithin]
      rcases hentry : v.entry p with f | e'
      · refine iff_of_false (by cases f <;> simp) ?_
        rintro ⟨rfl, -, he⟩
        rw [hentry] at he
        cases he
      · simp only [Except.ok.injEq, Option.some.injEq, Found.mk.injEq]
        constructor
        · rintro ⟨rfl, rfl⟩
          exact ⟨rfl, hwithin, hentry⟩
        · rintro ⟨rfl, -, he⟩
          exact ⟨rfl, Except.ok.inj (hentry.symm.trans he)⟩
    · rw [if_neg hwithin]
      simp only [Except.ok.injEq, reduceCtorEq, false_iff, not_and]
      rintro rfl hwithin'
      exact absurd hwithin' hwithin
  · simp

/-- Whether a path is foreign is told by its first part. -/
theorem isForeign_cons_iff {first : Text} {rest : List Text} :
    isForeign (first :: rest) = true ↔ first.head? = some '\\' := by
  rcases first with - | ⟨c, first⟩
  · simp [isForeign]
  · by_cases hc : c = '\\'
    · simp [isForeign, hc]
    · simp [isForeign, hc]

/-- A name behind the parts of a path makes it foreign only where there are no others. -/
theorem isForeign_concat_iff {parts : List Text} {name : Text} :
    isForeign (parts ++ [name]) = true ↔
      isForeign parts = true ∨ parts = [] ∧ name.head? = some '\\' := by
  rcases parts with - | ⟨first, rest⟩
  · rw [List.nil_append, isForeign_cons_iff]
    simp [isForeign]
  · rw [List.cons_append, isForeign_cons_iff, isForeign_cons_iff]
    simp

theorem find_of_isForeign {v : View} {root : Path} {parts : List Text}
    (h : isForeign parts = true) : find v root parts = .ok none := by
  rw [find, if_pos h]

/-- A lookup ends without a fault and without a file. -/
def FindsNoFile (v : View) (root : Path) (parts : List Text) : Prop :=
  ∃ o, find v root parts = .ok o ∧ ∀ place data, o ≠ some ⟨place, .file data⟩

/-- Where no file is found, none is found anywhere. -/
theorem FindsNoFile.not_file {v : View} {root place : Path} {parts : List Text} {data : FileData}
    (h : FindsNoFile v root parts) : find v root parts ≠ .ok (some ⟨place, .file data⟩) := by
  intro hfile
  obtain ⟨o, ho, hnot⟩ := h
  exact hnot place data (Except.ok.inj (ho.symm.trans hfile))

/-- A lookup ends with a fault, with a file, or without both. -/
theorem findsNoFile_cases (v : View) (root : Path) (parts : List Text) :
    (∃ f, find v root parts = .error f) ∨
    (∃ place data, find v root parts = .ok (some ⟨place, .file data⟩)) ∨
    FindsNoFile v root parts := by
  rcases hfind : find v root parts with f | o
  · exact .inl ⟨f, rfl⟩
  by_cases hfile : ∃ place data, o = some ⟨place, .file data⟩
  · obtain ⟨place, data, rfl⟩ := hfile
    exact .inr (.inl ⟨place, data, rfl⟩)
  · exact .inr (.inr ⟨o, hfind, fun place data ho ↦ hfile ⟨place, data, ho⟩⟩)

/-! ### Finding where parts lead -/

section

variable {t : FileTree} {root q : Path} {parts : List Text}

/-- With nothing denied, what resolving ends with is what looking ends with. -/
theorem View.entry_of_resolve_error {f : Fault} (h : t.resolve (Path.text q) = .error f) :
    (View.mk t []).entry q = .error f := by
  rw [View.entry, if_neg (by simp [View.isDenied])]
  simp only [h]

/-- Below the real root a lookup is a look at the place where the parts lead. -/
theorem find_of_leadsTo (hforeign : isForeign parts = false) (hleads : t.LeadsTo (root ++ parts) q)
    (hinside : t.isInside root q = true) :
    find ⟨t, []⟩ root parts =
      match (View.mk t []).entry q with
      | .ok e => .ok (some ⟨q, e⟩)
      | .error .missing => .ok none
      | .error .notDirectory => .ok none
      | .error f => .error f := by
  obtain ⟨directory, hroot, hwithin⟩ := (hleads.settled.isInside_iff hleads.plain).1 hinside
  rw [find, if_neg (by simp [hforeign])]
  simp only [hleads.realPath_eq, hroot, bind, Except.bind]
  exact if_pos hwithin

/-- A lookup outside the real root finds nothing. -/
theorem find_of_outside (hleads : t.LeadsTo (root ++ parts) q)
    (houtside : t.isInside root q = false) : find ⟨t, []⟩ root parts = .ok none := by
  obtain ⟨directory, hroot⟩ := hleads.exists_of_append
  rw [find]
  split
  · rfl
  simp only [hleads.realPath_eq, hroot.realPath_eq, bind, Except.bind]
  refine if_neg fun hwithin ↦ ?_
  rw [(hleads.settled.isInside_iff hleads.plain).2 ⟨directory, hroot.realPath_eq, hwithin⟩]
    at houtside
  cases houtside

/-- A lookup finds the entry at the place where the parts lead. -/
theorem find_of_stands {e : Entry} (hforeign : isForeign parts = false)
    (hleads : t.LeadsTo (root ++ parts) q) (hinside : t.isInside root q = true)
    (hstands : t.Stands q e) (hresolve : t.resolve (Path.text q) = .ok q) :
    find ⟨t, []⟩ root parts = .ok (some ⟨q, e⟩) := by
  have hentry : (View.mk t []).entry q = .ok e :=
    View.entry_eq_ok_iff.2 ⟨rfl, q, hresolve, hstands.entry⟩
  rw [find_of_leadsTo hforeign hleads hinside, hentry]

/-- A lookup fails at a place whose text is too long. -/
theorem find_of_tooLong (hforeign : isForeign parts = false) (hleads : t.LeadsTo (root ++ parts) q)
    (hinside : t.isInside root q = true) (hlong : t.resolve (Path.text q) = .error .nameTooLong) :
    find ⟨t, []⟩ root parts = .error .nameTooLong := by
  rw [find_of_leadsTo hforeign hleads hinside, View.entry_of_resolve_error hlong]

/-- **The outcomes of a lookup** with nothing denied, for parts that lead to a place: the entry that
stands there; nothing; or a fault, because the text of the place is too long. -/
theorem find_cases (hleads : t.LeadsTo (root ++ parts) q) :
    (∃ e, isForeign parts = false ∧ t.isInside root q = true ∧ t.Stands q e ∧
      t.resolve (Path.text q) = .ok q ∧ find ⟨t, []⟩ root parts = .ok (some ⟨q, e⟩)) ∨
    ((isForeign parts = false → t.isInside root q = true → ∀ e, ¬ t.Stands q e) ∧
      find ⟨t, []⟩ root parts = .ok none) ∨
    (isForeign parts = false ∧ t.isInside root q = true ∧
      t.resolve (Path.text q) = .error .nameTooLong ∧
      find ⟨t, []⟩ root parts = .error .nameTooLong) := by
  rcases hforeign : isForeign parts with - | -
  · rcases hinside : t.isInside root q with - | -
    · exact .inr (.inl ⟨fun _ h ↦ absurd h Bool.false_ne_true, find_of_outside hleads hinside⟩)
    have hfind := find_of_leadsTo hforeign hleads hinside
    rcases hleads.settled.resolve_text hleads.plain with
      ⟨e, hstands, hok⟩ | ⟨f, rfl | rfl, hnone, herror⟩ | herror
    · exact .inl ⟨e, rfl, rfl, hstands, hok, find_of_stands hforeign hleads hinside hstands hok⟩
    · rw [View.entry_of_resolve_error herror] at hfind
      exact .inr (.inl ⟨fun _ _ ↦ hnone, hfind⟩)
    · rw [View.entry_of_resolve_error herror] at hfind
      exact .inr (.inl ⟨fun _ _ ↦ hnone, hfind⟩)
    · rw [View.entry_of_resolve_error herror] at hfind
      exact .inr (.inr ⟨rfl, rfl, herror, hfind⟩)
  · exact .inr (.inl ⟨fun h ↦ absurd h Bool.noConfusion, find_of_isForeign hforeign⟩)

end

/-! ### Finding where something is denied -/

/-- Where more is denied, no less is denied. -/
theorem View.isDenied_of_subset {t : FileTree} {denied more : List Text} (h : denied ⊆ more)
    {p : Path} (hdenied : (View.mk t denied).isDenied p = true) :
    (View.mk t more).isDenied p = true := by
  rw [View.isDenied, List.any_eq_true] at hdenied ⊢
  obtain ⟨d, hd, hbelow⟩ := hdenied
  exact ⟨d, h hd, hbelow⟩

/-- What is denied is not looked at, and denying more makes no other difference to a lookup. -/
theorem find_of_subset {t : FileTree} {denied more : List Text} (h : denied ⊆ more) (root : Path)
    (parts : List Text) :
    find ⟨t, more⟩ root parts = .error .denied ∨
      find ⟨t, more⟩ root parts = find ⟨t, denied⟩ root parts := by
  rw [find, find]
  rcases isForeign parts with - | -
  · rw [if_neg Bool.false_ne_true, if_neg Bool.false_ne_true]
    rcases t.realPath (root ++ parts) with f | p
    · exact .inr rfl
    rcases t.realPath root with f | directory
    · exact .inr rfl
    simp only [bind, Except.bind]
    by_cases hwithin : Path.isWithin directory p = true
    · rw [if_pos hwithin, if_pos hwithin, View.entry, View.entry]
      rcases hmore : (View.mk t more).isDenied p with - | -
      · have hless : (View.mk t denied).isDenied p = false := by
          refine Bool.eq_false_iff.2 fun hdenied ↦ ?_
          rw [View.isDenied_of_subset h hdenied] at hmore
          cases hmore
        rw [hless]
        exact .inr rfl
      · exact .inl rfl
    · rw [if_neg hwithin, if_neg hwithin]
      exact .inr rfl
  · exact .inr rfl

/-- What is denied is not looked at, and makes no other difference to a lookup. -/
theorem find_denied_or (v : View) (root : Path) (parts : List Text) :
    find v root parts = .error .denied ∨ find v root parts = find ⟨v.tree, []⟩ root parts :=
  find_of_subset (List.nil_subset v.denied) root parts

/-- What is found by parts that lead to a place is what stands there. -/
theorem stands_of_find {v : View} {root p q : Path} {parts : List Text} {e : Entry}
    (hleads : v.tree.LeadsTo (root ++ parts) q)
    (hfind : find v root parts = .ok (some ⟨p, e⟩)) :
    p = q ∧ isForeign parts = false ∧ v.tree.isInside root q = true ∧ v.tree.Stands q e ∧
      v.tree.resolve (Path.text q) = .ok q := by
  rcases find_denied_or v root parts with hdenied | hsame
  · rw [hfind] at hdenied
    cases hdenied
  rw [hsame] at hfind
  rcases find_cases hleads with
    ⟨e', hnative, hinside, hstands, hresolve, hfound⟩ | ⟨-, hnone⟩ | ⟨-, -, -, hlong⟩
  · rw [hfind] at hfound
    cases hfound
    exact ⟨rfl, hnative, hinside, hstands, hresolve⟩
  · rw [hfind] at hnone
    cases hnone
  · rw [hfind] at hlong
    cases hlong

/-- What stands where parts lead is found unless the lookup ends with a fault. -/
theorem find_or_fault {v : View} {root q : Path} {parts : List Text} {e : Entry}
    (hnative : isForeign parts = false) (hleads : v.tree.LeadsTo (root ++ parts) q)
    (hinside : v.tree.isInside root q = true) (hstands : v.tree.Stands q e) :
    find v root parts = .ok (some ⟨q, e⟩) ∨ ∃ f, find v root parts = .error f := by
  rcases find_denied_or v root parts with hdenied | hsame
  · exact .inr ⟨_, hdenied⟩
  rw [hsame]
  rcases find_cases hleads with ⟨e', -, -, hstands', -, hfound⟩ | ⟨hnone, -⟩ | ⟨-, -, -, hlong⟩
  · obtain rfl := hstands.unique hstands'
    exact .inl hfound
  · exact absurd hstands (hnone hnative hinside e)
  · exact .inr ⟨_, hlong⟩

/-! ### Trees without loops -/

section

variable {t : FileTree} {root q : Path} {parts : List Text}

theorem slash_not_mem_of_mem_append (hroot : root.IsPlain) (hslash : ∀ part ∈ parts, '/' ∉ part) :
    ∀ part ∈ root ++ parts, '/' ∉ part :=
  List.forall_mem_append.2
    ⟨fun name hname ↦ Path.slash_not_mem_of_isName (hroot name hname), hslash⟩

theorem nul_not_mem_of_mem_append (hroot : root.IsPlain) (hnul : ∀ part ∈ parts, '\x00' ∉ part) :
    ∀ part ∈ root ++ parts, '\x00' ∉ part :=
  List.forall_mem_append.2
    ⟨fun name hname ↦ Path.nul_not_mem_of_isName (hroot name hname), hnul⟩

/-- **What a lookup finds in a tree without loops** is what stands where the parts lead, inside the
root. -/
theorem find_eq_ok_some_iff_stands (hloop : t.LoopFree) (hroot : root.IsPlain)
    (hslash : ∀ part ∈ parts, '/' ∉ part) {e : Entry} :
    find ⟨t, []⟩ root parts = .ok (some ⟨q, e⟩) ↔
      isForeign parts = false ∧ t.LeadsTo (root ++ parts) q ∧ t.isInside root q = true ∧
        t.Stands q e ∧ t.resolve (Path.text q) = .ok q := by
  constructor
  · intro hfind
    obtain ⟨hforeign, hplace, -, -⟩ := find_eq_ok_some_iff.1 hfind
    have hleads := hloop.leadsTo_of_realPath (slash_not_mem_of_mem_append hroot hslash) hplace
    rcases find_cases hleads with
      ⟨e', -, hinside, hstands, hresolve, hsame⟩ | ⟨-, hnone⟩ | ⟨-, -, -, herror⟩
    · rw [hfind] at hsame
      cases hsame
      exact ⟨hforeign, hleads, hinside, hstands, hresolve⟩
    · rw [hfind] at hnone
      cases hnone
    · rw [hfind] at herror
      cases herror
  · rintro ⟨hforeign, hleads, hinside, hstands, hresolve⟩
    exact find_of_stands hforeign hleads hinside hstands hresolve

/-- Without loops a lookup fails when one of the parts holds the character NUL. -/
theorem find_of_nul (hloop : t.LoopFree) (hroot : root.IsPlain)
    (hslash : ∀ part ∈ parts, '/' ∉ part) (hforeign : isForeign parts = false) {part : Text}
    (hpart : part ∈ parts) (hnul : '\x00' ∈ part) :
    find ⟨t, []⟩ root parts = .error .nulCharacter := by
  have hreal := hloop.realPath_of_nul (slash_not_mem_of_mem_append hroot hslash)
    (List.mem_append_right root hpart) hnul
  rw [find, if_neg (by simp [hforeign])]
  simp only [hreal, bind, Except.bind]

/-- A relative path that can be looked up: it is taken for foreign, or no part of it holds the
character NUL and the place inside the root where it leads is not too long. -/
def CanLookUp (t : FileTree) (root : Path) (parts : List Text) : Prop :=
  isForeign parts = true ∨ (∀ part ∈ parts, '\x00' ∉ part) ∧
    ∀ q, t.LeadsTo (root ++ parts) q → t.isInside root q = true →
      t.resolve (Path.text q) ≠ .error .nameTooLong

/-- **A lookup in a tree without loops comes to an end without a fault** exactly when the path can
be looked up. -/
theorem exists_find_iff (hloop : t.LoopFree) (hroot : root.IsPlain)
    (hslash : ∀ part ∈ parts, '/' ∉ part) :
    (∃ o, find ⟨t, []⟩ root parts = .ok o) ↔ CanLookUp t root parts := by
  constructor
  · rintro ⟨o, ho⟩
    rcases hforeign : isForeign parts with - | -
    · refine .inr ⟨fun part hpart hnul ↦ ?_, fun q hleads hinside hlong ↦ ?_⟩
      · rw [find_of_nul hloop hroot hslash hforeign hpart hnul] at ho
        cases ho
      · rw [find_of_tooLong hforeign hleads hinside hlong] at ho
        cases ho
    · exact .inl hforeign
  · rintro (hforeign | ⟨hnul, hshort⟩)
    · exact ⟨none, find_of_isForeign hforeign⟩
    obtain ⟨q, hq⟩ := hloop.exists_leadsTo (slash_not_mem_of_mem_append hroot hslash)
      (nul_not_mem_of_mem_append hroot hnul)
    rcases find_cases hq with ⟨e, -, -, -, -, hfind⟩ | ⟨-, hfind⟩ | ⟨-, hinside, hlong, -⟩
    · exact ⟨_, hfind⟩
    · exact ⟨_, hfind⟩
    · exact absurd hlong (hshort q hq hinside)

/-- What stands where a path leads that can be looked up is found. -/
theorem CanLookUp.find_eq {e : Entry} (h : CanLookUp t root parts)
    (hforeign : isForeign parts = false) (hleads : t.LeadsTo (root ++ parts) q)
    (hinside : t.isInside root q = true) (hstands : t.Stands q e) :
    find ⟨t, []⟩ root parts = .ok (some ⟨q, e⟩) := by
  obtain ⟨-, hshort⟩ := h.resolve_left (by simp [hforeign])
  have hresolve := hstands.resolve_text hleads.plain hleads.settled (hshort q hleads hinside)
  exact find_of_stands hforeign hleads hinside hstands hresolve

/-- A lookup that does not come to an end ends with a fault of two. -/
theorem find_eq_error (hloop : t.LoopFree) (hroot : root.IsPlain)
    (hslash : ∀ part ∈ parts, '/' ∉ part) {f : Fault}
    (hfind : find ⟨t, []⟩ root parts = .error f) : f = .nulCharacter ∨ f = .nameTooLong := by
  rcases hforeign : isForeign parts with - | -
  · by_cases hnul : ∀ part ∈ parts, '\x00' ∉ part
    · obtain ⟨q, hq⟩ := hloop.exists_leadsTo (slash_not_mem_of_mem_append hroot hslash)
        (nul_not_mem_of_mem_append hroot hnul)
      rcases find_cases hq with ⟨e, -, -, -, -, hsome⟩ | ⟨-, hnone⟩ | ⟨-, -, -, hlong⟩
      · rw [hfind] at hsome
        cases hsome
      · rw [hfind] at hnone
        cases hnone
      · exact .inr (Except.error.inj (hfind.symm.trans hlong))
    · -- the real path of a part with that character is a fault of its own
      push Not at hnul
      obtain ⟨part, hpart, hmem⟩ := hnul
      have herror := find_of_nul hloop hroot hslash hforeign hpart hmem
      exact .inl (Except.error.inj (hfind.symm.trans herror))
  · rw [find_of_isForeign hforeign] at hfind
    cases hfind

end

end StaticServer.Lookup
