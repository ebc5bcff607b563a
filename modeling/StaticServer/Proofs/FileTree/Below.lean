import StaticServer.Proofs.FileTree.Settled
import StaticServer.Proofs.Program.Reached

/-!
# A file one name further down

Following a path that ends in a directory goes on to a regular file in it by one more name: for the
operating system, which follows links as it goes (`resolve_text_concat`), and for real paths
(`realPath_concat`). Nothing is assumed about links. A real path that a loop has cut short still
takes the name at its end, although there may be links left in it, so that the directory is not
where the real path says.
-/

namespace StaticServer

namespace Path

/-- A name behind a slash is one more part. -/
theorem parts_append_name {name : Text} (h : '/' ∉ name) (t : Text) :
    parts (t ++ '/' :: name) = parts t ++ [name] := by
  have hone : parts name = [name] := by
    have hsplit : List.splitOn '/' (['/'].intercalate [name]) = [name] :=
      List.splitOn_intercalate '/' (by simpa using h) (by simp)
    rwa [List.intercalate_singleton] at hsplit
  have happend : parts (t ++ '/' :: name) = parts t ++ parts name := by
    simp only [parts, List.splitOn_eq_splitOnP]
    exact List.splitOnP_append_cons t name (beq_self_eq_true '/')
  rw [happend, hone]

/-- The text of a place below the root of the file system, and one name more. -/
theorem text_concat {p : Path} (hne : p ≠ []) (name : Text) :
    text (p ++ [name]) = text p ++ '/' :: name := by
  rw [text, text, List.cons_append]
  refine congrArg ('/' :: ·) ?_
  induction p with
  | nil => exact absurd rfl hne
  | cons first p ih =>
    rcases p with - | ⟨second, p⟩
    · rw [Text.join, Text.join, List.singleton_append, List.intercalate_cons_cons,
        List.intercalate_singleton, List.intercalate_singleton, List.append_assoc]
      rfl
    · have hrest := ih (List.cons_ne_nil second p)
      rw [Text.join, Text.join] at hrest ⊢
      rw [List.cons_append, List.cons_append, List.intercalate_cons_cons,
        List.intercalate_cons_cons, ← List.cons_append, hrest, List.append_assoc, List.append_assoc,
        List.append_assoc]

/-- A name at the end stays there. -/
theorem normalize_concat {name : Text} (h : isName name = true) (ps : List Text) :
    normalize (ps ++ [name]) = normalize ps ++ [name] := by
  rw [normalize, List.foldl_append, ← normalize]
  show push (normalize ps) name = _
  rw [push, if_neg (by simp [isStay_of_isName h]), if_neg (ne_up_of_isName h)]

end Path

namespace FileTree

variable {t : FileTree} {name : Text} {d : Path} {data : FileData}

/-! ### For the operating system -/

/-- Where one name more leads from a directory with a regular file of that name. -/
def oneMore (d : Path) (name : Text) : Except Fault Path :=
  if Path.nameLimit < Text.Utf8.size name then .error .nameTooLong else .ok (d ++ [name])

section

variable (hdir : t.isDirectory d = true) (hname : Path.isName name = true)
  (hfile : t.get? (d ++ [name]) = some (.file data))

include hdir hname hfile

/-- A walk that reaches a directory goes on from there with one more name, if following links
does. -/
theorem walkWith_concat {follow : Path → List Text → Except Fault Path}
    (hfollow : ∀ p parts, follow p parts = .ok d → follow p (parts ++ [name]) = oneMore d name)
    {here : Path} {parts : List Text} (h : t.walkWith follow here parts = .ok d) :
    t.walkWith follow here (parts ++ [name]) = oneMore d name := by
  induction parts generalizing here with
  | nil =>
    obtain rfl := Except.ok.inj h
    rw [List.nil_append, walkWith, if_neg (by simp [hdir]),
      if_neg (by simp [Path.isStay_of_isName hname]), if_neg (Path.ne_up_of_isName hname), oneMore]
    simp only [hfile]
    rfl
  | cons part rest ih =>
    rw [walkWith] at h
    rw [List.cons_append, walkWith]
    split_ifs at h ⊢ with hhere hstay hup hlong
    · exact ih h
    · exact ih h
    · rcases hget : t.get? (here ++ [part]) with - | e
      · simp only [hget] at h
        cases h
      simp only [hget] at h ⊢
      cases e with
      | file data => exact ih h
      | directory => exact ih h
      | link target =>
        have hmore := hfollow _ _ h
        rwa [List.append_assoc] at hmore

theorem walk_concat {n : Nat} {here : Path} {parts : List Text}
    (h : t.walk n here parts = .ok d) : t.walk n here (parts ++ [name]) = oneMore d name := by
  induction n generalizing here parts with
  | zero =>
    rw [walk] at h ⊢
    refine walkWith_concat hdir hname hfile (fun p parts hnever ↦ ?_) h
    cases hnever
  | succ n ih =>
    rw [walk] at h ⊢
    exact walkWith_concat hdir hname hfile (fun _ _ ↦ ih) h

/-- **The operating system goes on to a regular file** in a directory that a text leads to, unless
the name or the text gets too long. -/
theorem resolve_text_concat {p : Path} (hresolve : t.resolve (Path.text p) = .ok d) :
    t.resolve (Path.text (p ++ [name])) =
      if Path.textLimit ≤ Text.Utf8.size (Path.text (p ++ [name])) then .error .nameTooLong
      else oneMore d name := by
  rw [resolve] at hresolve
  split_ifs at hresolve with hnul hempty hlong
  rw [start, if_pos (Path.isAbsolute_text p)] at hresolve
  have hnul' : '\x00' ∉ Path.text (p ++ [name]) := by
    intro hmem
    rcases Path.mem_text hmem with heq | ⟨other, hother, hmem⟩
    · exact absurd heq (by decide)
    rcases List.mem_append.1 hother with hp | hlast
    · exact hnul (by simpa using Path.mem_text_of_mem hp hmem)
    · rw [List.mem_singleton.1 hlast] at hmem
      exact Path.nul_not_mem_of_isName hname hmem
  have hwalk : t.walk linkLimit [] (Path.parts (Path.text (p ++ [name]))) = oneMore d name := by
    by_cases hp : p = []
    · subst hp
      rw [walk_parts_text Path.isPlain_nil] at hresolve
      rw [walk_parts_text (Path.isPlain_nil.concat hname)]
      exact walk_concat hdir hname hfile hresolve
    · rw [Path.text_concat hp, Path.parts_append_name (Path.slash_not_mem_of_isName hname)]
      exact walk_concat hdir hname hfile hresolve
  rw [resolve, if_neg (by simpa using hnul'), if_neg (by simp [Path.text]), start,
    if_pos (Path.isAbsolute_text _), hwalk]

end

/-! ### For real paths -/

theorem appendParts_concat {rest : List Text} (hrest : [] ∉ rest) (hname : name ≠ []) (p : Path) :
    appendParts p (rest ++ [name]) = appendParts p rest ++ [name] := by
  have happend {ps : List Text} (h : [] ∉ ps) : appendParts p ps = p ++ ps := by
    rw [appendParts]
    rintro part rest rfl
    exact h List.mem_cons_self
  have hmore : [] ∉ rest ++ [name] := by simpa [hrest] using hname.symm
  rw [happend hmore, happend hrest, List.append_assoc]

variable {follow : Path → List Text → LinkMemo → Except Fault Reached} {here : Path}
  {parts : List Text} {memo : LinkMemo}

/-- One name more is followed from the place that is reached, or it is appended to what a loop has
left. -/
theorem realWith_concat (hparts : [] ∉ parts) (hname : name ≠ []) :
    t.realWith follow here (parts ++ [name]) memo =
      match t.realWith follow here parts memo with
      | .error f => .error f
      | .ok (.place p memo) => t.realWith follow p [name] memo
      | .ok (.loop ps) => .ok (.loop (ps ++ [name])) := by
  induction parts generalizing here memo with
  | nil => rfl
  | cons part rest ih =>
    have hrest : [] ∉ rest := fun h ↦ hparts (List.mem_cons_of_mem part h)
    rw [List.cons_append, realWith, realWith]
    split_ifs with hstay hup hnul
    · exact ih hrest
    · exact ih hrest
    · rfl
    rcases t.visibleLink? (here ++ [part]) with - | target
    · exact ih hrest
    rcases memo.lookup (here ++ [part]) with - | - | known
    · simp only
      rcases follow (if Path.isAbsolute target then [] else here) (Path.parts target)
        ((here ++ [part], none) :: memo) with f | ⟨p, memo'⟩ | ps
      · rfl
      · exact ih hrest
      · simp only [appendParts_concat hrest hname]
    · simp only [appendParts_concat hrest hname]
    · exact ih hrest

/-- A real path with one more name is the real path without it, and that name looked up from there;
a loop keeps the name as it is. -/
theorem realFrom_concat (hparts : [] ∉ parts) (hname : name ≠ []) (depth : Nat) :
    t.realFrom depth here (parts ++ [name]) memo =
      match t.realFrom depth here parts memo with
      | .error f => .error f
      | .ok (.place p memo) => t.realFrom depth p [name] memo
      | .ok (.loop ps) => .ok (.loop (ps ++ [name])) := by
  rw [realFrom_eq]
  exact realWith_concat hparts hname

/-- **A real path goes on to a regular file** in the directory that it leads to. -/
theorem realPath_concat {place : Path} (hempty : [] ∉ parts) (hslash : ∀ part ∈ parts, '/' ∉ part)
    (hname : Path.isName name = true) (hreal : t.realPath parts = .ok place)
    (hresolve : t.resolve (Path.text place) = .ok d)
    (hfile : t.get? (d ++ [name]) = some (.file data)) :
    t.realPath (parts ++ [name]) = .ok (place ++ [name]) := by
  have hne : name ≠ [] := by
    rintro rfl
    cases hname
  rw [realPath] at hreal ⊢
  rw [realFrom_concat hempty hne]
  rcases hfrom : t.realFrom t.linkCount [] parts [] with f | ⟨p, memo⟩ | ps
  · rw [hfrom] at hreal
    cases hreal
  · rw [hfrom] at hreal
    obtain rfl := Except.ok.inj hreal
    -- no link is left in the place, so the directory is there
    have hleads : t.LeadsTo parts p := (followsSoundly_realFrom t.linkCount _ _ _ _ _ hslash
      (fun _ _ hnone ↦ by simp at hnone) hfrom).1
    obtain rfl := hleads.settled.eq_of_resolve_text hleads.plain hresolve
    have hlink : t.visibleLink? (d ++ [name]) = none := by
      rw [visibleLink?, linkTarget?_eq_none_iff.2 (by simp [hfile]), ite_self]
    simp only [realFrom_eq, realWith_enter hname hlink]
    rfl
  · rw [hfrom] at hreal
    obtain rfl := Except.ok.inj hreal
    simp only [Path.normalize_concat hname]

end FileTree

end StaticServer
