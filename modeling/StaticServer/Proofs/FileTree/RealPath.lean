import Mathlib.Data.List.Perm.Subperm
import StaticServer.FileTree.RealPath
import StaticServer.Proofs.FileTree.Leads

/-!
# Real paths are where parts lead

`realFrom` follows links inside one another to a limited depth and remembers the links that it
met. Where parts lead somewhere at all (`Leads`), it ends there: the depth suffices and no link
is taken for a loop (`realFrom_of_leads`, `realPath_of_leads`). Where it ends at a place, the
parts lead there (`leads_of_realFrom`).

The first statement rests on two facts about the links that are being followed at some moment.
They are different links of the tree, so there are no more of them than links (`HasRoom.count`);
and each of them passes more links on its way than are still to be passed (`HasRoom.leads`), so
none of them is met again. The second rests on the memo alone: what it says of a link is where the
link leads (`MemoSound.followed`).

A tree without link loops is therefore one in which `realFrom` reaches a place from every link,
which can be computed (`all_reachesPlace_iff`).
-/

namespace StaticServer.FileTree

variable {t : FileTree}

/-! ### Steps -/

/-- How `realFrom` follows a link, by the depth that is left. -/
def followTo (t : FileTree) : Nat → Path → List Text → LinkMemo → Except Fault Reached
  | 0 => fun p parts _ ↦ .ok (.loop (p ++ parts))
  | depth + 1 => t.realFrom depth

theorem realFrom_eq (depth : Nat) : t.realFrom depth = t.realWith (t.followTo depth) := by
  cases depth <;> rfl

variable {follow : Path → List Text → LinkMemo → Except Fault Reached} {here : Path}
  {part name target : Text} {rest : List Text} {memo : LinkMemo}

theorem realWith_stay (h : Path.isStay part = true) :
    t.realWith follow here (part :: rest) memo = t.realWith follow here rest memo := by
  rw [realWith, if_pos h]

/-- A step up goes on from the directory above. -/
theorem realWith_up :
    t.realWith follow here (Path.up :: rest) memo = t.realWith follow here.dropLast rest memo := by
  rw [realWith, if_neg (by simp), if_pos rfl]

theorem realWith_nul (h : '\x00' ∈ part) :
    t.realWith follow here (part :: rest) memo = .error .nulCharacter := by
  have hstay : Path.isStay part = false := by
    rw [Path.isStay, Bool.or_eq_false_iff]
    constructor
    · rw [List.isEmpty_eq_false_iff]
      exact List.ne_nil_of_mem h
    · rw [decide_eq_false_iff_not]
      rintro rfl
      exact absurd h (by decide)
  have hup : part ≠ Path.up := by
    rintro rfl
    exact absurd h (by decide)
  rw [realWith, if_neg (by simp [hstay]), if_neg hup, if_pos (by simpa using h)]

/-- At a name it matters whether a link stands there, and what the memo says of it. -/
theorem realWith_name (hname : Path.isName name = true) :
    t.realWith follow here (name :: rest) memo =
      match t.visibleLink? (here ++ [name]) with
      | none => t.realWith follow (here ++ [name]) rest memo
      | some target =>
        match memo.lookup (here ++ [name]) with
        | some (some p) => t.realWith follow p rest memo
        | some none => .ok (.loop (appendParts (here ++ [name]) rest))
        | none =>
          match follow (if Path.isAbsolute target then [] else here) (Path.parts target)
              ((here ++ [name], none) :: memo) with
          | .error f => .error f
          | .ok (.place p memo) => t.realWith follow p rest ((here ++ [name], some p) :: memo)
          | .ok (.loop parts) => .ok (.loop (appendParts parts rest)) := by
  rw [realWith, if_neg (by simp [Path.isStay_of_isName hname]),
    if_neg (Path.ne_up_of_isName hname)]
  exact if_neg (by simpa using Path.nul_not_mem_of_isName hname)

/-- A name without a link goes on from the place of that name. -/
theorem realWith_enter (hname : Path.isName name = true)
    (hplain : t.visibleLink? (here ++ [name]) = none) :
    t.realWith follow here (name :: rest) memo = t.realWith follow (here ++ [name]) rest memo := by
  rw [realWith_name hname, hplain]

/-- A link that was followed before goes on from where it led then. -/
theorem realWith_known {p : Path} (hname : Path.isName name = true)
    (hlink : t.visibleLink? (here ++ [name]) = some target)
    (hmemo : memo.lookup (here ++ [name]) = some (some p)) :
    t.realWith follow here (name :: rest) memo = t.realWith follow p rest memo := by
  rw [realWith_name hname, hlink, hmemo]

/-- A link that is still being followed closes a loop. -/
theorem realWith_waiting (hname : Path.isName name = true)
    (hlink : t.visibleLink? (here ++ [name]) = some target)
    (hmemo : memo.lookup (here ++ [name]) = some none) :
    t.realWith follow here (name :: rest) memo =
      .ok (.loop (appendParts (here ++ [name]) rest)) := by
  rw [realWith_name hname, hlink, hmemo]

/-- A link that was not met before is followed from where it stands, as one that is being followed;
what it leads to is remembered. -/
theorem realWith_unfollowed (hname : Path.isName name = true)
    (hlink : t.visibleLink? (here ++ [name]) = some target)
    (hmemo : memo.lookup (here ++ [name]) = none) :
    t.realWith follow here (name :: rest) memo =
      match follow (if Path.isAbsolute target then [] else here) (Path.parts target)
          ((here ++ [name], none) :: memo) with
      | .error f => .error f
      | .ok (.place p memo) => t.realWith follow p rest ((here ++ [name], some p) :: memo)
      | .ok (.loop parts) => .ok (.loop (appendParts parts rest)) := by
  rw [realWith_name hname, hlink, hmemo]

/-- If it leads to a place, the rest goes on from there. -/
theorem realWith_new {p : Path} {memo' : LinkMemo} (hname : Path.isName name = true)
    (hlink : t.visibleLink? (here ++ [name]) = some target)
    (hmemo : memo.lookup (here ++ [name]) = none)
    (hfollow : follow (if Path.isAbsolute target then [] else here) (Path.parts target)
      ((here ++ [name], none) :: memo) = .ok (.place p memo')) :
    t.realWith follow here (name :: rest) memo =
      t.realWith follow p rest ((here ++ [name], some p) :: memo') := by
  rw [realWith_unfollowed hname hlink hmemo, hfollow]

/-! ### The memo and the room that is left -/

/-- What a memo says of links that have been followed is where they lead. -/
def Follows (t : FileTree) (memo : LinkMemo) : Prop :=
  ∀ place p, memo.lookup place = some (some p) → ∃ n, t.LinkLeads n place p

/-- A memo goes on following the tree with a link and what it leads to. -/
theorem Follows.settle {place p : Path} {n : Nat} (h : t.Follows memo)
    (hp : t.LinkLeads n place p) : t.Follows ((place, some p) :: memo) := by
  intro other q hother
  rw [List.lookup_cons] at hother
  split at hother
  · next heq =>
    rw [beq_iff_eq.1 heq]
    simp only [Option.some.injEq] at hother
    exact ⟨n, hother ▸ hp⟩
  · exact h other q hother

/-- So it does with a link that is being followed. -/
theorem Follows.wait (h : t.Follows memo) (place : Path) : t.Follows ((place, none) :: memo) := by
  intro other q hother
  rw [List.lookup_cons] at hother
  split at hother
  · simp at hother
  · exact h other q hother

/-- What a memo says while some links are being followed: the links that it has places for lead
there, and those that it waits for are being followed. -/
structure MemoSound (t : FileTree) (pending : List Path) (memo : LinkMemo) : Prop where
  /-- A link with a place leads there. -/
  followed : t.Follows memo
  /-- A link without a place is being followed. -/
  waiting : ∀ place, memo.lookup place = some none → place ∈ pending

/-- There is room to pass `n` more links at some depth while other links are being followed. -/
structure HasRoom (t : FileTree) (depth : Nat) (pending : List Path) (n : Nat) : Prop where
  /-- No link is followed twice. -/
  nodup : pending.Nodup
  /-- The links that are not followed fit into the depth. -/
  count : t.linkCount ≤ depth + pending.length
  /-- A link that is followed leads somewhere, by way of no fewer links than there are to come. -/
  leads : ∀ place ∈ pending, ∃ k p, n ≤ k ∧ t.LinkLeads k place p

theorem memoSound_nil : t.MemoSound [] [] :=
  ⟨fun _ _ h ↦ by simp at h, fun _ h ↦ by simp at h⟩

/-- A memo stays sound when one more link is being followed. -/
theorem MemoSound.wait {pending : List Path} (h : t.MemoSound pending memo) (place : Path) :
    t.MemoSound (place :: pending) ((place, none) :: memo) := by
  refine ⟨h.followed.wait place, fun other hother ↦ ?_⟩
  rw [List.lookup_cons] at hother
  split at hother
  · next heq => exact beq_iff_eq.1 heq ▸ List.mem_cons_self
  · exact List.mem_cons_of_mem place (h.waiting other hother)

/-- It stays sound when that link has been followed to its end. -/
theorem MemoSound.settle {pending : List Path} {place p : Path} {n : Nat}
    (h : t.MemoSound (place :: pending) memo) (hp : t.LinkLeads n place p) :
    t.MemoSound pending ((place, some p) :: memo) := by
  refine ⟨h.followed.settle hp, fun other hother ↦ ?_⟩
  rw [List.lookup_cons] at hother
  split at hother
  · simp at hother
  · next hne =>
    refine (List.mem_cons.1 (h.waiting other hother)).resolve_left ?_
    rintro rfl
    simp at hne

theorem HasRoom.mono {depth m n : Nat} {pending : List Path} (h : t.HasRoom depth pending n)
    (hle : m ≤ n) : t.HasRoom depth pending m := by
  refine ⟨h.nodup, h.count, fun place hplace ↦ ?_⟩
  obtain ⟨k, p, hk, hp⟩ := h.leads place hplace
  exact ⟨k, p, by omega, hp⟩

/-- A link leads to one place, in one number of steps. -/
theorem LinkLeads.unique {m n : Nat} {place p q : Path} (hp : t.LinkLeads m place p)
    (hq : t.LinkLeads n place q) : m = n ∧ p = q := by
  obtain ⟨here, name, target, rfl, hlink, hleads⟩ := hp
  obtain ⟨here', name', target', hplace, hlink', hleads'⟩ := hq
  obtain ⟨rfl, -⟩ := List.append_inj' hplace rfl
  obtain rfl : target = target' := Option.some_inj.1 (hlink.symm.trans hlink')
  exact hleads.unique hleads'

/-- Different links of a tree are no more than there are links. -/
theorem length_le_linkCount {places : List Path} (hnodup : places.Nodup)
    (hlink : ∀ place ∈ places, ∃ target, t.visibleLink? place = some target) :
    places.length ≤ t.linkCount := by
  have hsub : places ⊆ t.links := by
    intro place hplace
    obtain ⟨target, htarget⟩ := hlink place hplace
    exact mem_links_of_visibleLink? htarget
  exact (List.subperm_of_subset hnodup hsub).length_le

/-- A link that is met is not being followed. -/
theorem HasRoom.not_mem {depth m n : Nat} {pending : List Path} {place p : Path}
    (h : t.HasRoom depth pending (m + n + 1)) (hp : t.LinkLeads m place p) : place ∉ pending := by
  intro hmem
  obtain ⟨k, q, hk, hq⟩ := h.leads place hmem
  have := (hp.unique hq).1
  omega

/-- A link that is met can be followed one level deeper. -/
theorem HasRoom.deeper {depth m n : Nat} {pending : List Path} {place p : Path}
    (h : t.HasRoom depth pending (m + n + 1)) (hp : t.LinkLeads m place p) :
    ∃ d, depth = d + 1 ∧ t.HasRoom d (place :: pending) m := by
  have hnodup : (place :: pending).Nodup := List.nodup_cons.2 ⟨h.not_mem hp, h.nodup⟩
  have hleads : ∀ other ∈ place :: pending, ∃ k q, m ≤ k ∧ t.LinkLeads k other q := by
    intro other hother
    rcases List.mem_cons.1 hother with rfl | hother
    · exact ⟨m, p, Nat.le_refl m, hp⟩
    · obtain ⟨k, q, hk, hq⟩ := h.leads other hother
      exact ⟨k, q, by omega, hq⟩
  have hlen : (place :: pending).length ≤ t.linkCount := by
    refine length_le_linkCount hnodup fun other hother ↦ ?_
    obtain ⟨_, _, -, _, _, target, -, htarget, -⟩ := hleads other hother
    exact ⟨target, htarget⟩
  have hcount := h.count
  rw [List.length_cons] at hlen
  refine ⟨depth - 1, by omega, hnodup, ?_, hleads⟩
  rw [List.length_cons]
  omega

/-! ### Where parts lead is reached -/

/-- Following parts that lead somewhere goes on from there, whatever parts come behind them. -/
theorem realFrom_of_leads {n : Nat} {here : Path} {parts : List Text} {q : Path}
    (h : t.Leads n here parts q) : ∀ {depth : Nat} {pending : List Path} {memo : LinkMemo}
      (tail : List Text), t.MemoSound pending memo → t.HasRoom depth pending n →
      ∃ memo', t.MemoSound pending memo' ∧
        t.realFrom depth here (parts ++ tail) memo = t.realFrom depth q tail memo' := by
  induction h with
  | done here => exact fun tail hmemo _ ↦ ⟨_, hmemo, rfl⟩
  | stay hpart _ ih =>
    intro depth pending memo tail hmemo hroom
    obtain ⟨memo', hmemo', heq⟩ := ih tail hmemo hroom
    refine ⟨memo', hmemo', ?_⟩
    rw [realFrom_eq] at heq ⊢
    rw [List.cons_append, realWith_stay hpart, heq]
  | up _ ih =>
    intro depth pending memo tail hmemo hroom
    obtain ⟨memo', hmemo', heq⟩ := ih tail hmemo hroom
    refine ⟨memo', hmemo', ?_⟩
    rw [realFrom_eq] at heq ⊢
    rw [List.cons_append, realWith_up, heq]
  | enter hname hplain _ ih =>
    intro depth pending memo tail hmemo hroom
    obtain ⟨memo', hmemo', heq⟩ := ih tail hmemo hroom
    refine ⟨memo', hmemo', ?_⟩
    rw [realFrom_eq] at heq ⊢
    rw [List.cons_append, realWith_enter hname hplain, heq]
  | @follow m n here name target rest p q hname hlink htarget _ ihTarget ih =>
    intro depth pending memo tail hmemo hroom
    have hleads : t.LinkLeads m (here ++ [name]) p := ⟨here, name, target, rfl, hlink, htarget⟩
    rcases hlookup : memo.lookup (here ++ [name]) with - | - | known
    · -- the link is new: it takes one level, and passes only the links on the way to its target
      obtain ⟨d, rfl, hdeeper⟩ := hroom.deeper hleads
      obtain ⟨memo₁, hmemo₁, heq₁⟩ := ihTarget [] (hmemo.wait _) hdeeper
      obtain ⟨memo₂, hmemo₂, heq₂⟩ := ih tail (hmemo₁.settle hleads) (hroom.mono (by omega))
      refine ⟨memo₂, hmemo₂, ?_⟩
      have hfollow : t.followTo (d + 1) (if Path.isAbsolute target then [] else here)
          (Path.parts target) ((here ++ [name], none) :: memo) = .ok (.place p memo₁) := by
        rw [followTo, ← List.append_nil (Path.parts target), heq₁, realFrom_eq, realWith]
      rw [realFrom_eq] at heq₂ ⊢
      rw [List.cons_append, realWith_new hname hlink hlookup hfollow, heq₂]
    · -- the link is being followed: it would have to pass more links than itself
      exact absurd (hmemo.waiting _ hlookup) (hroom.not_mem hleads)
    · -- the link was followed before: a sound memo has nothing but what it leads to
      obtain ⟨k, hknown⟩ := hmemo.followed _ _ hlookup
      obtain rfl := (hknown.unique hleads).2
      obtain ⟨memo', hmemo', heq⟩ := ih tail hmemo (hroom.mono (by omega))
      refine ⟨memo', hmemo', ?_⟩
      rw [realFrom_eq] at heq ⊢
      rw [List.cons_append, realWith_known hname hlink hlookup, heq]

theorem hasRoom_linkCount (t : FileTree) (n : Nat) : t.HasRoom t.linkCount [] n :=
  ⟨List.nodup_nil, by simp, fun _ h ↦ absurd h List.not_mem_nil⟩

/-- Where parts lead somewhere, the depth of the tree's links is enough to find it. -/
theorem exists_realFrom_eq_place {n : Nat} {here : Path} {parts : List Text} {q : Path}
    (h : t.Leads n here parts q) :
    ∃ memo, t.realFrom t.linkCount here parts [] = .ok (.place q memo) := by
  obtain ⟨memo, -, heq⟩ := realFrom_of_leads h [] memoSound_nil (t.hasRoom_linkCount n)
  refine ⟨memo, ?_⟩
  rw [← List.append_nil parts, heq, realFrom_eq, realWith]

/-- **The real path of parts is where they lead.** -/
theorem realPath_of_leads {n : Nat} {parts : List Text} {q : Path} (h : t.Leads n [] parts q) :
    t.realPath parts = .ok q := by
  obtain ⟨memo, heq⟩ := exists_realFrom_eq_place h
  rw [realPath, heq]

/-- **The real path of parts that lead somewhere is the place that they lead to.** -/
theorem LeadsTo.realPath_eq {parts : List Text} {q : Path} (h : t.LeadsTo parts q) :
    t.realPath parts = .ok q := by
  obtain ⟨n, h⟩ := h
  exact realPath_of_leads h

/-- A real path cannot be anywhere else. -/
theorem LeadsTo.eq_of_realPath {parts : List Text} {p q : Path} (h : t.LeadsTo parts q)
    (hp : t.realPath parts = .ok p) : q = p :=
  Except.ok.inj (h.realPath_eq.symm.trans hp)

/-- Without loops, parts with the character NUL in one of them have no real path. -/
theorem LoopFree.realPath_of_nul (h : t.LoopFree) {parts : List Text}
    (hslash : ∀ part ∈ parts, '/' ∉ part) {part : Text} (hpart : part ∈ parts)
    (hnul : '\x00' ∈ part) : t.realPath parts = .error .nulCharacter := by
  -- the parts up to the first one with that character lead somewhere
  obtain ⟨first, hfirst⟩ : ∃ first, parts.find? (fun x ↦ decide ('\x00' ∈ x)) = some first := by
    rw [← Option.isSome_iff_exists, List.find?_isSome]
    exact ⟨part, hpart, by simpa using hnul⟩
  obtain ⟨hbad, before, after, rfl, hbefore⟩ := List.find?_eq_some_iff_append.1 hfirst
  have hclean : ∀ x ∈ before, '\x00' ∉ x := fun x hx ↦ by simpa using hbefore x hx
  obtain ⟨n, p, hp⟩ := h.exists_leads [] (fun x hx ↦ hslash x (List.mem_append_left _ hx)) hclean
  obtain ⟨memo, -, heq⟩ := realFrom_of_leads hp (first :: after) memoSound_nil
    (t.hasRoom_linkCount n)
  rw [realPath, heq, realFrom_eq, realWith_nul (by simpa using hbad)]

/-- **Without loops a real path is where the parts lead.** -/
theorem LoopFree.leadsTo_of_realPath (h : t.LoopFree) {parts : List Text} {q : Path}
    (hslash : ∀ part ∈ parts, '/' ∉ part) (hq : t.realPath parts = .ok q) : t.LeadsTo parts q := by
  have hnul : ∀ part ∈ parts, '\x00' ∉ part := by
    intro part hpart hmem
    rw [h.realPath_of_nul hslash hpart hmem] at hq
    cases hq
  obtain ⟨p, hp⟩ := h.exists_leadsTo hslash hnul
  obtain rfl : p = q := Except.ok.inj (hp.realPath_eq.symm.trans hq)
  exact hp

/-! ### What is reached is where parts lead -/

/-- Following parts ends only at places to which the parts lead, and remembers only such. -/
def FollowsSoundly (t : FileTree)
    (follow : Path → List Text → LinkMemo → Except Fault Reached) : Prop :=
  ∀ here parts memo q memo', (∀ part ∈ parts, '/' ∉ part) → t.Follows memo →
    follow here parts memo = .ok (.place q memo') → (∃ n, t.Leads n here parts q) ∧ t.Follows memo'

/-- A way to follow links soundly is a way to follow parts soundly. -/
theorem FollowsSoundly.realWith (hfollow : t.FollowsSoundly follow) :
    t.FollowsSoundly (t.realWith follow) := by
  -- by induction on the parts, for every place and memo: a link changes both
  intro here parts
  induction parts generalizing here with
  | nil =>
    intro memo q memo' _ hmemo heq
    simp only [FileTree.realWith, Except.ok.injEq, Reached.place.injEq] at heq
    obtain ⟨rfl, rfl⟩ := heq
    exact ⟨⟨0, .done here⟩, hmemo⟩
  | cons part rest ih =>
    intro memo q memo' hslash hmemo heq
    have hrest : ∀ x ∈ rest, '/' ∉ x := fun x hx ↦ hslash x (List.mem_cons_of_mem part hx)
    by_cases hstay : Path.isStay part = true
    · rw [realWith_stay hstay] at heq
      obtain ⟨⟨n, hq⟩, hmemo'⟩ := ih here memo q memo' hrest hmemo heq
      exact ⟨⟨n, .stay hstay hq⟩, hmemo'⟩
    by_cases hup : part = Path.up
    · subst hup
      rw [realWith_up] at heq
      obtain ⟨⟨n, hq⟩, hmemo'⟩ := ih here.dropLast memo q memo' hrest hmemo heq
      exact ⟨⟨n, .up hq⟩, hmemo'⟩
    by_cases hnul : '\x00' ∈ part
    · simp [realWith_nul hnul] at heq
    have hname : Path.isName part = true :=
      Path.isName_iff.2 ⟨by simpa using hstay, hup, hslash part List.mem_cons_self, hnul⟩
    rcases hlink : t.visibleLink? (here ++ [part]) with - | target
    · rw [realWith_enter hname hlink] at heq
      obtain ⟨⟨n, hq⟩, hmemo'⟩ := ih (here ++ [part]) memo q memo' hrest hmemo heq
      exact ⟨⟨n, .enter hname hlink hq⟩, hmemo'⟩
    rcases hlookup : memo.lookup (here ++ [part]) with - | - | known
    · rcases hto : follow (if Path.isAbsolute target then [] else here) (Path.parts target)
          ((here ++ [part], none) :: memo) with fault | ⟨p, memo₁⟩ | looped
      · rw [realWith_unfollowed hname hlink hlookup, hto] at heq
        simp at heq
      · obtain ⟨⟨m, hp⟩, hmemo₁⟩ := hfollow _ _ _ _ _
          (fun x hx ↦ Path.slash_not_mem_of_mem_parts hx) (hmemo.wait _) hto
        rw [realWith_new hname hlink hlookup hto] at heq
        obtain ⟨⟨n, hq⟩, hmemo'⟩ := ih p _ q memo' hrest
          (hmemo₁.settle ⟨here, part, target, rfl, hlink, hp⟩) heq
        exact ⟨⟨m + n + 1, .follow hname hlink hp hq⟩, hmemo'⟩
      · rw [realWith_unfollowed hname hlink hlookup, hto] at heq
        simp at heq
    · rw [realWith_waiting hname hlink hlookup] at heq
      simp at heq
    · obtain ⟨m, here', name', target', hplace, hlink', hp⟩ := hmemo _ _ hlookup
      obtain ⟨rfl, hsame⟩ := List.append_inj' hplace rfl
      obtain rfl := List.singleton_inj.1 hsame
      rw [realWith_known hname hlink hlookup] at heq
      obtain ⟨⟨n, hq⟩, hmemo'⟩ := ih known memo q memo' hrest hmemo heq
      obtain rfl : target = target' := Option.some_inj.1 (hlink.symm.trans hlink')
      exact ⟨⟨m + n + 1, .follow hname hlink hp hq⟩, hmemo'⟩

/-- Following to any depth is sound. -/
theorem followsSoundly_realFrom (depth : Nat) : t.FollowsSoundly (t.realFrom depth) := by
  induction depth with
  | zero =>
    refine FollowsSoundly.realWith fun here parts memo q memo' _ _ heq ↦ ?_
    simp at heq
  | succ depth ih => exact ih.realWith

/-- The place that parts lead to from the root of the file system, if they lead anywhere. -/
def destination? (t : FileTree) (parts : List Text) : Option Path :=
  match t.realFrom t.linkCount [] parts [] with
  | .ok (.place q _) => some q
  | _ => none

/-- **Where parts lead can be computed.** -/
theorem destination?_eq_some_iff {parts : List Text} {q : Path}
    (hslash : ∀ part ∈ parts, '/' ∉ part) :
    t.destination? parts = some q ↔ t.LeadsTo parts q := by
  rw [destination?]
  constructor
  · intro h
    split at h
    · next p memo heq =>
      obtain rfl := Option.some_inj.1 h
      exact (followsSoundly_realFrom t.linkCount _ _ _ _ _ hslash
        (fun _ _ hnone ↦ by simp at hnone) heq).1
    · cases h
  · rintro ⟨n, h⟩
    obtain ⟨memo, heq⟩ := exists_realFrom_eq_place h
    rw [heq]

/-- A tree has no link loops exactly when following every link reaches a place. -/
theorem loopFree_iff : t.LoopFree ↔
    ∀ place ∈ t.links, ∀ target, t.visibleLink? place = some target →
      ∃ p memo, t.realFrom t.linkCount (if Path.isAbsolute target then [] else place.dropLast)
        (Path.parts target) [] = .ok (.place p memo) := by
  constructor
  · intro h place _ target hlink
    obtain ⟨here, name, rfl⟩ : ∃ here name, place = here ++ [name] := by
      refine ⟨place.dropLast, place.getLast ?_, (List.dropLast_append_getLast _).symm⟩
      rintro rfl
      simp at hlink
    obtain ⟨n, p, hp⟩ := h here name target hlink
    rw [List.dropLast_concat]
    exact ⟨p, exists_realFrom_eq_place hp⟩
  · intro h here name target hlink
    obtain ⟨p, memo, heq⟩ := h _ (mem_links_of_visibleLink? hlink) target hlink
    rw [List.dropLast_concat] at heq
    obtain ⟨⟨n, hp⟩, -⟩ := followsSoundly_realFrom t.linkCount _ _ _ _ _
      (fun x hx ↦ Path.slash_not_mem_of_mem_parts hx) (fun _ _ hnone ↦ by simp at hnone) heq
    exact ⟨n, p, hp⟩

/-- Does following the link at a place, if there is one, reach a place? -/
def reachesPlace (t : FileTree) (place : Path) : Bool :=
  match t.visibleLink? place with
  | none => true
  | some target =>
    match t.realFrom t.linkCount (if Path.isAbsolute target then [] else place.dropLast)
        (Path.parts target) [] with
    | .ok (.place _ _) => true
    | _ => false

/-- **Whether a tree has link loops can be computed** by following every link. -/
theorem all_reachesPlace_iff : t.links.all t.reachesPlace = true ↔ t.LoopFree := by
  rw [loopFree_iff, List.all_eq_true]
  refine forall₂_congr fun place _ ↦ ?_
  rw [reachesPlace]
  rcases t.visibleLink? place with - | target
  · simp
  · simp only [Option.some.injEq, forall_eq']
    split
    · next p memo heq => simp [heq]
    · next hne =>
      refine iff_of_false Bool.false_ne_true ?_
      rintro ⟨p, memo, heq⟩
      exact hne p memo heq

instance (t : FileTree) : Decidable t.LoopFree :=
  decidable_of_iff _ all_reachesPlace_iff

end StaticServer.FileTree
