import Mathlib.Logic.Relation
import StaticServer.FileTree.Path

/-!
# The lexical normal form of a relative path

Two simplifications leave a relative path lexically the same: dropping a part that stays where it
is, and cancelling a name against the double dot behind it (`Reduces`). A path is in normal form
when double dots stand at its front only and nothing stays where it is (`IsNormal`).

`normalizeRelative` computes the normal form: it is in normal form (`isNormal_normalizeRelative`),
it is reached by simplifying (`reduces_normalizeRelative`), and it is the only such path
(`normalizeRelative_eq_iff`). In particular a simplification at any place in a path changes nothing
of its normal form (`Reduces.normalizeRelative_eq`), so two paths are the same by simplifying to and
fro exactly when they are the same to everything that goes by the normal form
(`eqvGen_reduces_iff`).
-/

namespace StaticServer.Path

open Relation

/-- One simplification of the parts of a relative path. -/
inductive Reduces : List Text → List Text → Prop
  /-- A part that stays where it is goes. -/
  | stay {before after : List Text} {part : Text} (hpart : isStay part = true) :
      Reduces (before ++ part :: after) (before ++ after)
  /-- A name and the double dot behind it go, whether or not there is an entry with that name. -/
  | cancel {before after : List Text} {name : Text} (hstay : isStay name = false)
      (hup : name ≠ up) : Reduces (before ++ name :: up :: after) (before ++ after)

/-- Double dots at the front only, and no part that stays where it is. -/
def IsNormal (ps : List Text) : Prop :=
  ∃ n names, ps = List.replicate n up ++ names ∧ ∀ name ∈ names, isStay name = false ∧ name ≠ up

/-! ### One more part -/

theorem pushRelative_stay {ps : List Text} {part : Text} (h : isStay part = true) :
    pushRelative ps part = ps := by
  rw [pushRelative, if_pos h]

theorem pushRelative_name {ps : List Text} {name : Text} (hstay : isStay name = false)
    (hup : name ≠ up) : pushRelative ps name = ps ++ [name] := by
  rw [pushRelative, if_neg (by simp [hstay]), if_neg (by simp [hup])]

/-- A step up takes away the name before it. -/
theorem pushRelative_up_concat {ps : List Text} {name : Text} (hup : name ≠ up) :
    pushRelative (ps ++ [name]) up = ps := by
  have hback : (up = up &&
      !((ps ++ [name]).isEmpty || (ps ++ [name]).getLast? = some up)) = true := by
    simp [hup]
  rw [pushRelative, if_neg (by decide), if_pos hback, List.dropLast_concat]

/-- A step up stays where only steps up stand before it. -/
theorem pushRelative_up_front (n : Nat) :
    pushRelative (List.replicate n up) up = List.replicate (n + 1) up := by
  have hstop : (up = up &&
      !((List.replicate n up).isEmpty || (List.replicate n up).getLast? = some up)) = false := by
    rcases n with - | n
    · decide
    · simp [List.getLast?_replicate]
  rw [pushRelative, if_neg (by decide), hstop, if_neg Bool.false_ne_true, List.replicate_succ']

/-! ### The normal form is normal -/

/-- One more part keeps the normal form. -/
theorem IsNormal.pushRelative {ps : List Text} (h : IsNormal ps) (part : Text) :
    IsNormal (pushRelative ps part) := by
  obtain ⟨n, names, rfl, hnames⟩ := h
  rcases hstay : isStay part with - | -
  · by_cases hup : part = up
    · subst hup
      rcases List.eq_nil_or_concat names with rfl | ⟨front, last, rfl⟩
      · rw [List.append_nil, pushRelative_up_front]
        exact ⟨n + 1, [], by rw [List.append_nil], by simp⟩
      · rw [List.concat_eq_append] at hnames ⊢
        have hlast := hnames last (List.mem_append_right front List.mem_cons_self)
        rw [← List.append_assoc, pushRelative_up_concat hlast.2]
        exact ⟨n, front, rfl, fun name hname ↦ hnames name (List.mem_append_left _ hname)⟩
    · rw [pushRelative_name hstay hup]
      refine ⟨n, names ++ [part], List.append_assoc _ _ _, fun name hname ↦ ?_⟩
      rcases List.mem_append.1 hname with hname | hname
      · exact hnames name hname
      · obtain rfl := List.mem_singleton.1 hname
        exact ⟨hstay, hup⟩
  · rw [pushRelative_stay hstay]
    exact ⟨n, names, rfl, hnames⟩

theorem isNormal_nil : IsNormal [] :=
  ⟨0, [], rfl, by simp⟩

/-- So do all parts one after another. -/
theorem isNormal_foldl {acc : List Text} (h : IsNormal acc) (ps : List Text) :
    IsNormal (ps.foldl pushRelative acc) := by
  induction ps generalizing acc with
  | nil => exact h
  | cons part rest ih => exact ih (h.pushRelative part)

/-- **The normal form is in normal form.** -/
theorem isNormal_normalizeRelative (ps : List Text) : IsNormal (normalizeRelative ps) :=
  isNormal_foldl isNormal_nil ps

/-! ### The normal form is reached by simplifying -/

/-- And what comes of them is reached by reductions. -/
theorem reduces_foldl {acc : List Text} (h : IsNormal acc) (ps : List Text) :
    ReflTransGen Reduces (acc ++ ps) (ps.foldl pushRelative acc) := by
  induction ps generalizing acc with
  | nil =>
    rw [List.append_nil]
    exact .refl
  | cons part rest ih =>
    have hrest := ih (h.pushRelative part)
    rw [List.foldl_cons]
    rcases hstay : isStay part with - | -
    · by_cases hup : part = up
      · subst hup
        obtain ⟨n, names, rfl, hnames⟩ := h
        -- with no name to cancel, the double dot is one more at the front
        rcases List.eq_nil_or_concat names with rfl | ⟨front, last, rfl⟩
        · rw [List.append_nil, pushRelative_up_front] at hrest ⊢
          have hsplit : List.replicate (n + 1) up ++ rest = List.replicate n up ++ up :: rest := by
            rw [List.replicate_succ', List.append_assoc, List.singleton_append]
          rwa [hsplit] at hrest
        · rw [List.concat_eq_append] at hnames hrest ⊢
          have hlast := hnames last (List.mem_append_right front List.mem_cons_self)
          rw [← List.append_assoc, pushRelative_up_concat hlast.2] at hrest ⊢
          rw [List.append_assoc _ [last], List.singleton_append]
          exact .head (.cancel hlast.1 hlast.2) hrest
      · rw [pushRelative_name hstay hup] at hrest ⊢
        rwa [List.append_assoc, List.singleton_append] at hrest
    · rw [pushRelative_stay hstay] at hrest ⊢
      exact .head (.stay hstay) hrest

/-- **The normal form is reached by simplifying.** -/
theorem reduces_normalizeRelative (ps : List Text) :
    ReflTransGen Reduces ps (normalizeRelative ps) :=
  reduces_foldl isNormal_nil ps

/-! ### Simplifying keeps the normal form -/

/-- **A simplification keeps the normal form.** -/
theorem Reduces.normalizeRelative_eq {ps qs : List Text} (h : Reduces ps qs) :
    normalizeRelative ps = normalizeRelative qs := by
  cases h with
  | stay hpart =>
    rw [normalizeRelative, normalizeRelative, List.foldl_append, List.foldl_append,
      List.foldl_cons, pushRelative_stay hpart]
  | cancel hstay hup =>
    rw [normalizeRelative, normalizeRelative, List.foldl_append, List.foldl_append,
      List.foldl_cons, List.foldl_cons, pushRelative_name hstay hup, pushRelative_up_concat hup]

/-- Reductions do not change the normal form. -/
theorem normalizeRelative_eq_of_reduces {ps qs : List Text} (h : ReflTransGen Reduces ps qs) :
    normalizeRelative ps = normalizeRelative qs := by
  induction h with
  | refl => rfl
  | tail _ hstep ih => rw [ih, hstep.normalizeRelative_eq]

/-- **Two paths are the same by simplifying to and fro exactly when they have one normal form.** -/
theorem eqvGen_reduces_iff {ps qs : List Text} :
    EqvGen Reduces ps qs ↔ normalizeRelative ps = normalizeRelative qs := by
  constructor
  · intro h
    induction h with
    | rel _ _ hstep => exact hstep.normalizeRelative_eq
    | refl _ => rfl
    | symm _ _ _ ih => exact ih.symm
    | trans _ _ _ _ _ ih ih' => exact ih.trans ih'
  · intro h
    have hps := EqvGen.reflTransGen_le_eqvGen Reduces ps _ (reduces_normalizeRelative ps)
    have hqs := EqvGen.reflTransGen_le_eqvGen Reduces qs _ (reduces_normalizeRelative qs)
    rw [h] at hps
    exact .trans _ _ _ hps (.symm _ _ hqs)

theorem foldl_pushRelative_names {names : List Text}
    (h : ∀ name ∈ names, isStay name = false ∧ name ≠ up) (acc : List Text) :
    names.foldl pushRelative acc = acc ++ names := by
  induction names generalizing acc with
  | nil => rw [List.foldl_nil, List.append_nil]
  | cons name rest ih =>
    obtain ⟨hstay, hup⟩ := h name List.mem_cons_self
    rw [List.foldl_cons, pushRelative_name hstay hup,
      ih fun other hother ↦ h other (List.mem_cons_of_mem name hother), List.append_assoc,
      List.singleton_append]

theorem normalizeRelative_replicate (n : Nat) :
    normalizeRelative (List.replicate n up) = List.replicate n up := by
  induction n with
  | zero => rfl
  | succ n ih =>
    rw [normalizeRelative] at ih ⊢
    rw [List.replicate_succ', List.foldl_append, ih, List.foldl_cons, List.foldl_nil,
      pushRelative_up_front, List.replicate_succ']

/-- What is in normal form already stays as it is. -/
theorem IsNormal.normalizeRelative_eq {ps : List Text} (h : IsNormal ps) :
    normalizeRelative ps = ps := by
  obtain ⟨n, names, rfl, hnames⟩ := h
  have hfront := normalizeRelative_replicate n
  rw [normalizeRelative] at hfront ⊢
  rw [List.foldl_append, hfront, foldl_pushRelative_names hnames]

/-- **The normal form is the only one** that simplifying leads to. -/
theorem normalizeRelative_eq_iff {ps qs : List Text} :
    normalizeRelative ps = qs ↔ IsNormal qs ∧ ReflTransGen Reduces ps qs := by
  constructor
  · rintro rfl
    exact ⟨isNormal_normalizeRelative ps, reduces_normalizeRelative ps⟩
  · rintro ⟨hnormal, hreduces⟩
    rw [normalizeRelative_eq_of_reduces hreduces, hnormal.normalizeRelative_eq]

/-! ### Simplifying adds nothing -/

/-- A reduction brings no new part. -/
theorem Reduces.subset {ps qs : List Text} (h : Reduces ps qs) : qs ⊆ ps := by
  cases h with
  | stay => exact List.append_subset.2 ⟨List.subset_append_left _ _, fun part hpart ↦
      List.mem_append_right _ (List.mem_cons_of_mem _ hpart)⟩
  | cancel => exact List.append_subset.2 ⟨List.subset_append_left _ _, fun part hpart ↦
      List.mem_append_right _ (List.mem_cons_of_mem _ (List.mem_cons_of_mem _ hpart))⟩

/-- The normal form has no parts that the path has not. -/
theorem normalizeRelative_subset (ps : List Text) : normalizeRelative ps ⊆ ps := by
  have hsubset {qs : List Text} (h : ReflTransGen Reduces ps qs) : qs ⊆ ps := by
    induction h with
    | refl => exact List.Subset.refl ps
    | tail _ hstep ih => exact List.Subset.trans hstep.subset ih
  exact hsubset (reduces_normalizeRelative ps)

end StaticServer.Path
