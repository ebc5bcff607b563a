import Mathlib.Data.List.Induction
import Mathlib.Data.List.Nodup
import StaticServer.Settings.Dotenv

/-!
# Entries that are given again

The entries of a settings file become bindings: a name that is given again keeps its place and
takes the new value. Names are looked up there without regard to letter case, and the last of
several spellings wins. So that spelling counts whose first entry comes last, and of its entries
the last one (`Counts`, `counts_iff`). That need not be the last entry of all, unless there is one
spelling only (`counts_iff_getLast?`).

The value of an entry may refer to earlier entries and to variables. `Dotenv.given` are the
entries with their references replaced; an entry without a reference stays as it is written
(`Dotenv.named_given_of_isPlain`).
-/

namespace StaticServer

namespace Bindings

variable {α : Type}

/-! ### Giving a value -/

theorem get?_cons (n : Text) (v : α) (b : Bindings α) (m : Text) :
    get? ((n, v) :: b) m = if m = n then some v else b.get? m := by
  by_cases h : m = n
  · simp [get?, h]
  · have h' : (m == n) = false := beq_false_of_ne h
    simp [get?, List.lookup_cons, h, h']

/-- A name that is put again keeps its place. -/
theorem names_put (n : Text) (v : α) (b : Bindings α) :
    (put n v b).map Prod.fst =
      if n ∈ b.map Prod.fst then b.map Prod.fst else b.map Prod.fst ++ [n] := by
  induction b with
  | nil => rfl
  | cons e b ih =>
    obtain ⟨m, w⟩ := e
    by_cases h : m = n
    · simp [put, h]
    · have h' : n ≠ m := Ne.symm h
      by_cases hn : n ∈ b.map Prod.fst <;> simp_all [put]

theorem get?_put (n : Text) (v : α) (b : Bindings α) (m : Text) :
    (put n v b).get? m = if m = n then some v else b.get? m := by
  induction b with
  | nil => exact get?_cons n v [] m
  | cons e b ih =>
    obtain ⟨k, w⟩ := e
    by_cases hk : k = n
    · subst hk
      rw [put, if_pos rfl, get?_cons, get?_cons]
      split <;> rfl
    · simp only [put, if_neg hk, get?_cons, ih]
      by_cases h : m = k
      · rw [if_pos h, if_pos h, if_neg (h ▸ hk)]
      · rw [if_neg h, if_neg h]

/-- Bindings of chosen names do not change with a value for another name. -/
theorem filter_put (p : Text → Bool) (n : Text) (v : α) (b : Bindings α) :
    (put n v b).filter (fun e ↦ p e.1) =
      if p n then put n v (b.filter fun e ↦ p e.1) else b.filter fun e ↦ p e.1 := by
  induction b with
  | nil => by_cases h : p n <;> simp [put, h]
  | cons e b ih =>
    obtain ⟨m, w⟩ := e
    by_cases hm : m = n
    · subst hm
      by_cases h : p m <;> simp [put, h]
    · by_cases hpm : p m <;> by_cases hpn : p n <;> simp_all [put]

/-! ### Giving values one after the other -/

theorem ofList_concat (es : List (Text × α)) (n : Text) (v : α) :
    ofList (es ++ [(n, v)]) = put n v (ofList es) :=
  List.foldl_append ..

/-- Bindings made of entries have the names of the entries, -/
theorem mem_names_ofList {es : List (Text × α)} {m : Text} :
    m ∈ (ofList es).map Prod.fst ↔ m ∈ es.map Prod.fst := by
  induction es using List.reverseRecOn with
  | nil => exact Iff.rfl
  | append_singleton es e ih =>
    rw [ofList_concat, names_put, List.map_append, List.mem_append, ← ih]
    split
    case isTrue h => exact ⟨.inl, fun h' ↦ h'.elim id fun h' ↦ List.mem_singleton.1 h' ▸ h⟩
    case isFalse h => exact List.mem_append

/-- each of them once. -/
theorem nodup_names_ofList (es : List (Text × α)) : ((ofList es).map Prod.fst).Nodup := by
  induction es using List.reverseRecOn with
  | nil => exact List.nodup_nil
  | append_singleton es e ih =>
    rw [ofList_concat, names_put]
    split
    case isTrue h => exact ih
    case isFalse h => exact List.nodup_append_comm.1 (List.nodup_cons.2 ⟨h, ih⟩)

/-- The value of a name is that of its last entry. -/
theorem get?_ofList (es : List (Text × α)) (m : Text) :
    (ofList es).get? m = es.reverse.lookup m := by
  induction es using List.reverseRecOn with
  | nil => rfl
  | append_singleton es e ih =>
    rw [ofList_concat, get?_put, ih, List.reverse_append]
    exact (get?_cons e.1 e.2 es.reverse m).symm

/-- Entries can be picked by name before or after they are made bindings. -/
theorem filter_ofList (p : Text → Bool) (es : List (Text × α)) :
    (ofList es).filter (fun e ↦ p e.1) = ofList (es.filter fun e ↦ p e.1) := by
  induction es using List.reverseRecOn with
  | nil => rfl
  | append_singleton es e ih =>
    rw [ofList_concat, filter_put, ih, List.filter_append]
    by_cases h : p e.1
    · rw [if_pos h, List.filter_singleton, h, cond_true, ofList_concat]
    · rw [if_neg h, List.filter_singleton, eq_false_of_ne_true h, cond_false, List.append_nil]

/-! ### The entry that counts -/

/-- Among entries whose names are spellings of one name this name and value count: no spelling
turns up later for the first time, and the last entry of the spelling has the value. -/
structure Counts (es : List (Text × α)) (n : Text) (v : α) : Prop where
  /-- No spelling turns up later for the first time. -/
  turnsUpLast : ∀ m ∈ es.map Prod.fst, (es.map Prod.fst).idxOf m ≤ (es.map Prod.fst).idxOf n
  /-- The last entry of the spelling has the value. -/
  isLast : es.reverse.lookup n = some v

theorem Counts.mem {es : List (Text × α)} {n : Text} {v : α} (h : Counts es n v) :
    n ∈ es.map Prod.fst := by
  rw [← mem_names_ofList]
  obtain ⟨before, after, heq, -⟩ :=
    List.lookup_eq_some_iff.1 ((get?_ofList es n).trans h.isLast)
  simp [heq]

/-- No two entries count. -/
theorem Counts.eq {es : List (Text × α)} {n m : Text} {v w : α} (h : Counts es n v)
    (h' : Counts es m w) : (n, v) = (m, w) := by
  have hi : (es.map Prod.fst).idxOf n = (es.map Prod.fst).idxOf m :=
    Nat.le_antisymm (h'.turnsUpLast n h.mem) (h.turnsUpLast m h'.mem)
  obtain rfl : n = m := (List.idxOf_inj h.mem).1 hi
  rw [Option.some.inj (h.isLast.symm.trans h'.isLast)]

/-- The last name among bindings is the one that turned up last. -/
theorem idxOf_le_of_getLast? {es : List (Text × α)} {n : Text}
    (h : ((ofList es).map Prod.fst).getLast? = some n) :
    ∀ m ∈ es.map Prod.fst, (es.map Prod.fst).idxOf m ≤ (es.map Prod.fst).idxOf n := by
  induction es using List.reverseRecOn with
  | nil => nofun
  | append_singleton es e ih =>
    rw [ofList_concat, names_put] at h
    intro m hm
    rw [List.map_append] at hm ⊢
    split at h
    case isTrue he =>
      have hn : n ∈ es.map Prod.fst := mem_names_ofList.1 (List.mem_of_getLast? h)
      have hm' : m ∈ es.map Prod.fst := by
        rcases List.mem_append.1 hm with hm | hm
        · exact hm
        · rw [List.mem_singleton.1 hm]
          exact mem_names_ofList.1 he
      rw [List.idxOf_append_of_mem hm', List.idxOf_append_of_mem hn]
      exact ih h m hm'
    case isFalse he =>
      obtain rfl : e.1 = n := by simpa using h
      have hn : e.1 ∉ es.map Prod.fst := fun h' ↦ he (mem_names_ofList.2 h')
      rw [List.idxOf_append_of_notMem hn]
      have := List.idxOf_lt_length_of_mem hm
      simp at this ⊢
      omega

/-- The last binding is the entry that counts. -/
theorem counts_of_getLast? {es : List (Text × α)} {n : Text} {v : α}
    (h : (ofList es).getLast? = some (n, v)) : Counts es n v where
  turnsUpLast := idxOf_le_of_getLast? (by rw [List.getLast?_map, h]; rfl)
  isLast := by
    rw [← get?_ofList]
    obtain ⟨before, hb⟩ := List.getLast?_eq_some_iff.1 h
    have hnodup := nodup_names_ofList es
    rw [hb, List.map_append] at hnodup
    have hn : n ∉ before.map Prod.fst := fun h' ↦
      (List.nodup_append.1 hnodup).2.2 n h' n (List.mem_singleton.2 rfl) rfl
    refine List.lookup_eq_some_iff.2 ⟨before, [], hb, fun e he ↦ bne_iff_ne.2 fun h' ↦ hn ?_⟩
    exact h' ▸ List.mem_map_of_mem he

/-- What counts among entries is what stands last among their bindings. -/
theorem counts_iff {es : List (Text × α)} {n : Text} {v : α} :
    Counts es n v ↔ (ofList es).getLast? = some (n, v) := by
  refine ⟨fun h ↦ ?_, counts_of_getLast?⟩
  cases hlast : (ofList es).getLast? with
  | none =>
    have hmem := mem_names_ofList.2 h.mem
    rw [List.getLast?_eq_none_iff.1 hlast] at hmem
    exact nomatch hmem
  | some e => rw [h.eq (counts_of_getLast? hlast)]

/-- With one spelling it is the last entry that counts. -/
theorem counts_iff_getLast? {es : List (Text × α)} {n : Text} {v : α} (h : ∀ e ∈ es, e.1 = n) :
    Counts es n v ↔ es.getLast? = some (n, v) := by
  rw [List.getLast?_eq_some_iff]
  constructor
  · intro hcounts
    obtain rfl | ⟨es', e, rfl⟩ := List.eq_nil_or_concat' es
    · exact nomatch hcounts.mem
    · have hlast := hcounts.isLast
      have he : e.1 = n := h e (by simp)
      rw [List.reverse_append] at hlast
      have hv := (get?_cons e.1 e.2 es'.reverse n).symm.trans hlast
      rw [if_pos he.symm] at hv
      exact ⟨es', by rw [← he, ← Option.some.inj hv]⟩
  · rintro ⟨es', rfl⟩
    refine ⟨fun m hm ↦ ?_, ?_⟩
    · obtain ⟨e, he, rfl⟩ := List.mem_map.1 hm
      exact Nat.le_of_eq (by rw [h e he])
    · rw [List.reverse_append]
      exact (get?_cons n v es'.reverse n).trans (if_pos rfl)

/-! ### Names without regard to letter case -/

/-- The bindings whose names differ from a name at most in letter case. -/
def named (name : Text) (b : List (Text × α)) : List (Text × α) :=
  b.filter fun e ↦ Text.lower e.1 = name

theorem named_cons (name : Text) (e : Text × α) (b : List (Text × α)) :
    named name (e :: b) = if Text.lower e.1 = name then e :: named name b else named name b := by
  simp only [named, List.filter_cons, decide_eq_true_eq]

theorem firstLike?_lower (b : Bindings α) (name : Text) :
    b.firstLike? Text.lower name = ((named name b).map Prod.snd).head? := by
  rw [List.head?_map, named, List.head?_filter]
  rfl

theorem lastLike?_lower (b : Bindings α) (name : Text) :
    b.lastLike? Text.lower name = ((named name b).map Prod.snd).getLast? := by
  rw [lastLike?, firstLike?_lower, named, List.filter_reverse, List.map_reverse, List.head?_reverse]
  rfl

/-- **Looked up without regard to letter case**, the bindings of some entries give the value that
counts. -/
theorem lastLike?_lower_ofList_eq_some_iff {es : List (Text × α)} {name : Text} {v : α} :
    (ofList es).lastLike? Text.lower name = some v ↔ ∃ n, Counts (named name es) n v := by
  have hfilter : named name (ofList es) = ofList (named name es) :=
    filter_ofList (fun n ↦ Text.lower n = name) es
  rw [lastLike?_lower, hfilter, List.getLast?_map, Option.map_eq_some_iff]
  constructor
  · rintro ⟨⟨n, _⟩, hlast, rfl⟩
    exact ⟨n, counts_iff.2 hlast⟩
  · rintro ⟨n, h⟩
    exact ⟨(n, v), counts_iff.1 h, rfl⟩

end Bindings

namespace Dotenv

/-! ### References -/

/-- Entries with their references replaced, behind some bindings. -/
def resolved (env : Environment) :
    Bindings (Option Text) → List (Text × Option Text) → List (Text × Option Text)
  | _, [] => []
  | b, e :: es => (e.1, e.2.map (expandFrom (valueOf env b) 0)) :: resolved env (define env b e) es

/-- The entries of a settings file as they are written. -/
def written (t : Text) : List (Text × Option Text) :=
  entries (Text.unifyBreaks false (dropMark t))

/-- The entries of a settings file with their references replaced. -/
def given (env : Environment) (t : Text) : List (Text × Option Text) :=
  resolved env [] (written t)

/-- Defining entry after entry puts their values with the references replaced. -/
theorem foldl_define (env : Environment) (b : Bindings (Option Text))
    (es : List (Text × Option Text)) :
    es.foldl (define env) b =
      (resolved env b es).foldl (fun b (name, value) ↦ b.put name value) b := by
  induction es generalizing b with
  | nil => rfl
  | cons e es ih => exact ih (define env b e)

/-- So the bindings of a settings file are made of its entries. -/
theorem bindings_eq (env : Environment) (t : Text) :
    bindings env t = Bindings.ofList (given env t) :=
  foldl_define env [] (written t)

/-- A value in which no reference starts. -/
def IsPlain (v : Option Text) : Prop :=
  ∀ t, v = some t → ¬("$\x7b" : Text) <:+: t

theorem takeReference?_eq_none {t : Text} (h : ¬("$\x7b" : Text) <+: t) :
    takeReference? t = none := by
  cases hlead : Text.dropLead? "$\x7b" t with
  | none =>
    rw [takeReference?, hlead]
    rfl
  | some rest => exact absurd ⟨rest, (Text.dropLead?_eq_some_iff.1 hlead).symm⟩ h

/-- A text in which no reference starts is its own value. -/
theorem expandFrom_of_isPlain (value : Text → Text → Text) {t : Text}
    (h : ¬("$\x7b" : Text) <:+: t) : expandFrom value 0 t = t := by
  induction t with
  | nil => rfl
  | cons c t ih =>
    have hhere : takeReference? (c :: t) = none :=
      takeReference?_eq_none fun h' ↦ h h'.isInfix
    rw [expandFrom, hhere]
    exact congrArg (c :: ·) (ih fun h' ↦ h (h'.trans (List.suffix_cons c t).isInfix))

theorem map_expandFrom_of_isPlain (value : Text → Text → Text) {v : Option Text} (h : IsPlain v) :
    v.map (expandFrom value 0) = v := by
  cases v with
  | none => rfl
  | some t => exact congrArg some (expandFrom_of_isPlain value (h t rfl))

/-- If the values of a name are plain, its entries are as written, whatever else the file refers
to. -/
theorem named_resolved_of_isPlain {env : Environment} {b : Bindings (Option Text)} {name : Text}
    {es : List (Text × Option Text)} (h : ∀ e ∈ Bindings.named name es, IsPlain e.2) :
    Bindings.named name (resolved env b es) = Bindings.named name es := by
  induction es generalizing b with
  | nil => rfl
  | cons e es ih =>
    rw [Bindings.named_cons] at h
    rw [resolved, Bindings.named_cons, Bindings.named_cons]
    split_ifs at h ⊢ with he
    · rw [map_expandFrom_of_isPlain _ (h e List.mem_cons_self),
        ih fun e' he' ↦ h e' (List.mem_cons_of_mem e he')]
    · exact ih h

/-- Entries of a name without references are given as they are written. -/
theorem named_given_of_isPlain {env : Environment} {t name : Text}
    (h : ∀ e ∈ Bindings.named name (written t), IsPlain e.2) :
    Bindings.named name (given env t) = Bindings.named name (written t) :=
  named_resolved_of_isPlain h

end Dotenv

end StaticServer
