import Mathlib.Data.Finset.Card
import StaticServer.Interpreter.Operation
import StaticServer.Proofs.Text.Integer

/-!
# What tells values of the interpreter apart

Values that hold what is meant for their kinds are the same exactly if they have one kind and are
shown alike (`Object.Proper.same_iff`): of an integer its digits are shown, of a failure a label and
its message, and of a text the text itself, which can look like any of these. So different values
are counted by counting kinds with what is shown (`Object.distinctCount_eq`).

Working with values only ever adds some: those that there are after a run are those that there were
before it and, behind them, those that its operations make, in their order (`Object.run_fst`). So
what holds of single values holds all along a run (`Object.kind_and_render_identify`).
-/

namespace StaticServer

/-! ### Counting without repetition -/

/-- Where values count as repeated exactly if a map takes them to the same, there are as many
without repetition as the map has values on them. -/
theorem length_eraseDupsBy {α β : Type} [DecidableEq β] {r : α → α → Bool} {f : α → β} {l : List α}
    (h : ∀ a ∈ l, ∀ b ∈ l, r a b = true ↔ f a = f b) :
    (l.eraseDupsBy r).length = (l.map f).toFinset.card := by
  match l with
  | [] => rfl
  | a :: rest =>
    let others := rest.filter fun b ↦ r b a = false
    have hothers {b : α} : b ∈ others ↔ b ∈ rest ∧ f b ≠ f a := by
      refine List.mem_filter.trans (and_congr_right fun hb ↦ ?_)
      rw [decide_eq_true_eq, ← Bool.not_eq_true,
        h b (List.mem_cons_of_mem a hb) a List.mem_cons_self]
    have hlater {b : α} (hb : b ∈ others) : b ∈ a :: rest :=
      List.mem_cons_of_mem a (hothers.1 hb).1
    have hsplit : ((a :: rest).map f).toFinset = insert (f a) (others.map f).toFinset := by
      ext y
      simp only [List.mem_toFinset, List.map_cons, List.mem_cons, Finset.mem_insert, List.mem_map]
      by_cases hy : y = f a
      · simp only [hy, true_or]
      · simp only [hy, false_or]
        refine ⟨fun ⟨b, hb, hfb⟩ ↦ ⟨b, hothers.2 ⟨hb, hfb ▸ hy⟩, hfb⟩, ?_⟩
        exact fun ⟨b, hb, hfb⟩ ↦ ⟨b, (hothers.1 hb).1, hfb⟩
    have hnew : f a ∉ (others.map f).toFinset := by
      rw [List.mem_toFinset, List.mem_map]
      exact fun ⟨b, hb, hfb⟩ ↦ (hothers.1 hb).2 hfb
    rw [List.eraseDupsBy_cons, List.length_cons, hsplit, Finset.card_insert_of_notMem hnew]
    exact congrArg _ (length_eraseDupsBy fun b hb c hc ↦ h b (hlater hb) c (hlater hc))
termination_by l.length
decreasing_by exact Nat.lt_succ_of_le (List.length_filter_le _ _)

namespace RawValue

theorem same_text_iff {t u : Text} : (text t).same (.text u) = true ↔ t = u := by
  simp [same, sameLeaf, number?]

theorem same_boolean_iff {b c : Bool} : (boolean b).same (.boolean c) = true ↔ b = c := by
  cases b <;> cases c <;> decide +kernel

end RawValue

namespace Object

/-! ### Single values -/

/-- A value that holds what is meant for its kind, and that can be shown. -/
inductive Proper : Object → Prop
  | integer {n : Int} (hn : isShown n = true) : Proper (.integer n)
  | string (t : Text) : Proper (.string (.text t))
  | boolean (b : Bool) : Proper (.boolean (.boolean b))
  | null : Proper .null
  | error (t : Text) : Proper (.error (.text t))

variable {a b o : Object} {os : List Object} {k : ObjectKind} {v : RawValue}

theorem proper_of_isProper (h : o.isProper = true) : Proper o := by
  unfold isProper at h
  split at h
  · exact .integer h
  · exact .string _
  · exact .boolean _
  · exact .null
  · exact .error _
  · cases h

theorem render_integer {n : Int} (hn : isShown n = true) :
    (integer n).render = .ok (.text (Text.ofInt n)) :=
  if_pos hn

/-- A proper value can be shown. -/
theorem Proper.exists_render (h : Proper o) : ∃ t, o.render = .ok (.text t) := by
  cases h with
  | integer hn => exact ⟨_, render_integer hn⟩
  | string | boolean | null | error => exact ⟨_, rfl⟩

/-- Shown integers are the same exactly if they are shown alike. -/
theorem same_integer_iff {m n : Int} (hm : isShown m = true) (hn : isShown n = true) :
    (integer m).same (.integer n) = true ↔ (integer m).render = (integer n).render := by
  rw [render_integer hm, render_integer hn, same, decide_eq_true_eq, Except.ok.injEq,
    RawValue.text.injEq, Text.ofInt_inj]

theorem same_string_iff {t u : Text} : (string (.text t)).same (.string (.text u)) = true ↔
    (string (.text t)).render = (string (.text u)).render := by
  rw [same, RawValue.same_text_iff, render, render, Except.ok.injEq, RawValue.text.injEq]

/-- So are booleans, which have a word for each value. -/
theorem same_boolean_iff {b c : Bool} : (boolean (.boolean b)).same (.boolean (.boolean c)) = true ↔
    (boolean (.boolean b)).render = (boolean (.boolean c)).render := by
  rw [same, RawValue.same_boolean_iff]
  cases b <;> cases c <;> decide

theorem same_error_iff {t u : Text} : (error (.text t)).same (.error (.text u)) = true ↔
    (error (.text t)).render = (error (.text u)).render := by
  rw [same, RawValue.same_text_iff, render, render, Except.ok.injEq, RawValue.text.injEq,
    List.append_cancel_left_eq]

/-- Values of different kinds are never the same. -/
theorem kind_eq_of_same (h : a.same b = true) : a.kind = b.kind := by
  unfold same at h
  split at h
  case h_6 => cases h
  all_goals rfl

/-- **Proper values are told apart by their kinds and by what is shown of them.** -/
theorem Proper.same_iff (ha : Proper a) (hb : Proper b) :
    a.same b = true ↔ a.kind = b.kind ∧ a.render = b.render := by
  -- what is shown can be compared within one kind only: a text can look like anything
  by_cases hkind : a.kind = b.kind
  · rw [and_iff_right hkind]
    cases ha with
    | integer hm =>
      cases hb with
      | integer hn => exact same_integer_iff hm hn
      | _ => cases hkind
    | string =>
      cases hb with
      | string => exact same_string_iff
      | _ => cases hkind
    | boolean =>
      cases hb with
      | boolean => exact same_boolean_iff
      | _ => cases hkind
    | null =>
      cases hb with
      | null => exact iff_of_true rfl rfl
      | _ => cases hkind
    | error =>
      cases hb with
      | error => exact same_error_iff
      | _ => cases hkind
  · exact iff_of_false (fun h ↦ hkind (kind_eq_of_same h)) fun h ↦ hkind h.1

/-! ### Counting values -/

/-- What a proper value holds can be compared with anything. -/
theorem Proper.isSettled (h : Proper o) (hv : o.held? = some v) : v.isSettled = true := by
  cases h <;> cases hv <;> rfl

/-- **Different values are counted by their kinds and by what is shown of them.** -/
theorem distinctCount_eq (h : ∀ o ∈ os, Proper o) :
    distinctCount os = .ok (os.map fun o ↦ (o.kind, o.render)).toFinset.card := by
  have hsettled : (os.filterMap held?).find? (!·.isSettled) = none := by
    refine List.find?_eq_none.2 fun v hv ↦ ?_
    obtain ⟨o, ho, hheld⟩ := List.mem_filterMap.1 hv
    rw [(h o ho).isSettled hheld]
    decide
  rw [distinctCount, hsettled]
  refine congrArg Except.ok (length_eraseDupsBy fun a ha b hb ↦ ?_)
  rw [(h a ha).same_iff (h b hb), Prod.mk.injEq]

theorem kindCount_eq (os : List Object) : kindCount os = (os.map kind).toFinset.card := by
  have hcard := length_eraseDupsBy (l := os.map kind) (f := id) (r := (· == ·)) fun _ _ _ _ ↦
    beq_iff_eq
  rw [List.map_id] at hcard
  exact hcard

/-! ### Runs -/

namespace Operation

/-- The value that an operation makes, if it makes one. -/
def made? : Operation → Option Object
  | .make k v => (Object.make k v).toOption
  | _ => none

/-- Does an operation make no value that is not proper? -/
def isProper (op : Operation) : Bool :=
  op.made?.all Object.isProper

/-- The kind that a value is made as, if one is made. -/
def kind? : Operation → Option ObjectKind
  | .make k v => (Object.make k v).toOption.map fun _ ↦ k
  | _ => none

end Operation

theorem exists_integer_of_ofNumber (h : ofNumber v = .ok o) : ∃ n, o = .integer n := by
  unfold ofNumber at h
  split at h
  case h_1 t =>
    split at h
    · cases h
      exact ⟨_, rfl⟩
    · cases h
  all_goals cases h
  all_goals exact ⟨_, rfl⟩

theorem kind_of_make (h : make k v = .ok o) : o.kind = k := by
  cases k with
  | integer =>
    obtain ⟨n, rfl⟩ := exists_integer_of_ofNumber h
    rfl
  | string | boolean | null | error =>
    cases h
    rfl

/-- What is made of a text is proper, unless it is to be a truth value: a number that is read from a
text is not too long to be shown. -/
theorem isProper_of_make_text {t : Text} (hk : k ≠ .boolean) (h : make k (.text t) = .ok o) :
    o.isProper = true := by
  cases k with
  | integer =>
    rw [make, ofNumber] at h
    cases hn : Text.toInt? t with
    | none =>
      rw [hn] at h
      cases h
    | some n =>
      rw [hn] at h
      cases h
      exact decide_eq_true (Text.length_ofNat_of_toInt? hn)
  | boolean => exact absurd rfl hk
  | string | null | error =>
    cases h
    rfl

theorem Operation.map_kind_made? (op : Operation) : op.made?.map kind = op.kind? := by
  cases op with
  | make k v =>
    rw [made?, kind?]
    cases h : Object.make k v with
    | ok o => exact congrArg some (kind_of_make h)
    | error e => rfl
  | compare | count | assign => rfl

/-- An operation adds the value that it makes. -/
theorem step_fst (os : List Object) (op : Operation) : (step os op).1 = os ++ op.made?.toList := by
  cases op with
  | make k v =>
    rw [step, Operation.made?]
    cases make k v with
    | ok o => rfl
    | error e => exact (List.append_nil os).symm
  | compare | count | assign =>
    rw [step]
    split <;> exact (List.append_nil os).symm

/-- **A run adds the values that its operations make**, and leaves those that there are. -/
theorem run_fst (os : List Object) (ops : List Operation) :
    (run os ops).1 = os ++ ops.filterMap Operation.made? := by
  induction ops generalizing os with
  | nil => exact (List.append_nil os).symm
  | cons op ops ih =>
    rw [run]
    show (run (step os op).1 ops).1 = _
    rw [ih, step_fst, List.append_assoc, List.filterMap_cons]
    cases op.made? <;> rfl

theorem mem_of_at? {i : Int} (h : at? os i = some o) : o ∈ os :=
  List.mem_of_getElem? (Option.ite_none_left_eq_some.1 h).2

/-- **Kind and text tell values apart.** Along every run whose operations make proper values, from
nothing on: whatever is done later leaves the values that there are, and no field takes another
value. Two values are the same exactly if their kinds agree and what is shown of them, so that as
many different values are counted as there are kinds with what is shown. A value is a failure
exactly if it was made as one. But what is shown does not tell values of different kinds apart. -/
theorem kind_and_render_identify {ops : List Operation} {os : List Object}
    (hrun : (run [] ops).1 = os)
    (hproper : ∀ op ∈ ops, op.isProper = true) :
    (∀ later, os <+: (run os later).1) ∧
    (∀ i o field v, at? os i = some o →
      step os (.assign i field v) = (os, .refused (assignMessage field))) ∧
    (∀ o ∈ os, ∃ t, o.render = .ok (.text t)) ∧
    (∀ i j a b, at? os i = some a → at? os j = some b →
      step os (.compare i j) =
        (os, .compared (decide (a.kind = b.kind ∧ a.render = b.render)))) ∧
    step os .count =
      (os, .counted (os.map fun o ↦ (o.kind, o.render)).toFinset.card
        (os.map kind).toFinset.card) ∧
    os.map isError = (ops.filterMap Operation.kind?).map (fun k ↦ decide (k = .error)) ∧
    ∀ t : Text, (string (.text ("Kosa: " ++ t))).render = (error (.text t)).render ∧
      (string (.text ("Kosa: " ++ t))).same (error (.text t)) = false := by
  have hos : os = ops.filterMap Operation.made? := by
    rw [← hrun, run_fst, List.nil_append]
  have hall : ∀ o ∈ os, Proper o := fun o ho ↦ by
    rw [hos] at ho
    obtain ⟨op, hop, hmade⟩ := List.mem_filterMap.1 ho
    have hop := hproper op hop
    rw [Operation.isProper, hmade] at hop
    exact proper_of_isProper hop
  refine ⟨fun later ↦ ?_, fun i o field v ho ↦ ?_, fun o ho ↦ (hall o ho).exists_render,
    fun i j a b ha hb ↦ ?_, ?_, ?_, fun t ↦ ⟨rfl, rfl⟩⟩
  · rw [run_fst]
    exact List.prefix_append os _
  · rw [step, ho]
  · have hsame : a.same b = decide (a.kind = b.kind ∧ a.render = b.render) := by
      rw [Bool.eq_iff_iff, decide_eq_true_eq]
      exact (hall a (mem_of_at? ha)).same_iff (hall b (mem_of_at? hb))
    rw [step, ha, hb, ← hsame]
  · rw [step, distinctCount_eq hall, kindCount_eq]
  · have hkinds : os.map kind = ops.filterMap Operation.kind? := by
      rw [hos, List.map_filterMap]
      exact List.filterMap_congr fun op _ ↦ op.map_kind_made?
    rw [← hkinds, List.map_map]
    rfl

/-- Operations that make values which are shown alike, some of them twice, and one that makes no
value. -/
def mixedOperations : List Operation :=
  [.make .integer (.text "-7"), .make .string (.text "-7"), .make .error (.text "x"),
    .compare 0 (-1), .make .string (.text "Kosa: x"), .make .integer (.text "x"), .count,
    .make .integer (.text "-007"), .make .null .null, .assign 0 "value" (.integer 8),
    .make .string (.text "tupu"), .make .boolean (.boolean true)]

/-- The values that they make. -/
def mixedValues : List Object :=
  [.integer (-7), .string (.text "-7"), .error (.text "x"), .string (.text "Kosa: x"),
    .integer (-7), .null, .string (.text "tupu"), .boolean (.boolean true)]

/-- The case of a run that makes values shown alike and compares, counts and assigns in between. -/
theorem kind_and_render_identify_mixedOperations :
    ((run [] mixedOperations).1 = mixedValues ∧ ∀ op ∈ mixedOperations, op.isProper = true) ∧
    mixedValues <+: (run mixedValues mixedOperations).1 ∧
    step mixedValues (.compare 0 1) = (mixedValues, .compared false) ∧
    step mixedValues (.compare 0 4) = (mixedValues, .compared true) ∧
    step mixedValues .count = (mixedValues, .counted 7 5) ∧
    mixedValues.map isError = [false, false, true, false, false, false, false, false] := by
  have hrun : (run [] mixedOperations).1 = mixedValues := by decide +kernel
  have hproper : ∀ op ∈ mixedOperations, op.isProper = true := by decide +kernel
  obtain ⟨hleaves, -, -, hcompare, hcount, herrors, -⟩ := kind_and_render_identify hrun hproper
  refine ⟨⟨hrun, hproper⟩, hleaves mixedOperations, (hcompare 0 1 _ _ rfl rfl).trans ?_,
    (hcompare 0 4 _ _ rfl rfl).trans ?_, hcount.trans ?_, herrors.trans ?_⟩
  · decide +kernel
  · decide +kernel
  · decide +kernel
  · decide +kernel

end Object

end StaticServer
