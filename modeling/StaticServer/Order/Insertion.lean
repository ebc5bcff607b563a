/-!
# Sorting by insertion

A list in the order of a test, equal elements in the order in which they stood. `sort` is a
fold of `insert`, so a sorted list can be computed and reasoned about by recursion on the
list. What it is used for rests on two facts: the result has the same elements as often
(`sort_perm`), and it is in order when the test is total and transitive (`sort_pairwise`).
-/

namespace StaticServer.Order

variable {α : Type} (le : α → α → Bool)

/-- An element put before the first one that is not before it. -/
def insert (a : α) : List α → List α
  | [] => [a]
  | b :: rest => if le a b then a :: b :: rest else b :: insert a rest

/-- The elements of a list in order. -/
def sort : List α → List α
  | [] => []
  | a :: rest => insert le a (sort rest)

/-- Insertion adds one item and loses none. -/
theorem insert_perm (a : α) (l : List α) : (insert le a l).Perm (a :: l) := by
  induction l with
  | nil => exact List.Perm.refl _
  | cons b rest ih =>
    rw [insert]
    split
    · exact List.Perm.refl _
    · exact (ih.cons b).trans (List.Perm.swap a b rest)

/-- Sorting keeps every element as often as it stood there. -/
theorem sort_perm (l : List α) : (sort le l).Perm l := by
  induction l with
  | nil => exact List.Perm.refl _
  | cons a rest ih => exact (insert_perm le a _).trans (ih.cons a)

theorem mem_insert {a b : α} {l : List α} : b ∈ insert le a l ↔ b = a ∨ b ∈ l := by
  rw [(insert_perm le a l).mem_iff, List.mem_cons]

theorem mem_sort {b : α} {l : List α} : b ∈ sort le l ↔ b ∈ l :=
  (sort_perm le l).mem_iff

variable {le}

/-- Insertion keeps an ordered list ordered, for an order that is total and transitive. -/
theorem insert_pairwise (total : ∀ a b, le a b = true ∨ le b a = true)
    (trans : ∀ a b c, le a b = true → le b c = true → le a c = true) (a : α) {l : List α}
    (h : l.Pairwise fun x y ↦ le x y = true) :
    (insert le a l).Pairwise fun x y ↦ le x y = true := by
  induction l with
  | nil => exact List.pairwise_singleton _ _
  | cons b rest ih =>
    have hb := List.pairwise_cons.1 h
    rw [insert]
    split
    · next hab =>
      refine List.pairwise_cons.2 ⟨fun c hc ↦ ?_, h⟩
      rcases List.mem_cons.1 hc with rfl | hc
      · exact hab
      · exact trans _ _ _ hab (hb.1 c hc)
    · next hab =>
      refine List.pairwise_cons.2 ⟨fun c hc ↦ ?_, ih hb.2⟩
      rcases (mem_insert le).1 hc with rfl | hc
      · exact (total _ _).resolve_left hab
      · exact hb.1 c hc

/-- Sorting by a total and transitive test puts a list in order. -/
theorem sort_pairwise (total : ∀ a b, le a b = true ∨ le b a = true)
    (trans : ∀ a b c, le a b = true → le b c = true → le a c = true) (l : List α) :
    (sort le l).Pairwise fun x y ↦ le x y = true := by
  induction l with
  | nil => exact List.Pairwise.nil
  | cons a rest ih => exact insert_pairwise total trans a ih

end StaticServer.Order
