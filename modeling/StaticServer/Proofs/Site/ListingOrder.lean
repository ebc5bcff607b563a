import StaticServer.Proofs.Site.ListingPage

/-!
# The order of a listing

A link stands on a page only where it was put (`exists_of_links_eq`), so the links of a page stand
in the order of their marked names (`standsBefore_page_iff`). That is not always the order of the
names: the slash of a directory takes part in it. An entry comes before one with a greater name
unless it leads to a directory, and the greater name goes on behind it with a character below the
slash (`standsBefore_iff`).
-/

namespace StaticServer.Listing

open Text

/-! ### Where links stand -/

/-- The link of one marked name stands on a page before that of another. -/
def StandsBefore (page a b : Text) : Prop :=
  ∃ before between behind, page = before ++ (link a ++ (between ++ (link b ++ behind)))

/-- The part of a link up to its closing tag. -/
def linkHead (name : Text) : Text :=
  linkStart ++ (Percent.encode isKept name ++ (linkMiddle ++ Html.escape name))

theorem link_eq (name : Text) : link name = linkHead name ++ linkEnd := by
  simp only [link, linkHead, List.append_assoc]

/-- The part up to the closing tag has no other tag than the one at its start. -/
theorem tag_not_mem_tail_linkHead (name : Text) : '<' ∉ (linkHead name).tail := by
  have haddress : '<' ∉ Percent.encode isKept name := by
    intro h
    rcases Percent.mem_encode h with ⟨-, hkept⟩ | hpercent | hhex
    · exact absurd hkept (by decide)
    · exact absurd hpercent (by decide)
    · exact absurd hhex (by decide)
  have htail : (linkHead name).tail =
      "a href=\"" ++ (Percent.encode isKept name ++ (linkMiddle ++ Html.escape name)) := rfl
  rw [htail, List.mem_append, List.mem_append, List.mem_append]
  rintro (h | h | h | h)
  · exact absurd h (by decide)
  · exact haddress h
  · exact absurd h (by decide)
  · exact Html.not_mem_escape name h

/-- A character that a text has only at its start stands there or behind the text. -/
theorem eq_nil_or_exists_append {c : Char} {r t u w : Text} (hr : c ∉ r)
    (h : c :: r ++ t = u ++ c :: w) : u = [] ∨ ∃ u', u = c :: r ++ u' := by
  rcases List.append_eq_append_iff.1 h with ⟨u', hu, -⟩ | ⟨s, hs, hw⟩
  · exact .inr ⟨u', hu⟩
  rcases s with - | ⟨d, s⟩
  · exact .inr ⟨[], by rw [List.append_nil, hs, List.append_nil]⟩
  obtain rfl : c = d := (List.cons.inj hw).1
  rcases u with - | ⟨e, u⟩
  · exact .inl rfl
  · refine absurd ?_ hr
    rw [(List.cons.inj hs).2]
    exact List.mem_append_right u List.mem_cons_self

/-- No link begins in another tag. -/
theorem exists_append_of_tag {c : Char} {r t u a v : Text} (hr : '<' ∉ c :: r) (hc : c ≠ 'a')
    (h : '<' :: c :: r ++ t = u ++ (link a ++ v)) :
    ∃ u', u = '<' :: c :: r ++ u' ∧ t = u' ++ (link a ++ v) := by
  rcases eq_nil_or_exists_append hr h with rfl | ⟨u', rfl⟩
  · exact absurd (List.cons.inj (List.cons.inj h).2).1 hc
  · rw [List.append_assoc] at h
    exact ⟨u', rfl, List.append_cancel_left h⟩

/-- **A link stands only where it was put.** -/
theorem exists_of_links_eq {names : List Text} {a u v : Text}
    (h : names.flatMap link ++ pageEnd = u ++ (link a ++ v)) :
    ∃ before behind, names = before ++ a :: behind ∧ v = behind.flatMap link ++ pageEnd := by
  induction names generalizing u with
  | nil =>
    have hend : ['<', '/', 'p', 'r', 'e', '>', '\n'] ++ [] = u ++ (link a ++ v) := h
    obtain ⟨u', -, hnil⟩ := exists_append_of_tag (by decide) (by decide) hend
    cases u' <;> cases hnil
  | cons name names ih =>
    rw [List.flatMap_cons, List.append_assoc] at h
    have hhead : '<' :: (linkHead name).tail ++ (linkEnd ++ (names.flatMap link ++ pageEnd)) =
        u ++ (link a ++ v) := by
      rw [← h, link_eq, List.append_assoc]
      rfl
    rcases eq_nil_or_exists_append (tag_not_mem_tail_linkHead name) hhead with rfl | ⟨u', rfl⟩
    · -- the two links are read as one
      have hread := (readLink?_link name _).symm.trans ((congrArg readLink? h).trans
        (readLink?_link a v))
      obtain ⟨hlink, hrest⟩ := Prod.mk.inj (Option.some.inj hread)
      have hname := congrArg Html.unescape (Prod.mk.inj hlink).2
      rw [Html.unescape_escape, Html.unescape_escape] at hname
      exact ⟨[], names, by rw [hname, List.nil_append], hrest.symm⟩
    · rw [List.append_assoc] at hhead
      have htag : ['<', '/', 'a', '>', '\n'] ++ (names.flatMap link ++ pageEnd) =
          u' ++ (link a ++ v) := List.append_cancel_left hhead
      obtain ⟨u'', -, hrest⟩ := exists_append_of_tag (by decide) (by decide) htag
      obtain ⟨before, behind, rfl, hv⟩ := ih hrest
      exact ⟨name :: before, behind, rfl, hv⟩

/-- **The links of a page stand in the order in which they are put on it.** -/
theorem standsBefore_page_iff {names : List Text} {a b : Text} :
    StandsBefore (page names) a b ↔ [a, b].Sublist names := by
  constructor
  · rintro ⟨before, between, behind, h⟩
    have hstart : ['<', 'p', 'r', 'e', '>', '\n'] ++ (names.flatMap link ++ pageEnd) =
        before ++ (link a ++ (between ++ (link b ++ behind))) := h
    obtain ⟨u, -, hlinks⟩ := exists_append_of_tag (by decide) (by decide) hstart
    obtain ⟨names₁, names₂, rfl, hbetween⟩ := exists_of_links_eq hlinks
    obtain ⟨names₃, names₄, rfl, -⟩ := exists_of_links_eq hbetween.symm
    exact ((List.Sublist.cons_cons a ((List.singleton_sublist.2
      (List.mem_append_right names₃ List.mem_cons_self)))).trans
        (List.sublist_append_right names₁ _))
  · intro h
    obtain ⟨names₁, names₂, rfl, ha, hb⟩ := List.cons_sublist_iff.1 h
    obtain ⟨first, second, rfl⟩ := List.append_of_mem ha
    obtain ⟨third, fourth, rfl⟩ := List.append_of_mem (List.singleton_sublist.1 hb)
    refine ⟨pageStart ++ first.flatMap link, second.flatMap link ++ third.flatMap link,
      fourth.flatMap link ++ pageEnd, ?_⟩
    simp only [page, List.flatMap_append, List.flatMap_cons, List.append_assoc]

/-! ### Names and marked names -/

/-- In a sorted list the lesser of two members stands before the other one. -/
theorem pair_sublist_iff {l : List Text} (hsorted : l.Pairwise (· ≤ ·)) {a b : Text} (ha : a ∈ l)
    (hb : b ∈ l) (hne : a ≠ b) : [a, b].Sublist l ↔ a < b := by
  constructor
  · intro h
    have hle : a ≤ b := (List.pairwise_cons.1 (hsorted.sublist h)).1 b (List.mem_singleton.2 rfl)
    exact lt_of_le_of_ne hle hne
  · intro hlt
    obtain ⟨first, second, rfl⟩ := List.append_of_mem ha
    have hbehind : b ∈ second := by
      rcases List.mem_append.1 hb with hb | hb
      · have hle := (List.pairwise_append.1 hsorted).2.2 b hb a List.mem_cons_self
        exact absurd hlt (not_lt_of_ge hle)
      · exact (List.mem_cons.1 hb).resolve_left hne.symm
    exact ((List.singleton_sublist.2 hbehind).cons_cons a).trans (List.sublist_append_right first _)

/-- A text goes on behind another one with a character below the slash. -/
def GoesOnBelowSlash (m n : Text) : Prop :=
  ∃ c rest, n = m ++ c :: rest ∧ c < '/'

/-- A common first character decides nothing. -/
theorem goesOnBelowSlash_cons_iff {c : Char} {m n : Text} :
    GoesOnBelowSlash (c :: m) (c :: n) ↔ GoesOnBelowSlash m n := by
  simp only [GoesOnBelowSlash, List.cons_append, List.cons.injEq, true_and]

/-- With a slash behind the lesser of two texts, the order of the two stays unless the greater one
goes on behind the lesser with a character that comes before the slash. -/
theorem append_slash_lt_append_iff {m n : Text} (hn : '/' ∉ n) (h : m < n) (s : Text) :
    m ++ ['/'] < n ++ s ↔ ¬GoesOnBelowSlash m n := by
  induction m generalizing n with
  | nil =>
    rcases n with - | ⟨c, n⟩
    · exact absurd h (lt_irrefl _)
    -- the slash meets the first character by which the longer name goes on
    have hc : c ≠ '/' := fun heq ↦ hn (heq ▸ List.mem_cons_self)
    have hbelow : GoesOnBelowSlash [] (c :: n) ↔ c < '/' := by
      constructor
      · rintro ⟨d, rest, heq, hd⟩
        rwa [(List.cons.inj heq).1]
      · exact fun hlt ↦ ⟨c, n, rfl, hlt⟩
    rw [hbelow, List.nil_append, List.cons_append, List.cons_lt_cons_iff, not_lt]
    constructor
    · rintro (hlt | ⟨heq, -⟩)
      · exact le_of_lt hlt
      · exact absurd heq.symm hc
    · exact fun hle ↦ .inl (lt_of_le_of_ne hle hc.symm)
  | cons d m ih =>
    rcases n with - | ⟨c, n⟩
    · exact absurd h (List.not_lt_nil _)
    rw [List.cons_append, List.cons_append, List.cons_lt_cons_iff]
    rcases List.cons_lt_cons_iff.1 h with hlt | ⟨rfl, hlt⟩
    · refine iff_of_true (.inl hlt) ?_
      rintro ⟨e, rest, heq, -⟩
      exact absurd hlt ((List.cons.inj heq).1 ▸ lt_irrefl _)
    · have hiff := ih (fun hmem ↦ hn (List.mem_cons_of_mem d hmem)) hlt
      rw [goesOnBelowSlash_cons_iff, ← hiff]
      exact ⟨fun hor ↦ (hor.resolve_left (lt_irrefl d)).2, fun hrest ↦ .inr ⟨rfl, hrest⟩⟩

/-- Something behind the greater of two texts leaves it the greater one. -/
theorem lt_append_of_lt {m n : Text} (h : m < n) (s : Text) : m < n ++ s :=
  lt_of_lt_of_le h (not_lt.1 (List.IsPrefix.le (List.prefix_append n s)))

variable {t : FileTree} {directory : Text} {place : Path} {m n : Text}

/-- **How the mark changes the order of two names.** -/
theorem markedName_lt_iff (hn : '/' ∉ n) (h : m < n) :
    markedName t directory place m < markedName t directory place n ↔
      ¬(opensDirectory t directory place m = true ∧ GoesOnBelowSlash m n) := by
  obtain ⟨s, hs⟩ : ∃ s, markedName t directory place n = n ++ s := by
    unfold markedName
    split
    · exact ⟨['/'], rfl⟩
    · exact ⟨[], (List.append_nil n).symm⟩
  rw [hs, markedName]
  split
  · next hopens => rw [append_slash_lt_append_iff hn h, hopens, eq_self, true_and]
  · next hopens => exact iff_of_true (lt_append_of_lt h s) fun hand ↦ hopens hand.1

/-! ### The order of entries -/

/-- What a page that lists a directory comes from. -/
theorem exists_of_render {page : Text} (h : render t directory = .ok page) :
    ∃ place, t.resolve directory = .ok place ∧ t.isDirectory place = true ∧
      page = Listing.page (Order.sort lexLE
        ((t.names place).map (markedName t directory place))) := by
  cases hresolve : t.resolve directory with
  | error f => simp [render, markedNames, hresolve, Except.map] at h
  | ok place =>
    by_cases hdir : t.isDirectory place = true
    · have hmark := (exists_render_iff hresolve hdir).1 ⟨page, h⟩
      exact ⟨place, rfl, hdir, Except.ok.inj (h.symm.trans (render_eq hresolve hdir hmark))⟩
    · simp [render, markedNames, hresolve, hdir, Except.map] at h

/-- Of two different marked names of entries the lesser one has its link first. -/
theorem standsBefore_render_iff {page : Text} (h : render t directory = .ok page)
    (hresolve : t.resolve directory = .ok place) (hm : m ∈ t.names place) (hn : n ∈ t.names place)
    (hne : markedName t directory place m ≠ markedName t directory place n) :
    StandsBefore page (markedName t directory place m) (markedName t directory place n) ↔
      markedName t directory place m < markedName t directory place n := by
  obtain ⟨place', hresolve', -, rfl⟩ := exists_of_render h
  obtain rfl : place = place' := Except.ok.inj (hresolve.symm.trans hresolve')
  have hmem {name : Text} (hname : name ∈ t.names place) : markedName t directory place name ∈
      Order.sort lexLE ((t.names place).map (markedName t directory place)) :=
    (Order.mem_sort lexLE).2 (List.mem_map_of_mem hname)
  rw [standsBefore_page_iff]
  exact pair_sublist_iff (pairwise_le_sort_lexLE _) (hmem hm) (hmem hn) hne

/-- **The entry with the lesser name comes first, unless its mark is in the way**: the other one
comes first exactly if the lesser name is that of an entry that leads to a directory, and the other
name goes on behind it with a character below the slash. -/
theorem standsBefore_iff {page : Text} (h : render t directory = .ok page)
    (hresolve : t.resolve directory = .ok place) (hm : m ∈ t.names place) (hn : n ∈ t.names place)
    (hmslash : '/' ∉ m) (hnslash : '/' ∉ n) (hlt : m < n) :
    (StandsBefore page (markedName t directory place m) (markedName t directory place n) ↔
      ¬(opensDirectory t directory place m = true ∧ GoesOnBelowSlash m n)) ∧
    (StandsBefore page (markedName t directory place n) (markedName t directory place m) ↔
      opensDirectory t directory place m = true ∧ GoesOnBelowSlash m n) := by
  have hne : markedName t directory place m ≠ markedName t directory place n :=
    fun heq ↦ ne_of_lt hlt (markedName_inj hmslash hnslash heq)
  have hmarks : markedName t directory place m < markedName t directory place n ↔ _ :=
    markedName_lt_iff hnslash hlt
  rw [standsBefore_render_iff h hresolve hm hn hne,
    standsBefore_render_iff h hresolve hn hm hne.symm, hmarks]
  refine ⟨Iff.rfl, ?_⟩
  rw [← not_iff_not, ← hmarks, not_lt]
  exact ⟨fun hle ↦ lt_of_le_of_ne hle hne, le_of_lt⟩

/-- A directory with a directory in it, whose name two files go on: with a hyphen, which comes
before the slash, and with a digit, which comes behind it. -/
def hyphenTree : FileTree :=
  ⟨[(["site"], .directory), (["site", "a"], .directory), (["site", "a-b"], .file ⟨[], 0⟩),
    (["site", "a0"], .file ⟨[], 0⟩)], [], by decide⟩

theorem render_hyphenTree : render hyphenTree "/site" = .ok (page ["a-b", "a/", "a0"]) := by
  decide +kernel

/-- The case of two names on it that keep their order. -/
theorem standsBefore_iff_hyphenTree :
    (render hyphenTree "/site" = .ok (page ["a-b", "a/", "a0"]) ∧
      hyphenTree.resolve "/site" = .ok ["site"] ∧
      ("a" : Text) ∈ hyphenTree.names ["site"] ∧ ("a0" : Text) ∈ hyphenTree.names ["site"] ∧
      '/' ∉ ("a" : Text) ∧ '/' ∉ ("a0" : Text) ∧ ("a" : Text) < "a0") ∧
    StandsBefore (page ["a-b", "a/", "a0"]) "a/" "a0" := by
  have hresolve : hyphenTree.resolve "/site" = .ok ["site"] := by decide +kernel
  have hm : ("a" : Text) ∈ hyphenTree.names ["site"] := by decide
  have hn : ("a0" : Text) ∈ hyphenTree.names ["site"] := by decide
  have hlt : ("a" : Text) < "a0" := by decide
  have hbelow : ¬GoesOnBelowSlash "a" "a0" := by
    rintro ⟨c, rest, heq, hc⟩
    cases heq
    exact absurd hc (by decide)
  have hbefore := (standsBefore_iff render_hyphenTree hresolve hm hn (by decide) (by decide)
    hlt).1.2 fun hbad ↦ hbelow hbad.2
  exact ⟨⟨render_hyphenTree, hresolve, hm, hn, by decide, by decide, hlt⟩, hbefore⟩

/-- **A directory need not come before a file with a greater name.** -/
theorem not_standsBefore_hyphenTree :
    ∃ page, render hyphenTree "/site" = .ok page ∧ hyphenTree.resolve "/site" = .ok ["site"] ∧
      ("a" : Text) ∈ hyphenTree.names ["site"] ∧ ("a-b" : Text) ∈ hyphenTree.names ["site"] ∧
      ("a" : Text) < "a-b" ∧
      ¬StandsBefore page (markedName hyphenTree "/site" ["site"] "a")
        (markedName hyphenTree "/site" ["site"] "a-b") := by
  refine ⟨_, render_hyphenTree, by decide +kernel, by decide, by decide, by decide, ?_⟩
  rw [standsBefore_page_iff]
  decide +kernel

end StaticServer.Listing
