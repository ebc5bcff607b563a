import Mathlib.Data.Char
import Mathlib.Data.List.Lex
import Mathlib.Data.List.Nodup
import Mathlib.Data.List.TakeDrop
import StaticServer.Proofs.Site.Listing
import StaticServer.Proofs.Text.Decoding
import StaticServer.Text.Markup

/-!
# What a listing says

The page that lists a directory can be taken apart again, whatever the names of the entries are
(`read?_page`), since neither an address nor a text of a link holds the mark that ends it. For the
same reason a reader who knows nothing of listings finds no other tags in it than those of the links
(`pieces_page`). `exists_isListing` says what the links are then: the entries of the directory, each
marked if it leads to a directory, in the order of the marked names.
-/

namespace StaticServer

/-! ### The order of texts -/

namespace Text

theorem lexLE_iff {a b : Text} : lexLE a b = true ↔ a ≤ b := by
  have hlex : List.lex b a (fun x y ↦ x.toNat < y.toNat) = true ↔ b < a := by
    simp only [List.lex_eq_true_iff_lex, decide_eq_true_eq]
    exact Iff.rfl
  rw [lexLE, Bool.not_eq_true', ← Bool.not_eq_true, hlex, not_lt]

/-- Sorting texts puts them in increasing order. -/
theorem pairwise_le_sort_lexLE (l : List Text) : (Order.sort lexLE l).Pairwise (· ≤ ·) := by
  have hsort : (Order.sort lexLE l).Pairwise fun a b ↦ lexLE a b = true :=
    Order.sort_pairwise (fun a b ↦ (le_total a b).imp lexLE_iff.2 lexLE_iff.2)
      (fun a b c hab hbc ↦ lexLE_iff.2 (le_trans (lexLE_iff.1 hab) (lexLE_iff.1 hbc))) l
  exact hsort.imp lexLE_iff.1

/-- Sorting texts of which no two are the same puts them in strictly increasing order. -/
theorem pairwise_sort_lexLE {l : List Text} (h : l.Nodup) :
    (Order.sort lexLE l).Pairwise (· < ·) := by
  have hne : (Order.sort lexLE l).Nodup := (Order.sort_perm lexLE l).nodup_iff.2 h
  exact ((pairwise_le_sort_lexLE l).and hne).imp fun ⟨hab, hdiffer⟩ ↦ lt_of_le_of_ne hab hdiffer

end Text

/-! ### The names of a directory -/

namespace FileTree

/-- No two entries of a directory have the same name. -/
theorem nodup_names (t : FileTree) (place : Path) : (t.names place).Nodup := by
  have hnames : t.names place = (t.entries.map Prod.fst).filterMap fun p ↦
      if p.dropLast = place then p.getLast? else none := by
    rw [List.filterMap_map]
    rfl
  rw [hnames]
  refine t.nodup.filterMap fun p q name hp hq ↦ ?_
  obtain ⟨hp, hplast⟩ := Option.ite_none_right_eq_some.1 hp
  obtain ⟨hq, hqlast⟩ := Option.ite_none_right_eq_some.1 hq
  obtain ⟨front, rfl⟩ := List.getLast?_eq_some_iff.1 hplast
  obtain ⟨front', rfl⟩ := List.getLast?_eq_some_iff.1 hqlast
  rw [List.dropLast_concat] at hp hq
  rw [hp, hq]

end FileTree

namespace Listing

open Text

/-- Does an entry lead to a directory: is it one, or is it a link by which one is reached? -/
def opensDirectory (t : FileTree) (directory : Text) (place : Path) (name : Text) : Bool :=
  match t.get? (place ++ [name]) with
  | some .directory => true
  | some (.link _) => t.leadsToDirectory (Path.joinText directory name)
  | _ => false

/-- The name of an entry, with a slash behind it exactly if the entry leads to a directory. -/
def markedName (t : FileTree) (directory : Text) (place : Path) (name : Text) : Text :=
  if opensDirectory t directory place name then name ++ ['/'] else name

variable {t : FileTree} {directory : Text} {place : Path} {name : Text}

/-- A name that can be marked is marked by what it leads to. -/
theorem mark_eq (h : CanMark t directory place name) :
    mark t directory place name = .ok (markedName t directory place name) := by
  rw [mark, markedName, opensDirectory]
  rcases hentry : t.get? (place ++ [name]) with - | e
  · rfl
  cases e with
  | file data => rfl
  | directory => rfl
  | link target =>
    rcases hresolve : t.resolve (Path.joinText directory name) with f | p
    · obtain rfl := h target hentry f hresolve
      simp [FileTree.leadsToDirectory, hresolve]
    · simp only [FileTree.leadsToDirectory, hresolve]

/-- The mark is told apart from the name, which has no slash. -/
theorem markedName_inj {a b : Text} (ha : '/' ∉ a) (hb : '/' ∉ b)
    (h : markedName t directory place a = markedName t directory place b) : a = b := by
  unfold markedName at h
  split at h
  · split at h
    · exact List.append_cancel_right h
    · exact absurd (h ▸ List.mem_append_right a List.mem_cons_self) hb
  · split at h
    · exact absurd (h ▸ List.mem_append_right b List.mem_cons_self) ha
    · exact h

theorem mapM_eq_ok {α β ε : Type} {f : α → Except ε β} {g : α → β} {l : List α}
    (h : ∀ a ∈ l, f a = .ok (g a)) : l.mapM f = .ok (l.map g) := by
  induction l with
  | nil => rfl
  | cons a l ih =>
    rw [List.mapM_cons, h a List.mem_cons_self, ih fun b hb ↦ h b (List.mem_cons_of_mem a hb)]
    rfl

/-- The page of a directory whose entries can all be marked. -/
theorem render_eq (hresolve : t.resolve directory = .ok place) (hdir : t.isDirectory place = true)
    (hmark : ∀ name ∈ t.names place, CanMark t directory place name) :
    render t directory = .ok (page (Order.sort lexLE
      ((t.names place).map (markedName t directory place)))) := by
  simp only [render, markedNames, hresolve, hdir, if_true, markedNamesAt,
    mapM_eq_ok fun name hname ↦ mark_eq (hmark name hname)]
  rfl

/-! ### Taking a page apart -/

/-- An address ends only at its quote. -/
theorem quote_not_mem_encode (name : Text) : '\x22' ∉ Percent.encode isKept name := by
  intro h
  rcases Percent.mem_encode h with ⟨-, hkept⟩ | hpercent | hhex
  · exact absurd hkept (by decide)
  · exact absurd hpercent (by decide)
  · exact absurd hhex (by decide)

theorem span_append {c : Char} {u : Text} (h : c ∉ u) (t : Text) :
    (u ++ c :: t).span (· != c) = (u, c :: t) := by
  have hu : ∀ d ∈ u, (d != c) = true := fun d hd ↦ bne_iff_ne.2 fun heq ↦ h (heq ▸ hd)
  rw [List.span_eq_takeWhile_dropWhile, List.takeWhile_append_of_pos hu,
    List.dropWhile_append_of_pos hu]
  simp

/-- A link is read back, with the text behind it. -/
theorem readLink?_link (name rest : Text) :
    readLink? (link name ++ rest) =
      some ((Percent.encode isKept name, Html.escape name), rest) := by
  have hlead (lead t : Text) : dropLead? lead (lead ++ t) = some t :=
    dropLead?_eq_some_iff.2 rfl
  have haddress (t : Text) :
      (Percent.encode isKept name ++ (linkMiddle ++ t)).span (· != '\x22') =
        (Percent.encode isKept name, linkMiddle ++ t) :=
    span_append (quote_not_mem_encode name) ('>' :: t)
  have hshown (t : Text) : (Html.escape name ++ (linkEnd ++ t)).span (· != '<') =
      (Html.escape name, linkEnd ++ t) :=
    span_append (Html.not_mem_escape name) ('/' :: 'a' :: '>' :: '\n' :: t)
  simp only [link, readLink?, List.append_assoc, hlead, haddress, hshown, bind, Option.bind]

/-- The links of a page, as they are written. -/
def links (names : List Text) : List (Text × Text) :=
  names.map fun name ↦ (Percent.encode isKept name, Html.escape name)

/-- So are all links of a page. -/
theorem readLinks?_flatMap (names : List Text) {n : Nat} (hn : names.length ≤ n) :
    readLinks? n (names.flatMap link ++ pageEnd) = some (links names) := by
  induction names generalizing n with
  | nil => cases n <;> rfl
  | cons name names ih =>
    cases n with
    | zero => cases hn
    | succ n =>
      have hmore : link name ++ (names.flatMap link ++ pageEnd) ≠ pageEnd := nofun
      rw [List.flatMap_cons, List.append_assoc, readLinks?, if_neg hmore, readLink?_link]
      simp only [ih (Nat.le_of_succ_le_succ hn), bind, Option.bind]
      rfl

/-- There are no more links than characters, which is the fuel of the reader. -/
theorem length_le_flatMap_link (names : List Text) :
    names.length ≤ (names.flatMap link).length := by
  induction names with
  | nil => exact Nat.le_refl 0
  | cons name names ih =>
    have hlink : 0 < (link name).length := Nat.succ_pos _
    rw [List.flatMap_cons, List.length_append, List.length_cons]
    omega

/-- **A page can be taken apart**, whatever the names are. -/
theorem read?_page (names : List Text) : read? (page names) = some (links names) := by
  have hstart : dropLead? pageStart (page names) = some (names.flatMap link ++ pageEnd) :=
    dropLead?_eq_some_iff.2 rfl
  have hlength : names.length ≤ (page names).length := by
    have hle := length_le_flatMap_link names
    rw [page, List.length_append, List.length_append]
    omega
  rw [read?, hstart]
  exact readLinks?_flatMap names hlength

/-! ### The tags of a page -/

/-- The pieces of a link, up to the end of its line. -/
def linkPieces (l : Text × Text) : List Html.Piece :=
  [.tag ("a href=\"" ++ (l.1 ++ ['\x22'])), .text l.2, .tag "/a", .text ['\n']]

/-- The pieces of a page with some links. -/
def pagePieces (ls : List (Text × Text)) : List Html.Piece :=
  [.text [], .tag "pre", .text ['\n']] ++ (ls.flatMap linkPieces ++ [.tag "/pre", .text ['\n']])

/-- For a scanner of markup a link opens with a tag that holds its address, -/
theorem scan_linkStart (t : Text) : Html.scan .text (linkStart ++ t) =
    ([], .tag ("a href=\"" ++ (Html.scan (.quoted '\x22') t).1) ::
      (Html.scan (.quoted '\x22') t).2) :=
  rfl

/-- goes on with its text, -/
theorem scan_linkMiddle (t : Text) : Html.scan (.quoted '\x22') (linkMiddle ++ t) =
    (['\x22'], .text (Html.scan .text t).1 :: (Html.scan .text t).2) :=
  rfl

/-- and is closed by a tag, so that it is scanned on its own. -/
theorem scan_linkEnd (t : Text) : Html.scan .text (linkEnd ++ t) =
    ([], .tag "/a" :: .text ('\n' :: (Html.scan .text t).1) :: (Html.scan .text t).2) :=
  rfl

/-- **The links of a page are all that a scanner of markup finds in it.** -/
theorem scan_links (names : List Text) :
    Html.scan .text (names.flatMap link ++ pageEnd) =
      ([], (links names).flatMap linkPieces ++ [.tag "/pre", .text ['\n']]) := by
  induction names with
  | nil => rfl
  | cons name names ih =>
    -- the reader is in quotes all through the address, and in running text all through the text
    rw [List.flatMap_cons, link]
    simp only [List.append_assoc]
    rw [scan_linkStart, Html.scan_quoted_append (quote_not_mem_encode name), scan_linkMiddle,
      Html.scan_text_append (Html.not_mem_escape name), scan_linkEnd, ih, List.append_nil]
    rfl

/-- **A page has no other tags than those of its links.** -/
theorem pieces_page (names : List Text) : Html.pieces (page names) = pagePieces (links names) := by
  have hstart (t : Text) : Html.scan .text (pageStart ++ t) =
      ([], .tag "pre" :: .text ('\n' :: (Html.scan .text t).1) :: (Html.scan .text t).2) := rfl
  rw [Html.pieces, page, hstart, scan_links]
  rfl

/-! ### The links of a directory -/

/-- What the links of a page say about a directory that is given by its path and its place. -/
structure IsListing (t : FileTree) (directory : Text) (place : Path) (page : Text)
    (ls : List (Text × Text)) : Prop where
  /-- They are what is read off the page. -/
  read : read? page = some ls
  /-- The page has no other tags than theirs, for a reader of any page. -/
  pieces : Html.pieces page = pagePieces ls
  /-- No address ends the quotes around it, and no text opens a tag. -/
  contained : ∀ l ∈ ls, '\x22' ∉ l.1 ∧ '<' ∉ l.2
  /-- An address and the text beside it give one name. -/
  agree : ∀ l ∈ ls, Percent.decode l.1 = Html.unescape l.2
  /-- The names are those of the entries, each as often as it is there, with their marks. -/
  entries : (ls.map fun l ↦ Html.unescape l.2).Perm
    ((t.names place).map (markedName t directory place))
  /-- The names are in strictly increasing order. -/
  increasing : (ls.map fun l ↦ Html.unescape l.2).Pairwise (· < ·)

/-- The address of a link is decoded to the name. -/
theorem decode_encode_isKept (name : Text) :
    Percent.decode (Percent.encode isKept name) = name :=
  (Percent.spells_encode (by decide) name).decode_eq

/-- The texts of the links show the names. -/
theorem map_unescape_links (names : List Text) :
    ((links names).map fun l ↦ Html.unescape l.2) = names := by
  rw [links, List.map_map]
  exact (List.map_congr_left fun name _ ↦ Html.unescape_escape name).trans (List.map_id names)

/-- The link with the text of a name has the address of that name. -/
theorem mem_links_iff {names : List Text} {address : Text} :
    (address, Html.escape name) ∈ links names ↔
      name ∈ names ∧ address = Percent.encode isKept name := by
  rw [links, List.mem_map]
  constructor
  · rintro ⟨other, hother, heq⟩
    obtain ⟨rfl, hescape⟩ := Prod.mk.inj heq
    obtain rfl : other = name := by
      rw [← Html.unescape_escape other, hescape, Html.unescape_escape]
    exact ⟨hother, rfl⟩
  · rintro ⟨hname, rfl⟩
    exact ⟨name, hname, rfl⟩

/-- **A listing loses nothing and lets nothing in**, whatever the names of the entries are, as long
as each entry can be marked. -/
theorem exists_isListing (hresolve : t.resolve directory = .ok place)
    (hdir : t.isDirectory place = true) (hnames : ∀ name ∈ t.names place, '/' ∉ name)
    (hmark : ∀ name ∈ t.names place, CanMark t directory place name) :
    ∃ page ls, render t directory = .ok page ∧ IsListing t directory place page ls := by
  set marked := (t.names place).map (markedName t directory place)
  have hnodup : marked.Nodup := (t.nodup_names place).map_on fun a ha b hb ↦
    markedName_inj (hnames a ha) (hnames b hb)
  refine ⟨_, links (Order.sort lexLE marked), render_eq hresolve hdir hmark, read?_page _,
    pieces_page _, fun l hl ↦ ?_, fun l hl ↦ ?_, ?_, ?_⟩
  · obtain ⟨name, -, rfl⟩ := List.mem_map.1 hl
    exact ⟨quote_not_mem_encode name, Html.not_mem_escape name⟩
  · obtain ⟨name, -, rfl⟩ := List.mem_map.1 hl
    rw [decode_encode_isKept, Html.unescape_escape]
  · rw [map_unescape_links]
    exact Order.sort_perm lexLE marked
  · rw [map_unescape_links]
    exact pairwise_sort_lexLE hnodup

/-- A tree with names that look like parts of a page, a directory, and links to it and to
nothing. -/
def markupTree : FileTree :=
  ⟨[(["site"], .directory), (["site", "\"><a href=x>"], .file ⟨[], 0⟩),
    (["site", "&lt;%41\n"], .file ⟨[], 0⟩), (["site", "b"], .directory),
    (["site", "é"], .link "b"), (["site", "c"], .link "gone")], [], by decide⟩

/-- The case of names that look like markup. -/
theorem exists_isListing_markupTree :
    (∀ name ∈ markupTree.names ["site"], '/' ∉ name) ∧
    (∀ name ∈ markupTree.names ["site"], CanMark markupTree "/site" ["site"] name) ∧
    markupTree.resolve "/site" = .ok ["site"] ∧ markupTree.isDirectory ["site"] = true ∧
    ∃ page ls, render markupTree "/site" = .ok page ∧
      IsListing markupTree "/site" ["site"] page ls := by
  have hnames : ∀ name ∈ markupTree.names ["site"], '/' ∉ name := by decide
  have hmark : ∀ name ∈ markupTree.names ["site"], CanMark markupTree "/site" ["site"] name := by
    decide +kernel
  have hresolve : markupTree.resolve "/site" = .ok ["site"] := by decide +kernel
  exact ⟨hnames, hmark, hresolve, by decide, exists_isListing hresolve (by decide) hnames hmark⟩

example : render markupTree "/site" = .ok (pageStart ++
    ("<a href=\"%22%3E%3Ca%20href%3Dx%3E\">&quot;&gt;&lt;a href=x&gt;</a>\n" ++
    ("<a href=\"%26lt%3B%2541%0A\">&amp;lt;%41\n</a>\n" ++
    ("<a href=\"b/\">b/</a>\n" ++ ("<a href=\"c\">c</a>\n" ++
    ("<a href=\"%C3%A9/\">é/</a>\n" ++ pageEnd)))))) := by
  decide +kernel

end Listing

end StaticServer
