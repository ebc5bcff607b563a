import StaticServer.Proofs.FileTree.Below
import StaticServer.Proofs.Site.Denial
import StaticServer.Proofs.Site.Files
import StaticServer.Proofs.Site.ListingPage

/-!
# The links of a listing

A client takes the address of a link in a listing to stand behind the path of the page, as both were
sent. `App.follow_link` says for which names of regular files the server then sends the file: those
that make a path of one line, that are not taken for foreign, and whose files can be looked at and
dated.

The path of the link is that of the page with the name behind it (`Request.path_of_follows`),
although both have been decoded together, because the slash between them belongs to no escape. So
its lookup goes one name further than that of the page (`Lookup.find_concat`).
-/

namespace StaticServer

/-! ### The path of a link -/

/-- A request for the address of a link on the page that another request has got. -/
structure Request.Follows (r : Request) (address : Text) (r' : Request) : Prop where
  /-- The method is `GET`. -/
  get : r'.verb = "GET"
  /-- There is no range and no condition. -/
  plain : r'.IsPlain
  /-- Nothing is denied. -/
  denied : r'.denied = []
  /-- The target is the path of the page, as it was sent, with the address behind it. -/
  target : r'.target = (Text.cut '?' r.target).1 ++ address

/-- The path of a link is that of the page with the name behind it. -/
theorem Request.path_of_follows {r r' : Request} {name : Text}
    (hslash : Site.endsInSlash (Text.cut '?' r.target).1 = true)
    (h : r.Follows (Text.Percent.encode Listing.isKept name) r') :
    ∃ front, r.path = front ++ ['/'] ∧ r'.path = front ++ '/' :: name := by
  obtain ⟨raw, hraw⟩ := List.getLast?_eq_some_iff.1 (of_decide_eq_true hslash)
  have hquestion : '?' ∉ (Text.cut '?' r.target).1 ++ Text.Percent.encode Listing.isKept name := by
    rw [List.mem_append, not_or]
    refine ⟨Text.not_mem_cut '?' r.target, fun hmem ↦ ?_⟩
    rcases Text.Percent.mem_encode hmem with ⟨-, hkept⟩ | hpercent | hhex
    · exact absurd hkept (by decide)
    · exact absurd hpercent (by decide)
    · exact absurd hhex (by decide)
  refine ⟨Text.Percent.decode raw, ?_, ?_⟩
  · rw [path, hraw, Text.Percent.decode_concat (by decide) (by decide)]
  · rw [path, h.target, Text.cut_fst_eq_self_iff.2 hquestion, hraw, List.append_assoc,
      List.singleton_append, Text.Percent.decode_append_cons (by decide) (by decide),
      Listing.decode_encode_isKept]

namespace Lookup

/-- A name behind the last slash of a path is one more part. -/
theorem relativeParts_append_name {name : Text} (h : Path.isName name = true) (front : Text) :
    relativeParts (front ++ '/' :: name) = relativeParts (front ++ ['/']) ++ [name] := by
  rw [relativeParts_concat_slash, relativeParts, relativeParts,
    Path.parts_append_name (Path.slash_not_mem_of_isName h), Path.normalizeRelative,
    List.foldl_append, ← Path.normalizeRelative]
  exact Path.pushRelative_name (Path.isStay_of_isName h) (Path.ne_up_of_isName h)

/-- The normal form of a path has no empty part. -/
theorem nil_not_mem_relativeParts (path : Text) : [] ∉ relativeParts path := by
  intro hmem
  obtain ⟨n, names, hparts, hnames⟩ := Path.isNormal_normalizeRelative (Path.parts path)
  rw [relativeParts, hparts] at hmem
  rcases List.mem_append.1 hmem with hup | hname
  · exact absurd (List.eq_of_mem_replicate hup) (by decide)
  · exact absurd (hnames [] hname).1 (by decide)

/-! ### One name further -/

/-- A name in a directory is short, and so is the path of the directory with the name behind it. -/
def IsShort (place : Path) (name : Text) : Prop :=
  Text.Utf8.size (Path.text (place ++ [name])) < Path.textLimit ∧
    Text.Utf8.size name ≤ Path.nameLimit

instance (place : Path) (name : Text) : Decidable (IsShort place name) :=
  inferInstanceAs (Decidable (_ ∧ _))

/-- The place of a directory that is found leads to a directory. -/
theorem isDirectory_of_find {t : FileTree} {root place d : Path} {parts : List Text}
    (hfind : find ⟨t, []⟩ root parts = .ok (some ⟨place, .directory⟩))
    (hresolve : t.resolve (Path.text place) = .ok d) : t.isDirectory d = true := by
  obtain ⟨-, -, -, hentry⟩ := find_eq_ok_some_iff.1 hfind
  obtain ⟨-, q, hq, hget⟩ := View.entry_eq_ok_iff.1 hentry
  obtain rfl := Except.ok.inj (hresolve.symm.trans hq)
  exact decide_eq_true hget

/-- **A lookup goes one name further** to a regular file in the directory that it has found. -/
theorem find_concat {t : FileTree} {root place d : Path} {path name : Text} {data : FileData}
    (hroot : root.IsPlain)
    (hfind : find ⟨t, []⟩ root (relativeParts path) = .ok (some ⟨place, .directory⟩))
    (hresolve : t.resolve (Path.text place) = .ok d) (hname : Path.isName name = true)
    (hfile : t.get? (d ++ [name]) = some (.file data))
    (hnative : isForeign (relativeParts path ++ [name]) = false) :
    find ⟨t, []⟩ root (relativeParts path ++ [name]) =
      if IsShort place name then .ok (some ⟨place ++ [name], .file data⟩)
      else .error .nameTooLong := by
  obtain ⟨-, hreal, ⟨directory, hdirectory, hwithin⟩, -⟩ := find_eq_ok_some_iff.1 hfind
  have hdir := isDirectory_of_find hfind hresolve
  have hempty : [] ∉ root ++ relativeParts path := by
    rw [List.mem_append, not_or]
    exact ⟨fun h ↦ absurd (hroot [] h) (by decide), nil_not_mem_relativeParts path⟩
  have hmore : t.realPath (root ++ (relativeParts path ++ [name])) = .ok (place ++ [name]) := by
    rw [← List.append_assoc]
    exact FileTree.realPath_concat hempty (slash_not_mem_of_mem_append hroot
      fun _ ↦ Site.slash_not_mem_of_mem_relativeParts) hname hreal hresolve hfile
  have hwithin' : Path.isWithin directory (place ++ [name]) = true := by
    rw [Path.isWithin, List.isPrefixOf_iff_prefix] at hwithin ⊢
    exact hwithin.trans (List.prefix_append place [name])
  have hlooked := FileTree.resolve_text_concat hdir hname hfile hresolve
  rw [FileTree.oneMore] at hlooked
  have hentry' : (View.mk t []).entry (place ++ [name]) =
      if IsShort place name then .ok (.file data) else .error .nameTooLong := by
    by_cases hshort : IsShort place name
    · rw [if_pos hshort, View.entry_eq_ok_iff]
      rw [if_neg (Nat.not_le.2 hshort.1), if_neg (Nat.not_lt.2 hshort.2)] at hlooked
      exact ⟨rfl, d ++ [name], hlooked, hfile⟩
    · rw [if_neg hshort]
      refine View.entry_of_resolve_error ?_
      rw [hlooked]
      split_ifs with hlong hlongName
      · rfl
      · rfl
      · exact absurd ⟨Nat.not_le.1 hlong, Nat.not_lt.1 hlongName⟩ hshort
  rw [find, if_neg (by simp [hnative])]
  simp only [hmore, hdirectory, bind, Except.bind, hwithin', if_true, hentry']
  split_ifs <;> rfl

end Lookup

namespace App

open Lookup

variable {app : App} {t : FileTree} {r r' : Request} {place d : Path} {page name : Text}
  {data : FileData}

/-- A `GET` is answered with the page that lists a directory. -/
structure ListsDirectory (app : App) (t : FileTree) (r : Request) (place d : Path) (page : Text) :
    Prop where
  /-- The application is in use. -/
  reached : app.Reached
  /-- The method is `GET`. -/
  get : r.verb = "GET"
  /-- Nothing is denied. -/
  denied : r.denied = []
  /-- The path ends in a slash, as it was sent. -/
  slash : Site.endsInSlash (Text.cut '?' r.target).1 = true
  /-- The answer is made of the listing of a place. -/
  chosen : app.site.choose ⟨t, r.denied⟩ r = .ok (.listing place)
  /-- The directory is the one that the place leads to. -/
  directory : t.resolve (Path.text place) = .ok d
  /-- The answer is sent. -/
  status : (app.handle t r).1.status = 200
  /-- The page is what is sent. -/
  body : (app.handle t r).1.body = Text.Utf8.encode page

/-- A directory that is listed was found by the path, -/
theorem ListsDirectory.found (h : app.ListsDirectory t r place d page) :
    find ⟨t, []⟩ app.site.root (relativeParts r.path) = .ok (some ⟨place, .directory⟩) := by
  have hfind := Site.find_of_choose_listing h.chosen
  rwa [h.denied] at hfind

/-- and the page is its listing. -/
theorem ListsDirectory.rendered (h : app.ListsDirectory t r place d page) :
    Listing.render t (Path.text place) = .ok page := by
  have hanswer := congrArg Prod.fst (handle_of_isReady (isReady_of_status h.status))
  have hchosen := Site.answer_of_choose h.chosen
  rw [Site.present, Site.list] at hchosen
  rcases hpage : Listing.render t (Path.text place) with f | page'
  · have hstatus := h.status
    rw [hanswer, hchosen, hpage, status_finish_failed] at hstatus
    cases hstatus
  · have hbody := h.body
    rw [hanswer, hchosen, hpage, body_finish_html h.get] at hbody
    rw [Text.Utf8.encode_injective hbody]

/-- Behind the path of a page a name makes a path that can be served unless there is a line break
in it before its last character. -/
theorem isRoutable_append_iff {front : Text} (hfront : isRoutable (front ++ ['/']) = true)
    (hne : name ≠ []) : isRoutable (front ++ '/' :: name) = true ↔ '\n' ∉ name.dropLast := by
  have hslash (rest : Text) : isRoutable ('/' :: rest) = true ↔ '\n' ∉ rest.dropLast := by
    rw [isRoutable_iff]
    exact ⟨fun ⟨_, heq, h⟩ ↦ (List.cons.inj heq).2 ▸ h, fun h ↦ ⟨rest, rfl, h⟩⟩
  rcases front with - | ⟨c, front⟩
  · exact hslash name
  · rw [List.cons_append] at hfront
    obtain ⟨rest, heq, hline⟩ := isRoutable_iff.1 hfront
    obtain ⟨rfl, rfl⟩ := List.cons.inj heq
    rw [List.dropLast_concat] at hline
    rw [List.cons_append, hslash, List.dropLast_append_of_ne_nil (List.cons_ne_nil '/' name),
      List.dropLast_cons_of_ne_nil hne, List.mem_append, not_or, List.mem_cons, not_or]
    exact ⟨fun h ↦ h.2.2, fun h ↦ ⟨hline, by decide, h⟩⟩

/-- **When the link of a file leads to it**: the name breaks no line before its end, does not make
the path foreign and is short enough, and a date can show the file's time. -/
theorem ListsDirectory.served_iff (h : app.ListsDirectory t r place d page)
    (hname : Path.isName name = true) (hfile : t.get? (d ++ [name]) = some (.file data))
    (hfollows : r.Follows (Text.Percent.encode Listing.isKept name) r') :
    ((app.handle t r).2.handle t r').1.status = 200 ∧
        ((app.handle t r).2.handle t r').1.body = data.content ↔
      '\n' ∉ name.dropLast ∧ ¬ (relativeParts r.path = [] ∧ name.head? = some '\\') ∧
        IsShort place name ∧ (Validator.ofFile? data).isSome = true := by
  obtain ⟨front, hpath, hpath'⟩ := Request.path_of_follows h.slash hfollows
  have hready := isReady_of_status h.status
  have hne : name ≠ [] := by
    rintro rfl
    cases hname
  have hroutable : isRoutable r'.path = true ↔ '\n' ∉ name.dropLast := by
    rw [hpath']
    exact isRoutable_append_iff (hpath ▸ hready.1) hne
  have hparts : relativeParts r'.path = relativeParts r.path ++ [name] := by
    rw [hpath', hpath, relativeParts_append_name hname]
  have hforeign : isForeign (relativeParts r'.path) = true ↔
      relativeParts r.path = [] ∧ name.head? = some '\\' := by
    rw [hparts, isForeign_concat_iff, (find_eq_ok_some_iff.1 h.found).1]
    exact or_iff_right Bool.false_ne_true
  have hafter : (app.handle t r).2 = { app with checked := true } := by
    rw [handle_of_isReady hready]
  have hlookup (hnative : isForeign (relativeParts r'.path) = false) :
      find ⟨t, r'.denied⟩ app.site.root (relativeParts r'.path) =
        if IsShort place name then .ok (some ⟨place ++ [name], .file data⟩)
        else .error .nameTooLong := by
    rw [hparts] at hnative ⊢
    rw [hfollows.denied]
    exact find_concat h.reached.isPlain h.found h.directory hname hfile hnative
  rw [hafter, ← hroutable, ← hforeign]
  set app' : App := { app with checked := true }
  constructor
  · rintro ⟨hstatus, hbody⟩
    have hready' := isReady_of_status hstatus
    have hanswer := congrArg Prod.fst (handle_of_isReady hready')
    have hnative : isForeign (relativeParts r'.path) = false := by
      refine Bool.eq_false_iff.2 fun hforeign' ↦ ?_
      rw [hanswer] at hstatus
      exact status_ne_of_absent (find_of_isForeign hforeign') (by simp) hstatus
    have hfind := hlookup hnative
    by_cases hshort : IsShort place name
    · rw [if_pos hshort] at hfind
      exact ⟨hready'.1, by simp [hnative], hshort,
        (served_iff_of_find hready' hfollows.get hfollows.plain hfind).1 ⟨hstatus, hbody⟩⟩
    · -- a path that is too long passes the first lookup and fails at the second one
      rw [if_neg hshort] at hfind
      rw [hanswer, status_of_fault hfind (by decide)] at hstatus
      cases hstatus
  · rintro ⟨hroutable', hnative, hshort, hdated⟩
    have hready' : app'.IsReady t r' := ⟨hroutable', rfl⟩
    have hfind := hlookup (by simpa using hnative)
    rw [if_pos hshort] at hfind
    exact (served_iff_of_find hready' hfollows.get hfollows.plain hfind).2 hdated

/-- A regular file in the directory has a link on the page, whose address is that of its name. -/
theorem ListsDirectory.exists_links (h : app.ListsDirectory t r place d page)
    (hfile : t.get? (d ++ [name]) = some (.file data)) :
    ∃ ls, Listing.read? page = some ls ∧ ∀ address, (address, Text.Html.escape name) ∈ ls ↔
      address = Text.Percent.encode Listing.isKept name := by
  have hdir := isDirectory_of_find h.found h.directory
  have hmark := (Listing.exists_render_iff h.directory hdir).1 ⟨page, h.rendered⟩
  obtain rfl := Except.ok.inj ((Listing.render_eq h.directory hdir hmark).symm.trans h.rendered)
  refine ⟨_, Listing.read?_page _, fun address ↦ ?_⟩
  have hmem : name ∈ Order.sort Text.lexLE
      ((t.names d).map (Listing.markedName t (Path.text place) d)) := by
    have hentry : name ∈ t.names d :=
      FileTree.mem_names_iff.2 ⟨_, FileTree.mem_entries_of_get? (by simp) hfile⟩
    have hplain : Listing.markedName t (Path.text place) d name = name := by
      simp [Listing.markedName, Listing.opensDirectory, hfile]
    rw [Order.mem_sort]
    exact List.mem_map.2 ⟨name, hentry, hplain⟩
  rw [Listing.mem_links_iff, and_iff_right hmem]

/-- **The links of a listing work.** A regular file in the directory has a link on the page, and a
request for the address of the link, behind the path of the page as it was sent, gets exactly the
bytes of the file if and only if the name is one line, perhaps with a line break at its end; it does
not start with a backslash on a page whose path is that of the root; and the file can be looked at
by its path and dated. -/
theorem follow_link (h : app.ListsDirectory t r place d page) (hname : Path.isName name = true)
    (hfile : t.get? (d ++ [name]) = some (.file data)) :
    ∃ ls, Listing.read? page = some ls ∧ (∃ address, (address, Text.Html.escape name) ∈ ls) ∧
      ∀ address, (address, Text.Html.escape name) ∈ ls → ∀ r', r.Follows address r' →
        (((app.handle t r).2.handle t r').1.status = 200 ∧
            ((app.handle t r).2.handle t r').1.body = data.content ↔
          '\n' ∉ name.dropLast ∧ ¬ (relativeParts r.path = [] ∧ name.head? = some '\\') ∧
            IsShort place name ∧ (Validator.ofFile? data).isSome = true) := by
  obtain ⟨ls, hread, hlinks⟩ := h.exists_links hfile
  refine ⟨ls, hread, ⟨_, (hlinks _).2 rfl⟩, fun address haddress r' hfollows ↦ ?_⟩
  obtain rfl := (hlinks address).1 haddress
  exact h.served_iff hname hfile hfollows

/-- A tree with two files in a directory, with a line break at the end of a name and inside one. -/
def breakTree : FileTree :=
  ⟨[(["site"], .directory), (["site", "u"], .directory),
    (["site", "u", "a b\n"], .file ⟨Text.Utf8.encode "hi", 0⟩),
    (["site", "u", "a\nb"], .file ⟨[], 0⟩)], [], by decide⟩

/-- The case of two names with a line break, at the end of the one and inside of the other. -/
theorem follow_link_breakTree :
    siteApp.ListsDirectory breakTree ⟨"GET", "/x/..//%75/?q", [], []⟩ ["site", "u"] ["site", "u"]
      (Listing.page ["a\nb", "a b\n"]) ∧
    (((siteApp.handle breakTree ⟨"GET", "/x/..//%75/?q", [], []⟩).2.handle breakTree
        ⟨"GET", "/x/..//%75/a%20b%0A", [], []⟩).1.status = 200 ∧
      ((siteApp.handle breakTree ⟨"GET", "/x/..//%75/?q", [], []⟩).2.handle breakTree
        ⟨"GET", "/x/..//%75/a%20b%0A", [], []⟩).1.body = Text.Utf8.encode "hi") ∧
    ¬ (((siteApp.handle breakTree ⟨"GET", "/x/..//%75/?q", [], []⟩).2.handle breakTree
        ⟨"GET", "/x/..//%75/a%0Ab", [], []⟩).1.status = 200 ∧
      ((siteApp.handle breakTree ⟨"GET", "/x/..//%75/?q", [], []⟩).2.handle breakTree
        ⟨"GET", "/x/..//%75/a%0Ab", [], []⟩).1.body = []) := by
  have hlists : siteApp.ListsDirectory breakTree ⟨"GET", "/x/..//%75/?q", [], []⟩ ["site", "u"]
      ["site", "u"] (Listing.page ["a\nb", "a b\n"]) :=
    ⟨siteApp_reached, by decide, rfl, by decide, by decide +kernel, by decide +kernel,
      by decide +kernel, by decide +kernel⟩
  have hplain (target : Text) : (⟨"GET", target, [], []⟩ : Request).IsPlain := ⟨rfl, rfl, rfl⟩
  have hlinks {ls : List (Text × Text)} (name : Text)
      (hread : Listing.read? (Listing.page ["a\nb", "a b\n"]) = some ls)
      (hname : name ∈ [("a\nb" : Text), "a b\n"]) :
      (Text.Percent.encode Listing.isKept name, Text.Html.escape name) ∈ ls := by
    obtain rfl := Option.some_inj.1 ((Listing.read?_page _).symm.trans hread)
    exact Listing.mem_links_iff.2 ⟨hname, rfl⟩
  have hend : breakTree.get? ([("site" : Text), "u"] ++ [("a b\n" : Text)]) =
      some (.file ⟨Text.Utf8.encode "hi", 0⟩) := rfl
  have hinner : breakTree.get? ([("site" : Text), "u"] ++ [("a\nb" : Text)]) =
      some (.file ⟨[], 0⟩) := rfl
  refine ⟨hlists, ?_, ?_⟩
  · obtain ⟨ls, hread, -, hworks⟩ := follow_link hlists (by decide) hend
    exact (hworks _ (hlinks _ hread (by decide)) _
      ⟨by decide, hplain _, rfl, by decide +kernel⟩).2 (by decide +kernel)
  · obtain ⟨ls, hread, -, hworks⟩ := follow_link hlists (by decide) hinner
    exact fun hserved ↦ ((hworks _ (hlinks _ hread (by decide)) _
      ⟨by decide, hplain _, rfl, by decide +kernel⟩).1 hserved).1 (by decide)

/-- A directory whose path takes fewer than 4096 bytes, but not with a long name behind it. -/
def deepDirectory : Path :=
  ("site" : Text) :: (List.replicate 15 longName ++ [List.replicate 25 '𐍈'])

/-- A tree with that directory, a file with a long name in it, and links by which a short path leads
to the directory. -/
def deepPageTree : FileTree :=
  ⟨(deepDirectory ++ [longName], .file ⟨Text.Utf8.encode "hi", 0⟩) :: (deepDirectory, .directory) ::
    (["site", "s"], .link (Text.join "/" (List.replicate 8 longName))) ::
    (["site", "u"], .link (Text.join "/"
      (("s" : Text) :: (List.replicate 7 longName ++ [List.replicate 25 '𐍈'])))) ::
    (List.range 16).map fun n ↦ ("site" :: List.replicate n longName, .directory), [],
    by decide +kernel⟩

/-- **A link of a listing can lead to a failure** although nothing is wrong with the name, because
the path of the file is too long, or because no date can show when it was modified. -/
theorem not_follow_link_deepPageTree_lateTree :
    (siteApp.ListsDirectory deepPageTree ⟨"GET", "/u/", [], []⟩ deepDirectory deepDirectory
        (Listing.page [longName]) ∧
      deepPageTree.isInside siteApp.site.root deepDirectory = true ∧
      deepPageTree.get? (deepDirectory ++ [longName]) = some (.file ⟨Text.Utf8.encode "hi", 0⟩) ∧
      '\n' ∉ longName ∧ relativeParts "/u/" ≠ [] ∧
      ((siteApp.handle deepPageTree ⟨"GET", "/u/", [], []⟩).2.handle deepPageTree
        ⟨"GET", "/u/" ++ Text.Percent.encode Listing.isKept longName, [], []⟩).1.status = 500) ∧
    siteApp.ListsDirectory lateTree ⟨"GET", "/u/", [], []⟩ ["site", "u"] ["site", "u"]
        (Listing.page ["f.txt"]) ∧
      lateTree.isInside siteApp.site.root ["site", "u"] = true ∧
      lateTree.get? ["site", "u", "f.txt"] = some (.file ⟨Text.Utf8.encode "hi", 10 ^ 21⟩) ∧
      '\n' ∉ ("f.txt" : Text) ∧ relativeParts "/u/" ≠ [] ∧
      ((siteApp.handle lateTree ⟨"GET", "/u/", [], []⟩).2.handle lateTree
        ⟨"GET", "/u/f.txt", [], []⟩).1.status = 500 := by
  constructor
  all_goals
    exact ⟨⟨siteApp_reached, by decide, rfl, by decide, by decide +kernel, by decide +kernel,
      by decide +kernel, by decide +kernel⟩, by decide +kernel, by decide +kernel,
      by decide +kernel, by decide +kernel, by decide +kernel⟩

end App

end StaticServer
