import StaticServer.Proofs.Http.Location
import StaticServer.Proofs.Site.App

/-!
# Redirects

A response with status 307 is one of two (`App.redirect_cases`): the files send a path without a
slash at its end on to the one with a slash, and a path that cannot be served is sent on to another
one, without its slashes at the end or with a slash. The first makes a path longer and the second
makes it shorter, and both are decoded once more on the way, so the length alone tells nothing about
how long this goes on. What each redirect makes less is `App.rank`. The path with a slash is longer
by one, but a slash at the end ranks below what else can stand there, and a line break at the end is
lost; other paths are tried only when slashes stand behind a line break, and end in that line break
(`otherPath_cases`). So a client that follows one redirect after another gets a response of another
kind in the end (`App.exists_redirects`).
-/

namespace StaticServer

/-- The address that a response gives to be asked instead. -/
def Response.location? (a : Response) : Option Text :=
  a.headers.get? "location"

/-! ### Paths that are sent on to others -/

/-- A path without its slashes at the end has them behind it again. -/
theorem exists_slashes (path : Text) : ∃ slashes : Text, (∀ c ∈ slashes, c = '/') ∧
    path = Text.trimRightBy (· == '/') path ++ slashes := by
  refine ⟨(path.reverse.takeWhile (· == '/')).reverse, ?_, ?_⟩
  · intro c hc
    have hall := List.all_takeWhile (p := (· == '/')) (l := path.reverse)
    simpa using List.all_eq_true.1 hall c (List.mem_reverse.1 hc)
  · rw [Text.trimRightBy, ← List.reverse_append, List.takeWhile_append_dropWhile,
      List.reverse_reverse]

/-- **A path is sent on to another only if it is empty or if slashes stand behind a line break.** -/
theorem otherPath_cases {path : Text} (hpath : isRoutable path = false)
    (hother : isRoutable (otherPath path) = true) : path = [] ∨
      Site.endsInSlash path = true ∧ (otherPath path).length < path.length ∧
        ∃ front, otherPath path = front ++ ['\n'] := by
  obtain ⟨rest, hrest, hline⟩ := isRoutable_iff.1 hother
  rcases hslash : Site.endsInSlash path with - | -
  · -- a slash has been added, and nothing but the empty path gets better by that
    left
    rcases path with - | ⟨c, more⟩
    · rfl
    rw [otherPath, hslash, if_neg Bool.false_ne_true, List.cons_append] at hrest
    obtain ⟨rfl, rfl⟩ := List.cons.inj hrest
    rw [List.dropLast_concat] at hline
    have hroutable := isRoutable_iff.2 ⟨more, rfl, fun h ↦ hline (List.dropLast_subset more h)⟩
    exact absurd hroutable (by rw [hpath]; exact Bool.false_ne_true)
  · right
    obtain ⟨slashes, hslashes, heq⟩ := exists_slashes path
    have htrim : otherPath path = Text.trimRightBy (· == '/') path := by
      rw [otherPath, hslash, if_pos rfl]
    rw [← htrim, hrest, List.cons_append] at heq
    -- the line break that is in the way of the path does not stand among its slashes
    have hmem : '\n' ∈ rest := by
      by_contra hnot
      have hmore : '\n' ∉ rest ++ slashes := by
        rw [List.mem_append]
        rintro (h | h)
        · exact hnot h
        · exact absurd (hslashes _ h) (by decide)
      have hroutable := isRoutable_iff.2
        ⟨_, heq, fun h ↦ hmore (List.dropLast_subset _ h)⟩
      exact absurd hroutable (by rw [hpath]; exact Bool.false_ne_true)
    have hne : rest ≠ [] := List.ne_nil_of_mem hmem
    have hlast : rest = rest.dropLast ++ ['\n'] := by
      rw [← List.dropLast_append_getLast hne, List.mem_append, List.mem_singleton] at hmem
      rw [hmem.resolve_left hline, List.dropLast_append_getLast hne]
    have hshorter : slashes ≠ [] := by
      rintro rfl
      rw [List.append_nil, ← hrest] at heq
      rw [← heq, hpath] at hother
      cases hother
    refine ⟨rfl, ?_, '/' :: rest.dropLast, ?_⟩
    · have hpos := List.length_pos_iff.2 hshorter
      rw [hrest, heq, List.length_cons, List.length_cons, List.length_append]
      omega
    · rw [hrest, List.cons_append, ← hlast]

/-! ### Responses that send on -/

namespace App

variable {app : App} {t : FileTree} {r : Request}

theorem location?_redirect (r : Request) (address : Text) :
    (deliver r (DevHeaders.put r (Response.redirect address))).location? = some address := by
  rw [Response.location?, headers_deliver, Headers.get?_eq_head?,
    DevHeaders.valuesOf_put (by decide) (by decide) (by decide)]
  rfl

/-- **The two kinds of redirect**: from the files to the path with a slash, and to another path in
the place of one that cannot be served. -/
theorem redirect_cases (h : (app.handle t r).1.status = 307) :
    (app.IsReady t r ∧ app.site.choose ⟨t, r.denied⟩ r = .ok .slash ∧
      (app.handle t r).1.location? = some (Location.withSlash r)) ∨
    (isRoutable r.path = false ∧ isRoutable (otherPath r.path) = true ∧
      (app.handle t r).1.location? = some (Location.withPath r (otherPath r.path))) := by
  rcases app.isReady_or t r with hready | ⟨hpath, hroot⟩ | hpath
  · left
    rw [handle_of_isReady hready] at h ⊢
    rcases hanswer : app.site.answer t r with refusal | a
    · -- no refusal sends on
      rw [hanswer] at h
      cases refusal with
      | notFound => exact absurd h (status_finish_notFound ▸ by decide)
      | unauthorized => exact absurd h (status_finish_unauthorized ▸ by decide)
      | failed => exact absurd h (status_finish_failed ▸ by decide)
    rw [hanswer, status_finish_ok] at h
    rcases Site.answer_cases hanswer with ⟨f, rfl⟩ | ⟨f, rfl⟩ | ⟨page, rfl⟩ | ⟨hchoose, rfl⟩
    · have hstatus := f.respond_status app.site.boundary r
      rw [h] at hstatus
      exact absurd hstatus (by decide)
    · cases h
    · cases h
    · exact ⟨hready, hchoose, location?_redirect r _⟩
  · -- without the root there are only failures
    rw [handle_of_rootMissing hpath hroot, status_deliver] at h
    cases h
  · right
    rw [handle_of_not_isRoutable hpath] at h ⊢
    rw [status_deliver, DevHeaders.status_put] at h
    rw [reroute] at h ⊢
    split at h
    · next hother =>
      refine ⟨hpath, hother, ?_⟩
      rw [if_pos hother]
      exact location?_redirect r _
    · cases h

/-! ### One redirect after another -/

/-- What a redirect turns a request into, with the application after it: the same request for the
target at the address that the response gives. -/
def followed? (t : FileTree) (x : App × Request) : Option (App × Request) :=
  if (x.1.handle t x.2).1.status = 307 then
    (x.1.handle t x.2).1.location?.map fun address ↦ ((x.1.handle t x.2).2, x.2.sentTo address)
  else none

/-- A number of redirects one after another, over a tree that stays as it is. -/
inductive Redirects (t : FileTree) : Nat → App × Request → App × Request → Prop
  /-- No redirect. -/
  | none (x : App × Request) : Redirects t 0 x x
  /-- One redirect and those after it. -/
  | hop {n : Nat} {x y z : App × Request} (first : followed? t x = some y)
      (rest : Redirects t n y z) : Redirects t (n + 1) x z

/-- What each redirect makes less: two for every character of a path, and less for those at the end
that are soon gone. -/
def rank (path : Text) : Nat :=
  2 * path.length + if Site.endsInSlash path then 0 else if path.getLast? = some '\n' then 1 else 3

theorem rank_of_endsInSlash {path : Text} (h : Site.endsInSlash path = true) :
    rank path = 2 * path.length := by
  rw [rank, if_pos h, Nat.add_zero]

/-- A line break at the end counts three more than what is left when it is gone. -/
theorem rank_concat_break (front : Text) : rank (front ++ ['\n']) = 2 * front.length + 3 := by
  rw [rank, Site.endsInSlash, List.getLast?_concat, if_neg (by decide), if_pos rfl,
    List.length_append, List.length_singleton]
  omega

/-- The bound on the number of hops. -/
theorem rank_le (path : Text) : rank path ≤ 2 * path.length + 3 := by
  rw [rank]
  split_ifs <;> omega

/-- Adding a slash makes a path longer by one character, but a line break at its end goes. -/
theorem rank_withSlash_lt {path : Text} (h : Site.endsInSlash path = false) :
    rank (Text.Percent.decode (Location.dropBreaks path) ++ ['/']) < rank path := by
  have hdecode := Text.Percent.length_decode_le (Location.dropBreaks path)
  have hnext : rank (Text.Percent.decode (Location.dropBreaks path) ++ ['/']) =
      2 * (Text.Percent.decode (Location.dropBreaks path)).length + 2 := by
    rw [rank_of_endsInSlash (by simp [Site.endsInSlash]), List.length_append]
    rfl
  by_cases hbreak : path.getLast? = some '\n'
  · -- the line break that is lost makes up for the slash
    obtain ⟨front, rfl⟩ := List.getLast?_eq_some_iff.1 hbreak
    have hdrop : Location.dropBreaks (front ++ ['\n']) = Location.dropBreaks front := by
      rw [Location.dropBreaks, List.filter_append]
      exact List.append_nil _
    have hfront : (Location.dropBreaks front).length ≤ front.length := List.length_filter_le _ _
    rw [hdrop] at hdecode hnext ⊢
    rw [hnext, rank_concat_break]
    omega
  · have hfilter : (Location.dropBreaks path).length ≤ path.length := List.length_filter_le _ _
    rw [hnext, rank, if_neg (by simp [h]), if_neg hbreak]
    omega

/-- Another path that is tried is shorter, but for the slash in the place of the empty path. -/
theorem rank_otherPath_lt {path : Text} (hpath : isRoutable path = false)
    (hother : isRoutable (otherPath path) = true) :
    rank (Text.Percent.decode (otherPath path)) < rank path := by
  rcases otherPath_cases hpath hother with rfl | ⟨hslash, hlength, front, hfront⟩
  · decide
  · -- the line break at the end is part of no escape, so it is still there after decoding
    have hdecode := Text.Percent.length_decode_le front
    rw [hfront, List.length_append, List.length_singleton] at hlength
    rw [hfront, Text.Percent.decode_concat (by decide) (by decide), rank_concat_break,
      rank_of_endsInSlash hslash]
    omega

/-- **Each redirect leads to a request of a lower rank.** -/
theorem exists_followed (h : (app.handle t r).1.status = 307) :
    ∃ next address, followed? t (app, r) = some (next, r.sentTo address) ∧
      rank (r.sentTo address).path < rank r.path := by
  have hfollowed {address : Text} (hlocation : (app.handle t r).1.location? = some address) :
      followed? t (app, r) = some ((app.handle t r).2, r.sentTo address) := by
    rw [followed?, if_pos h, hlocation]
    rfl
  rcases redirect_cases h with ⟨hready, hchoose, hlocation⟩ | ⟨hpath, hother, hlocation⟩
  · have hnext := (Request.path_query_withSlash (head?_of_isRoutable hready.1)).1
    refine ⟨_, _, hfollowed hlocation, ?_⟩
    rw [hnext]
    exact rank_withSlash_lt ((Site.choose_eq_slash hchoose).1)
  · have hnext := (Request.path_query_withPath (r := r) (head?_of_isRoutable hother)).1
    refine ⟨_, _, hfollowed hlocation, ?_⟩
    rw [hnext]
    exact rank_otherPath_lt hpath hother

/-- Where each redirect lowers the rank, there are no more redirects than the rank allows. -/
theorem exists_redirects_of_rank_le {k : Nat} (hrank : rank r.path ≤ k) :
    ∃ n ≤ k, ∃ next last, Redirects t n (app, r) (next, last) ∧
      (next.handle t last).1.status ≠ 307 := by
  induction k generalizing app r with
  | zero =>
    refine ⟨0, Nat.le_refl 0, app, r, .none _, fun hstatus ↦ ?_⟩
    obtain ⟨next, address, -, hless⟩ := exists_followed hstatus
    omega
  | succ k ih =>
    -- the application changes on the way, too, so the hypothesis is for any application
    by_cases hstatus : (app.handle t r).1.status = 307
    · obtain ⟨next, address, hfollowed, hless⟩ := exists_followed hstatus
      have hnext : rank (r.sentTo address).path ≤ k := by omega
      obtain ⟨n, hn, last, final, hrest, hend⟩ : ∃ n ≤ k, ∃ last final,
          Redirects t n (next, r.sentTo address) (last, final) ∧
            (last.handle t final).1.status ≠ 307 := ih hnext
      exact ⟨n + 1, Nat.succ_le_succ hn, last, final, .hop hfollowed hrest, hend⟩
    · exact ⟨0, Nat.zero_le _, app, r, .none _, hstatus⟩

/-- **Redirects come to an end.** Over a tree that stays as it is, a request that is sent on again
and again gets another response in the end, after at most twice as many redirects as its path has
characters and three more. -/
theorem exists_redirects (app : App) (t : FileTree) (r : Request) :
    ∃ n ≤ 2 * r.path.length + 3, ∃ next last, Redirects t n (app, r) (next, last) ∧
      (next.handle t last).1.status ≠ 307 :=
  exists_redirects_of_rank_le (rank_le r.path)

end App

end StaticServer
