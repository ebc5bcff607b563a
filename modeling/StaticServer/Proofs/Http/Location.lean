import Mathlib.Tactic.ByContra
import Mathlib.Tactic.SplitIfs
import StaticServer.Http.Location
import StaticServer.Proofs.Text.Decoding

/-!
# What is asked for after a redirect

An address in a header has a host without a slash, a question mark or a hash
(`endsHost_of_mem_host`), so that the rest of it, which starts with a slash, is found again behind
the host (`target_print`). All that is escaped there on the way is decoded again by whoever is
asked: the request that follows a redirect to the path with a slash has that path, but decoded once
more and without its tabs and line breaks (`Request.path_query_withSlash`), and the one that follows
a redirect to another path has that path, decoded once more (`Request.path_query_withPath`). Queries
are not decoded; they lose their fragment and are written as an address writes them.
-/

namespace StaticServer

namespace Host

/-- A character of a host: one of a name, a colon or a bracket. -/
def IsHostChar (c : Char) : Prop :=
  isNameChar c = true ∨ c ∈ [':', '[', ']']

instance (c : Char) : Decidable (IsHostChar c) :=
  inferInstanceAs (Decidable (_ ∨ _))

/-- An address in brackets has characters of hosts only. -/
theorem isHostChar_of_isBracketed {t : Text} (h : isBracketed t = true) :
    ∀ c ∈ t, IsHostChar c := by
  intro c hc
  rw [isBracketed, Bool.and_eq_true, List.all_eq_true] at h
  have hchar := h.1 c hc
  rw [Bool.and_eq_true, Bool.or_eq_true] at hchar
  rcases hchar.1 with hname | hcolon
  · exact .inl hname
  · exact .inr (by simp [of_decide_eq_true hcolon])

theorem isHostChar_of_isPort {t : Text} (h : isPort t = true) : ∀ c ∈ t, IsHostChar c := by
  intro c hc
  rw [isPort, Bool.and_eq_true, Bool.and_eq_true, List.all_eq_true] at h
  have hdigit := h.1.2 c hc
  exact .inl (by simp [isNameChar, Text.Percent.isUnreserved, Char.isAlphanum, hdigit])

theorem isHostChar_of_isName {t : Text} (h : t.all isNameChar = true) :
    ∀ c ∈ t, IsHostChar c :=
  fun c hc ↦ .inl (List.all_eq_true.1 h c hc)

/-- **A valid host holds only characters of names, colons and brackets.** -/
theorem isHostChar_of_isValid {t : Text} (h : isValid t = true) : ∀ c ∈ t, IsHostChar c := by
  unfold isValid at h
  split at h
  · -- an address in brackets, without a port or with one
    next rest =>
    split at h
    · next address heq =>
      obtain ⟨rfl, -⟩ := Text.cut_eq_some_iff.1 heq
      have haddress := isHostChar_of_isBracketed h
      simp only [List.forall_mem_cons, List.forall_mem_append]
      exact ⟨.inr (by decide), haddress, .inr (by decide), by simp⟩
    · next address port heq =>
      obtain ⟨rfl, -⟩ := Text.cut_eq_some_iff.1 heq
      rw [Bool.and_eq_true] at h
      have haddress := isHostChar_of_isBracketed h.1
      have hport := isHostChar_of_isPort h.2
      simp only [List.forall_mem_cons, List.forall_mem_append]
      exact ⟨.inr (by decide), haddress, .inr (by decide), .inr (by decide), hport⟩
    · cases h
  · -- a name, without a port or with one
    split at h
    · next name heq =>
      obtain ⟨rfl, -⟩ := Text.cut_eq_none_iff.1 heq
      rw [Bool.and_eq_true] at h
      exact isHostChar_of_isName h.2
    · next name port heq =>
      obtain ⟨rfl, -⟩ := Text.cut_eq_some_iff.1 heq
      rw [Bool.and_eq_true, Bool.and_eq_true] at h
      have hname := isHostChar_of_isName h.1.2
      have hport := isHostChar_of_isPort h.2
      simp only [List.forall_mem_cons, List.forall_mem_append]
      exact ⟨hname, .inr (by decide), hport⟩

end Host

namespace Location

/-! ### What is asked for at an address -/

/-- Does a character end the host of an address? -/
def endsHost (c : Char) : Bool :=
  c = '/' || c = '?' || c = '#'

/-- The target that is asked for at an address: what stands behind its host, but no fragment. -/
def target (address : Text) : Text :=
  (Text.cut '#' (((Text.dropLead? "http://" address).getD []).dropWhile fun c ↦ !endsHost c)).1

/-- No character of a host ends it. -/
theorem endsHost_of_mem_host {r : Request} {c : Char} (h : c ∈ host r) : endsHost c = false := by
  have hvalid {t : Text} (ht : Host.isValid t = true) (hc : c ∈ t) : endsHost c = false := by
    have hchar := Host.isHostChar_of_isValid ht c hc
    by_contra hends
    simp only [endsHost, Bool.not_eq_false, Bool.or_eq_true, decide_eq_true_eq] at hends
    rcases hends with (rfl | rfl) | rfl
    · exact absurd hchar (by decide)
    · exact absurd hchar (by decide)
    · exact absurd hchar (by decide)
  have hfallback (hc : c ∈ fallbackHost) : endsHost c = false := by
    have hall : fallbackHost.all (fun c ↦ !endsHost c) = true := by decide
    simpa using List.all_eq_true.1 hall c hc
  rw [host] at h
  split at h
  · split at h
    · next hh => exact hvalid hh h
    · exact hfallback h
  · exact hfallback h

/-- Behind the host of an address that a header gives stands the rest as it was encoded, up to the
fragment. -/
theorem target_print (r : Request) {rest : Text} (hslash : rest.head? = some '/') :
    target (print (host r) rest) = Text.Percent.encode isKept (Text.cut '#' rest).1 := by
  have hlead : Text.dropLead? "http://" (print (host r) rest) =
      some (host r ++ Text.Percent.encode isKept rest) := Text.dropLead?_eq_some_iff.2 rfl
  have hhost : ∀ c ∈ host r, (!endsHost c) = true := fun c hc ↦ by
    rw [endsHost_of_mem_host hc]
    rfl
  have hstop : (Text.Percent.encode isKept rest).dropWhile (fun c ↦ !endsHost c) =
      Text.Percent.encode isKept rest := by
    obtain ⟨after, rfl⟩ := List.head?_eq_some_iff.1 hslash
    exact List.dropWhile_cons_of_neg (by decide)
  rw [target, hlead, Option.getD_some, List.dropWhile_append_of_pos hhost, hstop,
    Text.Percent.cut_encode (by decide) (by decide) (by decide)]

/-! ### What escaping for an address keeps -/

/-- Hexadecimal digits are digits and letters. -/
theorem isAlphanum_of_isSome_hexValue? {c : Char} (h : (Text.Percent.hexValue? c).isSome = true) :
    c.isAlphanum = true := by
  simp only [Text.Percent.hexValue?] at h
  split_ifs at h with hdigit hlower hupper
  · simp [Char.isAlphanum, hdigit]
  · have hletter : c.isLower = true := Bool.and_eq_true_iff.2
      ⟨decide_eq_true hlower.1, decide_eq_true (UInt32.le_trans hlower.2 (by decide))⟩
    have halpha : c.isAlpha = true := Bool.or_eq_true_iff.2 (.inr hletter)
    simp [Char.isAlphanum, halpha]
  · have hletter : c.isUpper = true :=
      decide_eq_true ⟨hupper.1, UInt32.le_trans hupper.2 (by decide)⟩
    have halpha : c.isAlpha = true := Bool.or_eq_true_iff.2 (.inl hletter)
    simp [Char.isAlphanum, halpha]
  · cases h

/-- Encoding for addresses leaves a character, or replaces it by escapes that spell it. -/
theorem isEscaping_isKept : Text.Percent.IsEscaping (Text.Percent.encodeChar isKept) := by
  -- an address keeps all digits and letters
  refine Text.Percent.isEscaping_encodeChar (by decide) fun c hc ↦ ?_
  simp [isKept, Text.Percent.isUnreserved, isAlphanum_of_isSome_hexValue? hc]

/-- So does the escaping of paths. -/
theorem isEscaping_escapePathChar : Text.Percent.IsEscaping escapePathChar := by
  have hescapes (c : Char) {x y : Char} {a b : Nat} (ha : Text.Percent.hexValue? x = some a)
      (hb : Text.Percent.hexValue? y = some b)
      (hc : String.utf8EncodeChar c = [UInt8.ofNat (16 * a + b)]) :
      Text.Percent.Escapes (String.utf8EncodeChar c) ['%', x, y] := by
    rw [hc]
    exact .cons ha hb .nil
  intro c
  rw [escapePathChar]
  -- each of the three characters is one byte, and that byte is what its escape stands for
  split
  · next h =>
    subst h
    exact .inr ⟨by decide, rfl, hescapes '?' (a := 3) (b := 15) rfl rfl (by decide)⟩
  split
  · next h =>
    subst h
    exact .inr ⟨by decide, rfl, hescapes '#' (a := 2) (b := 3) rfl rfl (by decide)⟩
  split
  · next h =>
    subst h
    exact .inr ⟨by decide, rfl, hescapes '\\' (a := 5) (b := 12) rfl rfl (by decide)⟩
  · exact .inl rfl

/-- Neither of the marks of an address is in an escaped path. -/
theorem not_mem_escapePath {c : Char} (hc : c = '?' ∨ c = '#') (path : Text) :
    c ∉ escapePath path := by
  have hchar (d : Char) : c ∉ escapePathChar d := by
    rw [escapePathChar]
    split_ifs with hquestion hhash hbackslash
    · rcases hc with rfl | rfl <;> decide
    · rcases hc with rfl | rfl <;> decide
    · rcases hc with rfl | rfl <;> decide
    · rw [List.mem_singleton]
      rintro rfl
      exact hc.elim hquestion hhash
  intro hmem
  obtain ⟨d, -, hd⟩ := List.mem_flatMap.1 hmem
  exact hchar d hd

/-- Line breaks can be dropped before a text is escaped or behind it, if that makes no difference
for a single character. -/
theorem dropBreaks_flatMap {f : Char → Text}
    (hf : ∀ c, dropBreaks (f c) = (dropBreaks [c]).flatMap f) (t : Text) :
    dropBreaks (t.flatMap f) = (dropBreaks t).flatMap f := by
  induction t with
  | nil => rfl
  | cons c t ih =>
    have happend (u v : Text) : dropBreaks (u ++ v) = dropBreaks u ++ dropBreaks v :=
      List.filter_append ..
    rw [List.flatMap_cons, happend, hf, ih, ← List.flatMap_append, ← happend, List.singleton_append]

/-- What is dropped from the path of an address are the breaks of the request's path. -/
theorem path_eq (r : Request) : path r = escapePath (dropBreaks r.path) := by
  refine dropBreaks_flatMap (fun c ↦ ?_) r.path
  rw [escapePathChar]
  split_ifs with hquestion hhash hbackslash
  · subst hquestion
    decide
  · subst hhash
    decide
  · subst hbackslash
    decide
  · have hsingle : dropBreaks [c] = [c] ∨ dropBreaks [c] = [] := by
      rw [dropBreaks, List.filter_cons]
      split
      · exact .inl rfl
      · exact .inr rfl
    have hkept : [c].flatMap escapePathChar = [c] := by
      rw [List.flatMap_singleton, escapePathChar, if_neg hquestion, if_neg hhash, if_neg hbackslash]
    rcases hsingle with h | h
    · rw [h, hkept]
    · rw [h]
      rfl

/-! ### What a redirect keeps -/

/-- A text holds a tab or a line break. -/
def HasBreak (t : Text) : Prop :=
  '\t' ∈ t ∨ '\n' ∈ t ∨ '\r' ∈ t

instance (t : Text) : Decidable (HasBreak t) :=
  inferInstanceAs (Decidable (_ ∨ _ ∨ _))

/-- Dropping line breaks changes the texts that have one. -/
theorem dropBreaks_eq_self_iff {t : Text} : dropBreaks t = t ↔ ¬ HasBreak t := by
  rw [dropBreaks, List.filter_eq_self]
  constructor
  · rintro hall (h | h | h)
    · exact absurd (hall _ h) (by decide)
    · exact absurd (hall _ h) (by decide)
    · exact absurd (hall _ h) (by decide)
  · intro hnone c hc
    rw [Bool.and_eq_true, Bool.and_eq_true, decide_eq_true_eq, decide_eq_true_eq,
      decide_eq_true_eq]
    refine ⟨⟨?_, ?_⟩, ?_⟩
    · rintro rfl
      exact hnone (.inl hc)
    · rintro rfl
      exact hnone (.inr (.inl hc))
    · rintro rfl
      exact hnone (.inr (.inr hc))

/-- **The paths that are asked for again after a redirect**: they hold no tab, no line break and no
escape. -/
theorem decode_dropBreaks_eq_self_iff {path : Text} :
    Text.Percent.decode (dropBreaks path) = path ↔
      ¬ HasBreak path ∧ ¬ Text.Percent.HasEscape path := by
  constructor
  · intro h
    -- neither step makes a text longer, so neither can make it shorter here
    have hdecode := Text.Percent.length_decode_le (dropBreaks path)
    have hsub : (dropBreaks path).Sublist path := List.filter_sublist
    have hkept : dropBreaks path = path := by
      refine hsub.eq_of_length_le ?_
      rwa [h] at hdecode
    rw [hkept] at h
    exact ⟨dropBreaks_eq_self_iff.1 hkept, Text.Percent.decode_eq_self_iff.1 h⟩
  · rintro ⟨hbreak, hescape⟩
    rw [dropBreaks_eq_self_iff.2 hbreak, Text.Percent.decode_eq_self_iff.2 hescape]

/-- A query loses nothing but its fragment. -/
theorem encode_cut_eq_iff {query : Text} :
    Text.Percent.encode isKept (Text.cut '#' query).1 = Text.Percent.encode isKept query ↔
      '#' ∉ query := by
  rw [← Text.cut_fst_eq_self_iff]
  constructor
  · exact Text.Percent.eq_of_encode_eq (List.takeWhile_sublist _)
  · intro h
    rw [h]

/-- Before a slash is added, a query loses its tabs and line breaks, too. -/
theorem encode_cut_dropBreaks_eq_iff {query : Text} :
    Text.Percent.encode isKept (Text.cut '#' (dropBreaks query)).1 =
        Text.Percent.encode isKept query ↔ '#' ∉ query ∧ ¬ HasBreak query := by
  have hcut : (Text.cut '#' (dropBreaks query)).1.Sublist (dropBreaks query) :=
    List.takeWhile_sublist _
  have hdrop : (dropBreaks query).Sublist query := List.filter_sublist
  constructor
  · intro h
    have heq := Text.Percent.eq_of_encode_eq (hcut.trans hdrop) h
    have hkept : dropBreaks query = query := by
      refine hdrop.eq_of_length_le ?_
      have hle := hcut.length_le
      rwa [heq] at hle
    rw [hkept] at heq
    exact ⟨Text.cut_fst_eq_self_iff.1 heq, dropBreaks_eq_self_iff.1 hkept⟩
  · rintro ⟨hhash, hbreak⟩
    rw [dropBreaks_eq_self_iff.2 hbreak, Text.cut_fst_eq_self_iff.2 hhash]

/-! ### The request that follows a redirect -/

/-- A marked part is cut off again at its mark. -/
theorem cut_marked {mark : Char} {t before : Text} (hbefore : mark ∉ before) :
    Text.cut mark (before ++ marked mark t) = (before, if t.isEmpty then none else some t) := by
  rw [marked]
  split
  · rw [List.append_nil, Text.cut_of_not_mem hbefore]
  · exact Text.cut_append hbefore

theorem mem_of_mem_marked {mark c : Char} {t : Text} (hc : c ≠ mark) (h : c ∈ marked mark t) :
    c ∈ t := by
  rw [marked] at h
  split at h
  · exact absurd h List.not_mem_nil
  · exact (List.mem_cons.1 h).resolve_left hc

/-- An escaped path starts with a slash as before. -/
theorem head?_escapePath {path : Text} (h : path.head? = some '/') :
    (escapePath path).head? = some '/' := by
  obtain ⟨rest, rfl⟩ := List.head?_eq_some_iff.1 h
  rfl

end Location

namespace Request

open Location

/-- The request with the target that is asked for at an address. -/
def sentTo (r : Request) (address : Text) : Request :=
  { r with target := Location.target address }

variable {r : Request}

/-- The path and the query of a target that has been encoded for an address. -/
theorem path_query_of_target {before rest query : Text} (hbefore : '?' ∉ before)
    (hrest : rest = [] ∧ query = [] ∨ rest = '?' :: query)
    (htarget : r.target = Text.Percent.encode isKept (before ++ rest)) :
    r.path = Text.Percent.decode before ∧ r.query = Text.Percent.encode isKept query := by
  rw [path, Request.query, htarget, Text.Percent.cut_encode (by decide) (by decide) (by decide)]
  have hpath := isEscaping_isKept.decode_flatMap before
  rcases hrest with ⟨rfl, rfl⟩ | rfl
  · rw [List.append_nil, Text.cut_of_not_mem hbefore]
    exact ⟨hpath, rfl⟩
  · rw [Text.cut_append hbefore]
    exact ⟨hpath, rfl⟩

/-- **What is asked for after a redirect to the path with a slash.** -/
theorem path_query_withSlash (hpath : r.path.head? = some '/') :
    (r.sentTo (withSlash r)).path = Text.Percent.decode (dropBreaks r.path) ++ ['/'] ∧
      (r.sentTo (withSlash r)).query =
        Text.Percent.encode isKept (Text.cut '#' (dropBreaks r.query)).1 := by
  rcases hcut : Text.cut '#' (dropBreaks r.query) with ⟨query, fragment⟩
  have haddress : withSlash r = print (host r)
      ((Location.path r ++ '/' :: marked '?' query) ++ marked '#' (fragment.getD [])) := by
    rw [withSlash, queryAndFragment, hcut, List.append_assoc, List.cons_append]
  have hslash : (Location.path r ++ '/' :: marked '?' query).head? = some '/' := by
    rw [List.head?_append, path_eq, head?_escapePath]
    · rfl
    · obtain ⟨rest, hrest⟩ := List.head?_eq_some_iff.1 hpath
      rw [hrest]
      rfl
  -- nothing before the fragment is a hash, so that the target ends where the fragment begins
  have hhash : '#' ∉ Location.path r ++ '/' :: marked '?' query := by
    have hquery : '#' ∉ query := by
      have hbefore : query = (Text.cut '#' (dropBreaks r.query)).1 := by rw [hcut]
      rw [hbefore]
      exact Text.not_mem_cut '#' _
    rw [List.mem_append, List.mem_cons, path_eq]
    rintro (h | h | h)
    · exact not_mem_escapePath (.inr rfl) _ h
    · exact absurd h (by decide)
    · exact hquery (mem_of_mem_marked (by decide) h)
  have htarget : (r.sentTo (withSlash r)).target =
      Text.Percent.encode isKept ((Location.path r ++ ['/']) ++ marked '?' query) := by
    rw [sentTo, haddress, target_print r (by rw [List.head?_append, hslash]; rfl), cut_marked hhash,
      List.append_assoc]
    rfl
  have hquestion : '?' ∉ Location.path r ++ ['/'] := by
    rw [List.mem_append, path_eq]
    rintro (h | h)
    · exact not_mem_escapePath (.inl rfl) _ h
    · exact absurd h (by decide)
  have hmarked : marked '?' query = [] ∧ query = [] ∨ marked '?' query = '?' :: query := by
    rw [marked]
    split
    · next hempty => exact .inl ⟨rfl, List.isEmpty_iff.1 hempty⟩
    · exact .inr rfl
  obtain ⟨hpath', hquery'⟩ := path_query_of_target hquestion hmarked htarget
  refine ⟨?_, hquery'⟩
  rw [hpath', Text.Percent.decode_concat (by decide) (by decide), path_eq, escapePath,
    isEscaping_escapePathChar.decode_flatMap]

/-- **What is asked for after a redirect to another path.** -/
theorem path_query_withPath {path : Text} (hpath : path.head? = some '/') :
    (r.sentTo (withPath r path)).path = Text.Percent.decode path ∧
      (r.sentTo (withPath r path)).query =
        Text.Percent.encode isKept (Text.cut '#' r.query).1 := by
  have hslash : (escapePath path ++ marked '?' r.query).head? = some '/' := by
    rw [List.head?_append, head?_escapePath hpath]
    rfl
  have htarget : (r.sentTo (withPath r path)).target = Text.Percent.encode isKept
      (escapePath path ++ (Text.cut '#' (marked '?' r.query)).1) := by
    rw [sentTo, withPath, target_print r hslash,
      Text.cut_fst_append (not_mem_escapePath (.inr rfl) path)]
  -- the query has not been cut before it was put into the address, so its fragment is lost here
  have hquery : (Text.cut '#' (marked '?' r.query)).1 = [] ∧ (Text.cut '#' r.query).1 = [] ∨
      (Text.cut '#' (marked '?' r.query)).1 = '?' :: (Text.cut '#' r.query).1 := by
    rw [marked]
    split
    · next hempty =>
      rw [List.isEmpty_iff.1 hempty]
      exact .inl ⟨rfl, rfl⟩
    · exact .inr (by rw [Text.cut_cons_of_ne (by decide)])
  obtain ⟨hpath', hquery'⟩ :=
    path_query_of_target (not_mem_escapePath (.inl rfl) path) hquery htarget
  exact ⟨hpath'.trans (isEscaping_escapePathChar.decode_flatMap path), hquery'⟩

end Request

end StaticServer
