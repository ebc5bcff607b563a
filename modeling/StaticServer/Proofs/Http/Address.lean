import StaticServer.Proofs.Http.Location
import StaticServer.Proofs.Text.Graphic

/-!
# Where redirects send to

The path and the query of a request come into the address of a redirect, and so does its Host
header; none of them can make more of it than they should (`Location.IsAddressFor`). Every character
that an address may not hold is escaped, so that what is left is harmless in a header. The host is
the one that was asked, if it is one, and none of its characters could end it. Behind it stands a
slash at once, and no path has anything to say about what stands before that.
-/

namespace StaticServer.Location

/-- Is a character one of an address: a letter, a digit, or one of the marks that stand there? -/
def isAddressChar (c : Char) : Bool :=
  c.isAlphanum || ("_.-~:/%#?=@[]!$&\x27()*+,;" : Text).contains c

/-- The host that a redirect for a request sends to. -/
structure IsHostFor (r : Request) (h : Text) : Prop where
  /-- It is the first one that the request asks, as it is written, if that is a host. -/
  asked : ∀ asked, (r.headers.valuesOf "host").head? = some asked → Host.isValid asked = true →
    h = asked
  /-- If the request asks none, it is that of the server itself. -/
  own : (∀ asked, (r.headers.valuesOf "host").head? = some asked → Host.isValid asked = false) →
    h = "127.0.0.1:7070"
  /-- No character of it ends a host, or what may stand before one. -/
  plain : ∀ c ∈ h, c ∉ ("/?#@\\" : Text)

/-- An address that a redirect for a request may send to. -/
structure IsAddressFor (r : Request) (address : Text) : Prop where
  /-- Behind the host it goes on with a slash. -/
  host : ∃ h rest, IsHostFor r h ∧ address = "http://" ++ (h ++ '/' :: rest)
  /-- It has only characters of addresses. -/
  chars : ∀ c ∈ address, isAddressChar c = true

variable {r : Request} {c : Char}

/-! ### Characters -/

theorem isAddressChar_of_isUnreserved (h : Text.Percent.isUnreserved c = true) :
    isAddressChar c = true := by
  simp only [Text.Percent.isUnreserved, Bool.or_eq_true, decide_eq_true_eq] at h
  rcases h with (((halphanum | rfl) | rfl) | rfl) | rfl
  · rw [isAddressChar, halphanum, Bool.true_or]
  all_goals decide

theorem isAddressChar_of_isNameChar (h : Host.isNameChar c = true) : isAddressChar c = true := by
  have hmarks : ("%!$&\x27()*+,;=" : Text).all isAddressChar = true := by decide
  rw [Host.isNameChar, Bool.or_eq_true, List.contains_iff_mem] at h
  exact h.elim isAddressChar_of_isUnreserved (List.all_eq_true.1 hmarks c)

/-- An address keeps no other characters than its own. -/
theorem isAddressChar_of_isKept (h : isKept c = true) : isAddressChar c = true := by
  have hmarks : (":/%#?=@[]!$&\x27()*+,;" : Text).all isAddressChar = true := by decide
  rw [isKept, Bool.or_eq_true, List.contains_iff_mem] at h
  exact h.elim isAddressChar_of_isUnreserved (List.all_eq_true.1 hmarks c)

/-- Encoding leaves characters of addresses only. -/
theorem isAddressChar_of_mem_encode {t : Text} (h : c ∈ Text.Percent.encode isKept t) :
    isAddressChar c = true := by
  rcases Text.Percent.mem_encode h with ⟨-, hkept⟩ | rfl | hhex
  · exact isAddressChar_of_isKept hkept
  · decide
  · rw [isAddressChar, isAlphanum_of_isSome_hexValue? hhex, Bool.true_or]

theorem IsAddressFor.isGraphic {address : Text} (h : IsAddressFor r address) :
    Text.isGraphic address = true := by
  have hmarks : Text.isGraphic "_.-~:/%#?=@[]!$&\x27()*+,;" = true := by decide
  refine List.all_eq_true.2 fun c hc ↦ ?_
  have hchar := h.chars c hc
  rw [isAddressChar, Bool.or_eq_true, List.contains_iff_mem] at hchar
  exact hchar.elim Text.isGraphicChar_of_isAlphanum (Text.isGraphicChar_of_mem hmarks)

/-! ### Hosts -/

theorem isHostChar_of_mem_host (h : c ∈ host r) : Host.IsHostChar c := by
  have hfallback : fallbackHost.all (fun c ↦ Host.IsHostChar c) = true := by decide
  rw [host] at h
  split at h
  · split at h
    · next hvalid => exact Host.isHostChar_of_isValid hvalid c h
    · exact of_decide_eq_true (List.all_eq_true.1 hfallback c h)
  · exact of_decide_eq_true (List.all_eq_true.1 hfallback c h)

/-- What stands in a host belongs to an address and is no end of a host. -/
theorem isAddressChar_of_isHostChar (h : Host.IsHostChar c) :
    isAddressChar c = true ∧ c ∉ ("/?#@\\" : Text) := by
  have hmarks : [':', '[', ']'].all isAddressChar = true := by decide
  have hends : ("/?#@\\" : Text).all (fun c ↦ ¬ Host.IsHostChar c) = true := by decide
  refine ⟨h.elim isAddressChar_of_isNameChar (List.all_eq_true.1 hmarks c), fun hmem ↦ ?_⟩
  exact of_decide_eq_true (List.all_eq_true.1 hends c hmem) h

/-- **The host of a redirect is the one that was asked**, or that of the server. -/
theorem isHostFor_host (r : Request) : IsHostFor r (host r) := by
  have hheader : r.header? "host" = (r.headers.valuesOf "host").head? := Headers.get?_eq_head? _ _
  refine ⟨fun asked hasked hvalid ↦ ?_, fun hnone ↦ ?_,
    fun c hc ↦ (isAddressChar_of_isHostChar (isHostChar_of_mem_host hc)).2⟩
  · rw [host, hheader, hasked]
    exact if_pos hvalid
  · rcases hasked : (r.headers.valuesOf "host").head? with - | asked
    · rw [host, hheader, hasked]
      rfl
    · rw [host, hheader, hasked]
      exact if_neg (by rw [hnone asked hasked]; exact Bool.false_ne_true)

/-! ### Addresses -/

/-- A printed address is one for the request, if its path starts with a slash. -/
theorem isAddressFor_print {rest : Text} (h : rest.head? = some '/') :
    IsAddressFor r (print (host r) rest) := by
  obtain ⟨after, rfl⟩ := List.head?_eq_some_iff.1 h
  have hencode : Text.Percent.encode isKept ('/' :: after) =
      '/' :: Text.Percent.encode isKept after := by
    have hkept : isKept '/' = true := by decide
    rw [Text.Percent.encode, List.flatMap_cons, Text.Percent.encodeChar, if_pos hkept]
    rfl
  refine ⟨⟨host r, Text.Percent.encode isKept after, isHostFor_host r, ?_⟩, fun c hc ↦ ?_⟩
  · exact congrArg (fun t ↦ "http://" ++ (host r ++ t)) hencode
  have hscheme : ("http://" : Text).all isAddressChar = true := by decide
  rcases List.mem_append.1 hc with hc | hc
  · exact List.all_eq_true.1 hscheme c hc
  rcases List.mem_append.1 hc with hc | hc
  · exact (isAddressChar_of_isHostChar (isHostChar_of_mem_host hc)).1
  · exact isAddressChar_of_mem_encode hc

/-- A redirect to the path with a slash. -/
theorem isAddressFor_withSlash (h : r.path.head? = some '/') : IsAddressFor r (withSlash r) := by
  have hdrop : (dropBreaks r.path).head? = some '/' := by
    obtain ⟨rest, hrest⟩ := List.head?_eq_some_iff.1 h
    rw [hrest]
    rfl
  refine isAddressFor_print ?_
  rw [List.head?_append, path_eq, head?_escapePath hdrop]
  rfl

/-- A redirect to another path. -/
theorem isAddressFor_withPath {path : Text} (h : path.head? = some '/') :
    IsAddressFor r (withPath r path) := by
  refine isAddressFor_print ?_
  rw [List.head?_append, head?_escapePath h]
  rfl

end StaticServer.Location
