import StaticServer.Proofs.Http.Address
import StaticServer.Proofs.Http.HeaderText
import StaticServer.Proofs.Site.Inner

/-!
# What can come into the headers of a response

Whoever asks chooses the path, the query and all headers of a request, and a file tree holds names
and bytes of any kind. Nothing of that can break out of the headers of a response
(`App.safe_of_mem_headers`): no value holds a line break, so that none can start a header or a body
of its own, and a redirect goes nowhere else than to the host that was asked
(`Location.IsAddressFor`).

Every kind of response sets its headers to values of a few kinds, all of them graphic texts, and of
the redirects alone there is one that gives an address. The headers for development add constant
values.
-/

namespace StaticServer

open Text (isGraphic)

/-- Headers that may be sent in response to a request: their values are graphic texts, and an
address among them is one that a redirect may send to. -/
def Headers.AreSafeFor (r : Request) (h : Headers) : Prop :=
  ∀ e ∈ h, isGraphic e.2 = true ∧ (e.1 = "location" → Location.IsAddressFor r e.2)

namespace Headers

variable {r : Request} {h : Headers} {name value : Text}

/-- Setting a header adds that one at most. -/
theorem mem_of_mem_set {e : Text × Text} (he : e ∈ h.set name value) :
    e = (name, value) ∨ e ∈ h := by
  induction h with
  | nil => exact .inl (List.mem_singleton.1 he)
  | cons first rest ih =>
    rw [set] at he
    split at he
    · rcases List.mem_cons.1 he with rfl | he
      · exact .inl rfl
      · exact .inr (List.mem_cons_of_mem _ (List.mem_of_mem_filter he))
    · rcases List.mem_cons.1 he with rfl | he
      · exact .inr List.mem_cons_self
      · exact (ih he).imp_right (List.mem_cons_of_mem _)

theorem areSafeFor_nil : AreSafeFor r [] :=
  fun _ he ↦ absurd he List.not_mem_nil

/-- A graphic value keeps headers safe, unless it is a location, -/
theorem AreSafeFor.cons (hname : name ≠ "location") (hvalue : isGraphic value = true)
    (hsafe : h.AreSafeFor r) : AreSafeFor r ((name, value) :: h) :=
  List.forall_mem_cons.2 ⟨⟨hvalue, fun heq ↦ absurd heq hname⟩, hsafe⟩

/-- also where it takes the place of another one. -/
theorem AreSafeFor.set (hname : name ≠ "location") (hvalue : isGraphic value = true)
    (hsafe : h.AreSafeFor r) : AreSafeFor r (h.set name value) := by
  intro e he
  rcases mem_of_mem_set he with rfl | he
  · exact ⟨hvalue, fun heq ↦ absurd heq hname⟩
  · exact hsafe e he

end Headers

open Headers (AreSafeFor areSafeFor_nil)

variable {r : Request}

/-! ### Responses without a file -/

namespace Response

/-- The headers about a body are safe if its media type is graphic. -/
theorem areSafeFor_withBody {further : Headers} {mediaType : Text} (hfurther : further.AreSafeFor r)
    (htype : isGraphic mediaType = true) (status : Nat) (body : Bytes) :
    AreSafeFor r (withBody status further mediaType body).headers := by
  have hlength : isGraphic (Text.ofNat body.length) = true := Text.isGraphic_ofNat _
  refine List.forall_mem_append.2 ⟨hfurther, ?_⟩
  exact (areSafeFor_nil.cons (by decide) htype).cons (by decide) hlength

theorem areSafeFor_plain {further : Headers} (hfurther : further.AreSafeFor r) (status : Nat)
    (t : Text) : AreSafeFor r (plain status further t).headers :=
  areSafeFor_withBody hfurther (by decide) _ _

theorem areSafeFor_html (page : Text) : AreSafeFor r (html page).headers :=
  areSafeFor_withBody areSafeFor_nil (by decide) _ _

theorem areSafeFor_detail (status : Nat) (reason : Text) :
    AreSafeFor r (detail status reason).headers :=
  areSafeFor_withBody areSafeFor_nil (by decide) _ _

/-- A redirect is safe if it leads to an address for the request. -/
theorem areSafeFor_redirect {address : Text} (h : Location.IsAddressFor r address) :
    AreSafeFor r (redirect address).headers := by
  refine AreSafeFor.cons (by decide) (Text.isGraphic_ofNat 0) ?_
  exact List.forall_mem_singleton.2 ⟨h.isGraphic, fun _ ↦ h⟩

end Response

/-! ### Responses with a file -/

namespace ServedFile

variable {name : Text} {data : FileData} {f : ServedFile} {boundary : Text}

/-- The headers of a file are safe, whatever its name and its content. -/
theorem areSafeFor_headers (h : of? name data = some f) : AreSafeFor r f.headers := by
  obtain ⟨htag, hdate⟩ := isGraphic_of_of? h
  have hvalidator : AreSafeFor r f.validator.headers :=
    (areSafeFor_nil.cons (by decide) htag).cons (by decide) hdate
  have hlength : AreSafeFor r (Response.lengthHeader f.content.length :: f.validator.headers) :=
    hvalidator.cons (by decide) (Text.isGraphic_ofNat _)
  exact (hlength.cons (by decide) (by decide)).cons (by decide) f.isGraphic_contentType

/-- So are those of its ranges, for every boundary. -/
theorem areSafeFor_ranged (h : of? name data = some f) (hboundary : Multipart.IsBoundary boundary)
    (header : Text) : AreSafeFor r (f.ranged boundary r header).headers := by
  have hheaders : AreSafeFor r f.headers := areSafeFor_headers h
  rw [ranged]
  split
  · exact hheaders
  · exact Response.areSafeFor_plain areSafeFor_nil _ _
  · have hrange := ByteRange.isGraphic_noContentRange f.content.length
    exact Response.areSafeFor_plain (areSafeFor_nil.cons (by decide) hrange) _ _
  · next range _ =>
    have hrange := Multipart.isGraphic_contentRange f.content.length range
    exact (hheaders.set (by decide) hrange).set (by decide) (Text.isGraphic_ofNat _)
  · have htype := Multipart.isGraphic_mediaType hboundary
    exact (hheaders.set (by decide) htype).set (by decide) (Text.isGraphic_ofNat _)

/-- However a file is sent, nothing of it comes into the headers that does not belong there. -/
theorem areSafeFor_respond (h : of? name data = some f)
    (hboundary : Multipart.IsBoundary boundary) :
    AreSafeFor r (f.respond boundary r).headers := by
  have hheaders : AreSafeFor r f.headers := areSafeFor_headers h
  rw [respond]
  split_ifs
  · exact areSafeFor_nil.cons (by decide) (isGraphic_of_of? h).1
  · split
    · exact areSafeFor_ranged h hboundary _
    · exact hheaders
  · exact hheaders

end ServedFile

/-! ### Every response -/

/-- The headers for development are safe. -/
theorem DevHeaders.areSafeFor_put {a : Response} (h : a.headers.AreSafeFor r) :
    AreSafeFor r (put r a).headers := by
  have halways : AreSafeFor r (withAlways a.headers) :=
    (h.set (by decide) (by decide)).set (by decide) (by decide)
  rw [put]
  split
  · exact halways.set (by decide) (by decide)
  · exact halways

namespace App

variable {app : App} {t : FileTree} {a : Response}

/-- **Every response that is made has safe headers.** -/
theorem Makes.areSafeFor (h : app.Makes t r a)
    (hboundary : Multipart.IsBoundary app.site.boundary) : a.headers.AreSafeFor r := by
  cases h with
  | file _ _ hfile => exact ServedFile.areSafeFor_respond hfile hboundary
  | missingPage _ _ hfile => exact ServedFile.areSafeFor_headers hfile
  | listing => exact Response.areSafeFor_html _
  | slash hpath =>
    exact Response.areSafeFor_redirect (Location.isAddressFor_withSlash (head?_of_isRoutable hpath))
  | otherPath _ hother =>
    exact Response.areSafeFor_redirect (Location.isAddressFor_withPath (head?_of_isRoutable hother))
  | notFound => exact Response.areSafeFor_detail _ _
  | unauthorized => exact Response.areSafeFor_detail _ _

/-- **No request gets anything into the headers of its response**: no value holds a line break, and
a redirect sends to the host that was asked, or to the server itself. -/
theorem safe_of_mem_headers (app : App) (t : FileTree) (r : Request)
    (hboundary : Multipart.IsBoundary app.site.boundary) :
    ∀ name value, (name, value) ∈ (app.handle t r).1.headers →
      '\r' ∉ value ∧ '\n' ∉ value ∧ (name = "location" → Location.IsAddressFor r value) := by
  have hfailure : failure.headers.AreSafeFor r := Response.areSafeFor_plain areSafeFor_nil _ _
  obtain ⟨b, hb, hresponse⟩ := handle_cases (P := fun b ↦ b.headers.AreSafeFor r) hfailure
    fun a (ha : app.Makes t r a) ↦ DevHeaders.areSafeFor_put (ha.areSafeFor hboundary)
  intro name value hmem
  rw [hresponse, headers_deliver] at hmem
  obtain ⟨hgraphic, haddress⟩ := hb _ hmem
  obtain ⟨hreturn, hfeed⟩ := Text.not_mem_of_isGraphic hgraphic
  exact ⟨hreturn, hfeed, haddress⟩

/-- A path that starts like a host and a Host header that names none: the redirect goes to the
server itself. -/
theorem safe_of_mem_headers_moduleTree :
    Multipart.IsBoundary boundaryApp.site.boundary ∧
    (("location", "http://127.0.0.1:7070//d.wasm/") : Text × Text) ∈
      (boundaryApp.handle moduleTree ⟨"GET", "//d.wasm", [("host", "a@b/c")], []⟩).1.headers ∧
    Location.IsAddressFor ⟨"GET", "//d.wasm", [("host", "a@b/c")], []⟩
      "http://127.0.0.1:7070//d.wasm/" := by
  have hboundary : Multipart.IsBoundary boundaryApp.site.boundary := Multipart.isBoundary_replicate
  have hmem : (("location", "http://127.0.0.1:7070//d.wasm/") : Text × Text) ∈
      (boundaryApp.handle moduleTree
        ⟨"GET", "//d.wasm", [("host", "a@b/c")], []⟩).1.headers := by decide +kernel
  obtain ⟨-, -, haddress⟩ := safe_of_mem_headers boundaryApp moduleTree _ hboundary _ _ hmem
  exact ⟨hboundary, hmem, haddress rfl⟩

end App

end StaticServer
