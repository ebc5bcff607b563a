import StaticServer.Proofs.FileTree.NormalForm
import StaticServer.Proofs.FileTree.Replacement
import StaticServer.Proofs.Http.FileResponse
import StaticServer.Proofs.Site.Lookup
import StaticServer.Site.Answer

/-!
# What a site chooses

What an answer is made of has been found by a lookup under the root (`exists_find_of_choose`): the
path itself, the index page below it, or the page for missing files. These three are all the lookups
there are; when the path is looked up once more for a listing, the lookup is the same as the first.

The data of a file plays no part in the choice. It is handed on from the lookup to the answer
(`choose_mapFiles`), where it decides between a response and a failure and makes up the response.
-/

namespace StaticServer

namespace Location

/-- The path of an address ends in a slash when the path of the request does. -/
theorem endsInSlash_path {r : Request} (h : Site.endsInSlash r.path = true) :
    Site.endsInSlash (path r) = true := by
  obtain ⟨front, hfront⟩ := List.getLast?_eq_some_iff.1 (of_decide_eq_true h)
  have hlast : path r = dropBreaks (escapePath front) ++ ['/'] := by
    rw [path, hfront, escapePath, List.flatMap_append, dropBreaks, List.filter_append, ← escapePath,
      ← dropBreaks]
    rfl
  rw [hlast, Site.endsInSlash, List.getLast?_concat]
  rfl

end Location

/-! ### A slash behind a path -/

/-- A slash behind a path's text adds an empty part. -/
theorem Path.parts_concat_slash (t : Text) : parts (t ++ ['/']) = parts t ++ [[]] := by
  induction t with
  | nil => rfl
  | cons c t ih =>
    obtain ⟨first, rest, hsplit : parts t = first :: rest⟩ :=
      List.exists_cons_of_ne_nil (List.splitOn_ne_nil '/' t)
    have hcons (u : Text) : parts (c :: u) =
        if (c == '/') = true then [] :: parts u else List.modifyHead (List.cons c) (parts u) :=
      List.splitOn_cons_eq_if_modifyHead c u
    rw [List.cons_append, hcons, hcons, ih, hsplit]
    split <;> rfl

/-- A slash behind a path makes no difference to where it leads. -/
theorem Lookup.relativeParts_concat_slash (path : Text) :
    relativeParts (path ++ ['/']) = relativeParts path := by
  have hstay : Path.Reduces (Path.parts path ++ [[]]) (Path.parts path ++ []) := .stay rfl
  rw [relativeParts, Path.parts_concat_slash, hstay.normalizeRelative_eq, List.append_nil,
    relativeParts]

namespace Site

open Lookup

variable {s : Site} {v : View} {parts : List Text} {r : Request} {c : Choice} {found : Found}

/-- What was found that an answer is made of. -/
def Choice.found? : Choice → Option Found
  | .file place data => some ⟨place, .file data⟩
  | .missingPage place data => some ⟨place, .file data⟩
  | .listing place => some ⟨place, .directory⟩
  | .slash => none

/-! ### One step after another -/

/-- A directory that can be looked at is answered by way of its index page. -/
theorem choose_of_directory {d : Path}
    (hfind : find v s.root (relativeParts r.path) = .ok (some ⟨d, .directory⟩)) :
    s.choose v r = s.index v (relativeParts r.path) r := by
  simp only [choose, hfind]

/-- A directory with an index page is shown by it. -/
theorem index_of_file {q : Path} {data : FileData} (hslash : endsInSlash r.path = true)
    (hfind : find v s.root (parts ++ [indexName]) = .ok (some ⟨q, .file data⟩)) :
    s.index v parts r = .ok (.file q data) := by
  simp only [index, hfind, hslash, if_true]

/-- If the index page cannot be looked up, the request fails. -/
theorem index_of_fault {f : Fault}
    (hfind : find v s.root (parts ++ [indexName]) = .error f) :
    s.index v parts r = .error .failed := by
  simp only [index, hfind]

/-- Without an index page the page for missing files is looked up next, before it is known that
anything is missing. -/
theorem index_of_findsNoFile (hindex : FindsNoFile v s.root (parts ++ [indexName])) :
    s.index v parts r = s.orMissingPage v parts r := by
  obtain ⟨o, hfind, ho⟩ := hindex
  rw [index, hfind]
  rcases o with - | ⟨place, e⟩
  · rfl
  · cases e with
    | file data => exact absurd rfl (ho place data)
    | directory => rfl
    | link target => rfl

/-- If there is one, it is the answer. -/
theorem orMissingPage_of_file {q : Path} {data : FileData}
    (hfind : find v s.root [missingName] = .ok (some ⟨q, .file data⟩)) :
    s.orMissingPage v parts r = .ok (.missingPage q data) := by
  simp only [orMissingPage, hfind]

/-- If it cannot be looked up, the request fails. -/
theorem orMissingPage_of_fault {f : Fault}
    (hfind : find v s.root [missingName] = .error f) :
    s.orMissingPage v parts r = .error .failed := by
  simp only [orMissingPage, hfind]

/-- Otherwise the path is looked up again. -/
theorem orMissingPage_of_findsNoFile (hpage : FindsNoFile v s.root [missingName]) :
    s.orMissingPage v parts r = s.orListing v parts r := by
  obtain ⟨o, hfind, ho⟩ := hpage
  rw [orMissingPage, hfind]
  rcases o with - | ⟨place, e⟩
  · rfl
  · cases e with
    | file data => exact absurd rfl (ho place data)
    | directory => rfl
    | link target => rfl

/-- A directory that is found again is listed, if the path ends in a slash. -/
theorem orListing_of_directory {d : Path} (hslash : endsInSlash r.path = true)
    (hfind : find v s.root parts = .ok (some ⟨d, .directory⟩)) :
    s.orListing v parts r = .ok (.listing d) := by
  simp only [orListing, hfind, Location.endsInSlash_path hslash, if_true]

/-- What is neither a directory nor a file is not found. -/
theorem orListing_of_absent {o : Option Found} (hfind : find v s.root parts = .ok o)
    (ho : ∀ found ∈ o, ∃ target, found.entry = .link target) :
    s.orListing v parts r = .error .notFound := by
  rw [orListing, hfind]
  rcases o with - | ⟨place, e⟩
  · rfl
  · obtain ⟨target, rfl⟩ : ∃ target, e = .link target := ho ⟨place, e⟩ rfl
    rfl

/-- A path without a directory or a file goes on to the page for missing files. -/
theorem choose_of_absent {o : Option Found}
    (hfind : find v s.root (relativeParts r.path) = .ok o)
    (ho : ∀ found ∈ o, ∃ target, found.entry = .link target) :
    s.choose v r = s.orMissingPage v (relativeParts r.path) r := by
  simp only [choose, hfind]
  rcases o with - | ⟨place, e⟩
  · rfl
  · obtain ⟨target, rfl⟩ : ∃ target, e = .link target := ho ⟨place, e⟩ rfl
    rfl

/-- A path that cannot be looked up fails. -/
theorem choose_of_fault {f : Fault}
    (hfind : find v s.root (relativeParts r.path) = .error f) (hf : f ≠ .denied) :
    s.choose v r = .error .failed := by
  simp only [choose, hfind]
  cases f with
  | denied => exact absurd rfl hf
  | nameTooLong => simp only [orListing, hfind]
  | nulCharacter => simp only [orListing, hfind]
  | missing => rfl
  | notDirectory => rfl
  | tooManyLinks => rfl

/-! ### The redirect to the path with a slash -/

/-- A redirect stands for a directory whose path lacks the slash. -/
theorem orListing_eq_slash (h : s.orListing v parts r = .ok .slash) :
    endsInSlash r.path = false ∧ ∃ d, find v s.root parts = .ok (some ⟨d, .directory⟩) := by
  rw [orListing] at h
  split at h
  · cases h
  · next d heq =>
    split_ifs at h with hslash
    · cases h
    · -- the path of the address would end in a slash if that of the request did
      have hpath := fun hpath ↦ hslash (Location.endsInSlash_path hpath)
      exact ⟨Bool.eq_false_iff.2 hpath, d, heq⟩
  · cases h

theorem orMissingPage_eq_slash (h : s.orMissingPage v parts r = .ok .slash) :
    FindsNoFile v s.root [missingName] ∧ s.orListing v parts r = .ok .slash := by
  rcases findsNoFile_cases v s.root [missingName] with ⟨f, hf⟩ | ⟨place, data, hfile⟩ | hnone
  · rw [orMissingPage_of_fault hf] at h
    cases h
  · rw [orMissingPage_of_file hfile] at h
    cases h
  · rw [orMissingPage_of_findsNoFile hnone] at h
    exact ⟨hnone, h⟩

theorem index_eq_slash (h : s.index v parts r = .ok .slash) : endsInSlash r.path = false ∧
    ((∃ place data, find v s.root (parts ++ [indexName]) = .ok (some ⟨place, .file data⟩)) ∨
      FindsNoFile v s.root (parts ++ [indexName]) ∧ FindsNoFile v s.root [missingName]) := by
  rcases findsNoFile_cases v s.root (parts ++ [indexName]) with
    ⟨f, hf⟩ | ⟨place, data, hfile⟩ | hnone
  · rw [index_of_fault hf] at h
    cases h
  · rcases hslash : endsInSlash r.path with - | -
    · exact ⟨rfl, .inl ⟨place, data, hfile⟩⟩
    · rw [index_of_file hslash hfile] at h
      cases h
  · rw [index_of_findsNoFile hnone] at h
    obtain ⟨hmissing, hlisting⟩ := orMissingPage_eq_slash h
    exact ⟨(orListing_eq_slash hlisting).1, .inr ⟨hnone, hmissing⟩⟩

/-- **A path is sent on to the one with a slash only when it has none and a directory has been found
by it**, and the index page of that, or neither that nor a page for missing files. -/
theorem choose_eq_slash (h : s.choose v r = .ok .slash) : endsInSlash r.path = false ∧
    ∃ d, find v s.root (relativeParts r.path) = .ok (some ⟨d, .directory⟩) ∧
      ((∃ place data, find v s.root (relativeParts r.path ++ [indexName]) =
          .ok (some ⟨place, .file data⟩)) ∨
        FindsNoFile v s.root (relativeParts r.path ++ [indexName]) ∧
          FindsNoFile v s.root [missingName]) := by
  have hnone {o : Option Found} (hfind : find v s.root (relativeParts r.path) = .ok o)
      (ho : ∀ found ∈ o, ∃ target, found.entry = .link target) : False := by
    rw [choose_of_absent hfind ho] at h
    have hlisting := (orMissingPage_eq_slash h).2
    rw [orListing_of_absent hfind ho] at hlisting
    cases hlisting
  rcases hfind : find v s.root (relativeParts r.path) with f | - | ⟨place, e⟩
  · by_cases hf : f = .denied
    · subst hf
      simp only [choose, hfind] at h
      cases h
    · rw [choose_of_fault hfind hf] at h
      cases h
  · exact (hnone hfind (by simp)).elim
  · cases e with
    | file data =>
      simp only [choose, hfind] at h
      cases h
    | directory =>
      rw [choose_of_directory hfind] at h
      obtain ⟨hslash, hindex⟩ := index_eq_slash h
      exact ⟨hslash, place, rfl, hindex⟩
    | link target => exact (hnone hfind (by simp)).elim

/-! ### What is chosen was found -/

/-- What is shown has been looked up by the path, -/
theorem find_of_orListing (h : s.orListing v parts r = .ok c) (hfound : c.found? = some found) :
    find v s.root parts = .ok (some found) := by
  rw [orListing] at h
  split at h
  · cases h
  · next place heq =>
    split_ifs at h
    · cases h
      cases hfound
      exact heq
    · cases h
      cases hfound
  · cases h

/-- or is the page for missing files, -/
theorem find_of_orMissingPage (h : s.orMissingPage v parts r = .ok c)
    (hfound : c.found? = some found) :
    find v s.root parts = .ok (some found) ∨ find v s.root [missingName] = .ok (some found) := by
  rw [orMissingPage] at h
  split at h
  · cases h
  · next place data heq =>
    cases h
    cases hfound
    exact .inr heq
  · exact .inl (find_of_orListing h hfound)

/-- or is the index page. -/
theorem find_of_index (h : s.index v parts r = .ok c) (hfound : c.found? = some found) :
    find v s.root parts = .ok (some found) ∨ find v s.root [missingName] = .ok (some found) ∨
      find v s.root (parts ++ [indexName]) = .ok (some found) := by
  rw [index] at h
  split at h
  · cases h
  · next place data heq =>
    split_ifs at h
    · cases h
      cases hfound
      exact .inr (.inr heq)
    · cases h
      cases hfound
  · rcases find_of_orMissingPage h hfound with heq | heq
    · exact .inl heq
    · exact .inr (.inl heq)

/-- The lookups whose outcome an answer can be made of. -/
theorem find_of_choose (h : s.choose v r = .ok c) (hfound : c.found? = some found) :
    find v s.root (relativeParts r.path) = .ok (some found) ∨
      find v s.root [missingName] = .ok (some found) ∨
      find v s.root (relativeParts r.path ++ [indexName]) = .ok (some found) := by
  -- one case for each outcome of the first lookup, in the order of the definition
  simp only [choose] at h
  split at h
  · cases h
  · exact .inl (find_of_orListing h hfound)
  · exact .inl (find_of_orListing h hfound)
  · cases h
  · next place data heq =>
    cases h
    cases hfound
    exact .inl heq
  · exact find_of_index h hfound
  · rcases find_of_orMissingPage h hfound with heq | heq
    · exact .inl heq
    · exact .inr (.inl heq)

theorem slash_not_mem_of_mem_relativeParts {path part : Text} (h : part ∈ relativeParts path) :
    '/' ∉ part :=
  Path.slash_not_mem_of_mem_parts (Path.normalizeRelative_subset _ h)

/-- **What an answer is made of was found under the root** by a path of parts. -/
theorem exists_find_of_choose (h : s.choose v r = .ok c) (hfound : c.found? = some found) :
    ∃ parts, (∀ part ∈ parts, '/' ∉ part) ∧ find v s.root parts = .ok (some found) := by
  have hpath : ∀ part ∈ relativeParts r.path, '/' ∉ part :=
    fun _ hpart ↦ slash_not_mem_of_mem_relativeParts hpart
  rcases find_of_choose h hfound with heq | heq | heq
  · exact ⟨_, hpath, heq⟩
  · exact ⟨_, by decide, heq⟩
  · refine ⟨_, fun part hpart ↦ ?_, heq⟩
    rcases List.mem_append.1 hpart with hpart | hpart
    · exact hpath part hpart
    · rw [List.mem_singleton.1 hpart]
      decide

/-! ### Replacing the data of files -/

/-- A choice with the data of its file put through a function of the place where it stands. -/
def Choice.mapFiles (t : FileTree) (g : Path → FileData → FileData) : Choice → Choice
  | .file place data => .file place (g (seat t place) data)
  | .missingPage place data => .missingPage place (g (seat t place) data)
  | .listing place => .listing place
  | .slash => .slash

variable (s v parts r) (g : Path → FileData → FileData)

/-- Other bytes in the files change nothing but the bytes of a file that is chosen: at the last
lookup, -/
theorem orListing_mapFiles : s.orListing (v.mapFiles g) parts r =
    (s.orListing v parts r).map (·.mapFiles v.tree g) := by
  rw [orListing, orListing, find_mapFiles]
  rcases find v s.root parts with f | - | ⟨place, e⟩
  · rfl
  · rfl
  · cases e with
    | file data => rfl
    | directory =>
      show (if _ then _ else _) = Except.map _ (if _ then _ else _)
      split <;> rfl
    | link target => rfl

/-- at the one before it, -/
theorem orMissingPage_mapFiles : s.orMissingPage (v.mapFiles g) parts r =
    (s.orMissingPage v parts r).map (·.mapFiles v.tree g) := by
  rw [orMissingPage, orMissingPage, find_mapFiles, orListing_mapFiles]
  rcases find v s.root [missingName] with f | - | ⟨place, e⟩
  · rfl
  · rfl
  · cases e <;> rfl

/-- and at that of the index page. -/
theorem index_mapFiles : s.index (v.mapFiles g) parts r =
    (s.index v parts r).map (·.mapFiles v.tree g) := by
  rw [index, index, find_mapFiles, orMissingPage_mapFiles]
  rcases find v s.root (parts ++ [indexName]) with f | - | ⟨place, e⟩
  · rfl
  · rfl
  · cases e with
    | file data =>
      show (if _ then _ else _) = Except.map _ (if _ then _ else _)
      split <;> rfl
    | directory => rfl
    | link target => rfl

/-- **The data of files plays no part in the choice.** -/
theorem choose_mapFiles : s.choose (v.mapFiles g) r =
    (s.choose v r).map (·.mapFiles v.tree g) := by
  simp only [choose, find_mapFiles, orListing_mapFiles, index_mapFiles, orMissingPage_mapFiles]
  rcases find v s.root (relativeParts r.path) with f | - | ⟨place, e⟩
  · cases f <;> rfl
  · rfl
  · cases e <;> rfl

/-! ### Presenting a choice -/

variable {s v parts r}

/-- A refusal is the answer, -/
theorem answer_of_choose_error {t : FileTree} {refusal : Refusal}
    (h : s.choose ⟨t, r.denied⟩ r = .error refusal) : s.answer t r = .error refusal := by
  rw [answer, h]

/-- and a choice is presented. -/
theorem answer_of_choose {t : FileTree} (h : s.choose ⟨t, r.denied⟩ r = .ok c) :
    s.answer t r = s.present t r c := by
  rw [answer, h]

theorem sendFile_of_eq_some {place : Path} {data : FileData} {f : ServedFile}
    (h : ServedFile.of? (place.getLast?.getD []) data = some f) (make : ServedFile → Response) :
    sendFile place data make = .ok (make f) := by
  unfold sendFile
  rw [h]

/-- A file whose modification time a date can show is sent, -/
theorem sendFile_of_isSome (place : Path) {data : FileData}
    (h : (Validator.ofFile? data).isSome = true) :
    ∃ f : ServedFile, f.content = data.content ∧
      ∀ make, sendFile place data make = .ok (make f) := by
  obtain ⟨f, hf, hcontent⟩ := ServedFile.exists_of? (place.getLast?.getD []) h
  exact ⟨f, hcontent, sendFile_of_eq_some hf⟩

/-- and any other one fails. -/
theorem sendFile_of_isNone {place : Path} {data : FileData} {make : ServedFile → Response}
    (h : (Validator.ofFile? data).isSome = false) :
    sendFile place data make = .error .failed := by
  unfold sendFile
  rw [ServedFile.of?_eq_none _ h]

theorem exists_of_sendFile {place : Path} {data : FileData} {make : ServedFile → Response}
    {a : Response} (h : sendFile place data make = .ok a) :
    ∃ f, ServedFile.of? (place.getLast?.getD []) data = some f ∧ a = make f := by
  unfold sendFile at h
  split at h
  · next f hfile => exact ⟨f, hfile, (Except.ok.inj h).symm⟩
  · cases h

/-- **The responses that a site makes**: a file as far as the request asks for it, the page for
missing files, a listing, or a redirect to the path with a slash. -/
theorem answer_cases {t : FileTree} {a : Response} (h : s.answer t r = .ok a) :
    (∃ f : ServedFile, a = f.respond s.boundary r) ∨ (∃ f : ServedFile, a = f.whole 404 r) ∨
      (∃ page, a = Response.html page) ∨
      s.choose ⟨t, r.denied⟩ r = .ok .slash ∧ a = Response.redirect (Location.withSlash r) := by
  rcases hchoose : s.choose ⟨t, r.denied⟩ r with refusal | c
  · rw [answer_of_choose_error hchoose] at h
    cases h
  rw [answer_of_choose hchoose] at h
  cases c with
  | file place data =>
    obtain ⟨f, -, rfl⟩ := exists_of_sendFile h
    exact .inl ⟨f, rfl⟩
  | missingPage place data =>
    obtain ⟨f, -, rfl⟩ := exists_of_sendFile h
    exact .inr (.inl ⟨f, rfl⟩)
  | listing place =>
    rw [present, list] at h
    split at h
    · next page _ => exact .inr (.inr (.inl ⟨page, (Except.ok.inj h).symm⟩))
    · cases h
  | slash => exact .inr (.inr (.inr ⟨rfl, (Except.ok.inj h).symm⟩))

end Site

end StaticServer
