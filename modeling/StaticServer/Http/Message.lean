import StaticServer.Text.Integer
import StaticServer.Text.LetterCase
import StaticServer.Text.Percent

/-!
# Requests and responses

A request has a method, a target as it was sent, and headers; its path is the part of the
target before the first question mark, percent-decoded. A response has a status, headers and
a body.

Headers are a list of names and values. A name may stand there several times: `Headers.get?`
reads the first, and `Headers.set` leaves exactly one.
-/

namespace StaticServer

/-- Header names in lower case with their values, in order. -/
abbrev Headers := List (Text × Text)

namespace Headers

/-- The value of the first header with a name. -/
def get? (h : Headers) (name : Text) : Option Text :=
  h.lookup name

/-- The headers with one value for a name: the first header with it takes the value and the
others go; without any, one is added at the end. -/
def set (name value : Text) : Headers → Headers
  | [] => [(name, value)]
  | (n, v) :: rest =>
    if n = name then (name, value) :: rest.filter (·.1 ≠ name) else (n, v) :: set name value rest

/-- How many headers have a name. -/
def count (h : Headers) (name : Text) : Nat :=
  h.countP (·.1 = name)

/-- The values of the headers with a name, in order. -/
def valuesOf (h : Headers) (name : Text) : List Text :=
  (h.filter (·.1 = name)).map Prod.snd

/-- The first value of a name is the one that is read. -/
theorem get?_eq_head? (h : Headers) (name : Text) : h.get? name = (h.valuesOf name).head? := by
  induction h with
  | nil => rfl
  | cons e rest ih =>
    obtain ⟨n, v⟩ := e
    rw [get?, List.lookup_cons, valuesOf, List.filter_cons]
    by_cases hn : n = name
    · simp [hn]
    · have hname : (name == n) = false := beq_eq_false_iff_ne.2 (Ne.symm hn)
      rw [if_neg (by simpa using hn), ← valuesOf, ← ih, get?, hname]

/-! ### Setting a header -/

theorem filter_name_eq_nil (name : Text) (h : Headers) :
    (h.filter (·.1 ≠ name)).filter (·.1 = name) = [] := by
  rw [List.filter_filter, List.filter_eq_nil_iff]
  intro e _
  by_cases he : e.1 = name <;> simp [he]

/-- Setting a header leaves exactly one value for its name. -/
theorem valuesOf_set_self (name value : Text) (h : Headers) :
    (h.set name value).valuesOf name = [value] := by
  induction h with
  | nil => simp [set, valuesOf]
  | cons e rest ih =>
    obtain ⟨n, v⟩ := e
    rw [set]
    split
    · rw [valuesOf, List.filter_cons_of_pos (by simp), filter_name_eq_nil]
      rfl
    · next hn => rwa [valuesOf, List.filter_cons_of_neg (by simpa using hn)]

/-- Setting a header leaves the values of all other names as they are. -/
theorem valuesOf_set_of_ne {name other : Text} (hne : other ≠ name) (value : Text) (h : Headers) :
    (h.set name value).valuesOf other = h.valuesOf other := by
  induction h with
  | nil => simp [set, valuesOf, Ne.symm hne]
  | cons e rest ih =>
    obtain ⟨n, v⟩ := e
    rw [set]
    split
    · next hn =>
      subst hn
      rw [valuesOf, valuesOf, List.filter_cons_of_neg (by simpa using Ne.symm hne),
        List.filter_cons_of_neg (by simpa using Ne.symm hne), List.filter_filter]
      refine congrArg _ (List.filter_congr fun e _ ↦ ?_)
      by_cases he : e.1 = other
      · simp [he, hne]
      · simp [he]
    · rw [valuesOf, List.filter_cons, valuesOf, List.filter_cons]
      split
      · exact congrArg (v :: ·) ih
      · exact ih

end Headers

/-- A request. -/
structure Request where
  /-- The method as it was sent. -/
  method : Text
  /-- The target as it was sent. -/
  target : Text
  /-- The headers, their names in lower case. -/
  headers : Headers
  /-- Directories below which no entry may be looked at while the request is answered. -/
  denied : List Text

namespace Request

/-- A request whose header names are in any case. -/
def ofParts (method target : Text) (headers : List (Text × Text)) (denied : List Text) : Request :=
  ⟨method, target, headers.map fun (n, v) ↦ (Text.asciiLower n, v), denied⟩

/-- The path, percent-decoded. -/
def path (r : Request) : Text :=
  Text.Percent.decode (Text.cut '?' r.target).1

/-- The query as it was sent, empty when there is none. -/
def query (r : Request) : Text :=
  (Text.cut '?' r.target).2.getD []

/-- The value of the first header with a name. -/
def header? (r : Request) (name : Text) : Option Text :=
  r.headers.get? name

/-- The method in upper case. -/
def verb (r : Request) : Text :=
  Text.asciiUpper r.method

end Request

/-- A response. -/
structure Response where
  /-- The status code. -/
  status : Nat
  /-- The headers. -/
  headers : Headers
  /-- The body. -/
  body : Bytes
  deriving DecidableEq

namespace Response

/-- The header that says how many bytes a body has. -/
def lengthHeader (n : Nat) : Text × Text :=
  ("content-length", Text.ofNat n)

/-- A response with a body of some type, and further headers before these two. -/
def withBody (status : Nat) (further : Headers) (mediaType : Text) (body : Bytes) : Response :=
  ⟨status, further ++ [lengthHeader body.length, ("content-type", mediaType)], body⟩

/-- A response with a text. -/
def plain (status : Nat) (further : Headers) (t : Text) : Response :=
  withBody status further "text/plain; charset=utf-8" (Text.Utf8.encode t)

/-- A page. -/
def html (t : Text) : Response :=
  withBody 200 [] "text/html; charset=utf-8" (Text.Utf8.encode t)

/-- An error as a small record with its reason. -/
def detail (status : Nat) (reason : Text) : Response :=
  withBody status [] "application/json"
    (Text.Utf8.encode ("\x7b\"detail\":\"" ++ (reason ++ "\"\x7d")))

/-- Sends the client on to another address, with the same method. -/
def redirect (location : Text) : Response :=
  ⟨307, [lengthHeader 0, ("location", location)], []⟩

end Response

end StaticServer
