import StaticServer.Http.Host
import StaticServer.Http.Message

/-!
# Addresses of redirects

The address of a request is `http://`, its host, its path and its query. In the path the
three characters that would end it or change it are escaped (`escapePath`); line breaks and
tabs do not belong to an address and are dropped where an address is taken apart. An address
that is sent in a header has every other character escaped that an address may not hold.
-/

namespace StaticServer.Location

/-- The host that stands in for a Host header that is missing or names no host. -/
def fallbackHost : Text :=
  "127.0.0.1:7070"

/-- The host of a request's address. -/
def host (r : Request) : Text :=
  match r.header? "host" with
  | some h => if Host.isValid h then h else fallbackHost
  | none => fallbackHost

/-- The characters that an address in a header keeps, existing escapes among them. -/
def isKept (c : Char) : Bool :=
  Text.Percent.isUnreserved c || (":/%#?=@[]!$&\x27()*+,;" : Text).contains c

/-- A character of a path in an address. -/
def escapePathChar (c : Char) : Text :=
  if c = '?' then "%3F" else if c = '#' then "%23" else if c = '\\' then "%5C" else [c]

/-- A path in an address. -/
def escapePath (path : Text) : Text :=
  path.flatMap escapePathChar

/-- An address without tabs and line breaks. -/
def dropBreaks (t : Text) : Text :=
  t.filter fun c ↦ c ≠ '\t' && c ≠ '\n' && c ≠ '\r'

/-- The path of a request's address. -/
def path (r : Request) : Text :=
  dropBreaks (escapePath r.path)

/-- A part of an address behind its mark; nothing when it is empty. -/
def marked (mark : Char) (t : Text) : Text :=
  if t.isEmpty then [] else mark :: t

/-- An address as a header gives it. -/
def print (host rest : Text) : Text :=
  "http://" ++ (host ++ Text.Percent.encode isKept rest)

/-- The query and the fragment of a request's address, each behind its mark. -/
def queryAndFragment (r : Request) : Text :=
  let (query, fragment) := Text.cut '#' (dropBreaks r.query)
  marked '?' query ++ marked '#' (fragment.getD [])

/-- The address of a request with a slash behind its path. -/
def withSlash (r : Request) : Text :=
  print (host r) (path r ++ '/' :: queryAndFragment r)

/-- The address of a request with another path in the place of its own. -/
def withPath (r : Request) (path : Text) : Text :=
  print (host r) (escapePath path ++ marked '?' r.query)

end StaticServer.Location
