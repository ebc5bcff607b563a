import StaticServer.Text.Basic
import StaticServer.Text.Percent
import StaticServer.Text.Integer

/-!
# Hosts

Which values of a Host header name a host: a name made of characters that need no escape, an
IPv6 address in brackets, or an address of a future version in brackets, each with a port
behind a colon or without. Nothing in brackets may be escaped, so an IPv6 address has no zone.
-/

namespace StaticServer.Host

/-- The characters of a host's name. -/
def isNameChar (c : Char) : Bool :=
  Text.Percent.isUnreserved c || ("%!$&\x27()*+,;=" : Text).contains c

/-- A hexadecimal digit. -/
def isHexDigit (c : Char) : Bool :=
  (Text.Percent.hexValue? c).isSome

/-- One of the four numbers of an IPv4 address: up to three digits, no leading zero, at most
255. -/
def isOctet (t : Text) : Bool :=
  !t.isEmpty && t.all Char.isDigit && t.length ≤ 3 && !(t.head? = some '0' && 1 < t.length) &&
    Nat.ofDigitChars 10 t 0 ≤ 255

/-- An IPv4 address. -/
def isIPv4 (t : Text) : Bool :=
  let octets := t.splitOn '.'
  octets.length = 4 && octets.all isOctet

/-- One group of an IPv6 address: one to four hexadecimal digits. -/
def isGroup (t : Text) : Bool :=
  !t.isEmpty && t.all isHexDigit && t.length ≤ 4

/-- The groups of an IPv6 address, an IPv4 address at its end standing for two of them. -/
def groups? (t : Text) : Option (List Text) :=
  let parts := t.splitOn ':'
  match parts.getLast? with
  | some last =>
    if last.contains '.' then
      if isIPv4 last then some (parts.dropLast ++ [['0'], ['0']]) else none
    else some parts
  | none => none

/-- Groups without a gap: exactly eight. -/
def areAllGroups (groups : List Text) : Bool :=
  groups.length = 8 && groups.all isGroup

/-- Groups with one gap, at position `gap` and not at an end: fewer than eight, and an empty
first or last group only beside the gap. -/
def areGroupsAround (gap : Nat) (groups : List Text) : Bool :=
  let before := if groups.take gap = [[]] then [] else groups.take gap
  let after := if groups.drop (gap + 1) = [[]] then [] else groups.drop (gap + 1)
  before.all isGroup && after.all isGroup && before.length + after.length < 8

/-- The positions of the empty groups that are not at an end. -/
def gaps (groups : List Text) : List Nat :=
  (List.range groups.length).filter fun i ↦
    1 ≤ i && i + 1 < groups.length && (groups.getD i []).isEmpty

/-- An IPv6 address. -/
def isIPv6 (t : Text) : Bool :=
  match groups? t with
  | none => false
  | some groups =>
    3 ≤ (t.splitOn ':').length && groups.length ≤ 9 &&
      match gaps groups with
      | [] => areAllGroups groups
      | [gap] => areGroupsAround gap groups
      | _ => false

/-- An address of a future version: a small `v`, hexadecimal digits, a point and more. -/
def isFutureAddress (t : Text) : Bool :=
  match t with
  | 'v' :: rest =>
    match Text.cut '.' rest with
    | (version, some more) => !version.isEmpty && version.all isHexDigit && !more.isEmpty
    | (_, none) => false
  | _ => false

/-- What stands between the brackets of a host. -/
def isBracketed (t : Text) : Bool :=
  t.all (fun c ↦ (isNameChar c || c = ':') && c ≠ '%') && (isIPv6 t || isFutureAddress t)

/-- A port: digits, at most 65535. -/
def isPort (t : Text) : Bool :=
  !t.isEmpty && t.all Char.isDigit && Nat.ofDigitChars 10 t 0 ≤ 65535

/-- The value of a Host header that names a host. -/
def isValid (t : Text) : Bool :=
  match t with
  | '[' :: rest =>
    match Text.cut ']' rest with
    | (address, some []) => isBracketed address
    | (address, some (':' :: port)) => isBracketed address && isPort port
    | _ => false
  | _ =>
    match Text.cut ':' t with
    | (name, none) => !name.isEmpty && name.all isNameChar
    | (name, some port) => !name.isEmpty && name.all isNameChar && isPort port

end StaticServer.Host
