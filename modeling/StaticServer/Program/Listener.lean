import StaticServer.Program.Failure

/-!
# The listening socket

What the program asks of the operating system to get a socket that it can listen on, as a
list of events, for every way in which the operating system may answer.
-/

namespace StaticServer

/-- The kind of addresses of a socket. -/
inductive Family where
  /-- Addresses of IPv4. -/
  | inet
  /-- Addresses of IPv6. -/
  | inet6
  deriving DecidableEq, Repr

/-- The family for a host: an address with a colon is one of IPv6. -/
def Family.ofHost (host : Option Text) : Family :=
  if host.any (·.contains ':') then .inet6 else .inet

/-- Something that the program does to the listening socket or with it. -/
inductive Event where
  /-- A socket is created. -/
  | socket (family : Family)
  /-- The address may be used again at once. -/
  | reuseAddress
  /-- The socket is to be bound to an address. -/
  | bind (host : Option Text) (port : Option Int)
  /-- Child processes may inherit the socket. -/
  | setInheritable
  /-- The serving loop is entered with so many sockets. -/
  | serve (sockets : Nat)
  /-- The socket is closed. -/
  | close
  deriving DecidableEq

/-- How an attempt to bind an address ends. -/
inductive BindResult where
  /-- The address is bound. -/
  | bound
  /-- The operating system refuses it. -/
  | refused (e : SystemError)
  /-- The port is no port at all, so that the operating system is not asked. -/
  | portOutOfRange
  deriving DecidableEq

/-- How the operating system answers the calls for a socket. -/
structure SocketResults where
  /-- What is said about a socket that cannot be created. -/
  create : Option SystemError := none
  /-- How binding ends. -/
  bind : BindResult := .bound
  /-- What is said about a socket that cannot be made inheritable. -/
  setInheritable : Option SystemError := none

/-- Creates a socket and binds it to the address of the settings. -/
def bindSocket (s : Settings) (o : SocketResults) : List Event × Except Failure Unit :=
  match o.create with
  | some e => ([], .error (.system e))
  | none =>
    let opened := [.socket (Family.ofHost s.host), .reuseAddress, .bind s.host s.port]
    match o.bind with
    | .refused e =>
      (opened ++ [.close], .error (.serving
        (.cannotBind (.ofField .text s.host) (.ofField .integer s.port) (.text e.reason))))
    | .portOutOfRange => (opened, .error .portOutOfRange)
    | .bound =>
      match o.setInheritable with
      | some e => (opened ++ [.setInheritable], .error (.system e))
      | none => (opened ++ [.setInheritable], .ok ())

end StaticServer
