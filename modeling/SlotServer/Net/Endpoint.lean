import SlotServer.Fault
import SlotServer.Net.Host

/-!
# Endpoints

A socket address is an address with a port. A listen address is what a server is configured with:
a host, which may be a name, and a port. Resolving a listen address gives the socket address that
is bound; for a host that is a literal address, nothing but the host decides it.
-/

namespace SlotServer

open Text

/-- An address and a port. The zone narrows an address of version 6 down to one link. -/
structure SocketAddress where
  ip : IpAddress
  port : UInt16
  zone : UInt32 := 0
  deriving DecidableEq, Repr

namespace SocketAddress

/-- The text of a socket address. An address of version 6 stands in brackets. -/
def text (address : SocketAddress) : String :=
  match address.ip with
  | .v4 ip => s!"{ip.text}:{address.port}"
  | .v6 ip =>
    let zone := if address.zone = 0 then "" else s!"%{address.zone}"
    s!"[{ip.text}{zone}]:{address.port}"

def portReader : Reader UInt16 :=
  fun text => do
    let (_, text) ← Reader.char ':' text
    let (port, text) ← Reader.number 10 none true 65536 text
    return (port.toUInt16, text)

def reader4 : Reader SocketAddress :=
  fun text => do
    let (ip, text) ← Ipv4.reader text
    let (port, text) ← portReader text
    return ({ ip := .v4 ip, port }, text)

/-- Reads a percent sign and the number of a zone, or nothing. -/
def zoneReader : Reader UInt32 :=
  fun text =>
    match Reader.char '%' text with
    | none => some (0, text)
    | some (_, rest) =>
      (Reader.number 10 none true 4294967296 rest).map fun (n, rest) => (n.toUInt32, rest)

def reader6 : Reader SocketAddress :=
  fun text => do
    let (_, text) ← Reader.char '[' text
    let (ip, text) ← Ipv6.reader text
    let (zone, text) ← zoneReader text
    let (_, text) ← Reader.char ']' text
    let (port, text) ← portReader text
    return ({ ip := .v6 ip, port, zone }, text)

/-- The socket address that a whole text denotes. -/
def parse? (text : String) : Option SocketAddress :=
  match reader4.whole? text.toList with
  | some address => some address
  | none => reader6.whole? text.toList

end SocketAddress

/-- The host and the port that a server is told to listen on. Port 0 leaves the choice of a free
port to the system. -/
structure ListenAddress where
  host : String
  port : UInt16
  deriving DecidableEq, Repr

namespace ListenAddress

/-- Host and port with a colon between them. A host that is a literal address of version 6 stands
in brackets; the host is shown as it was given. -/
def text (address : ListenAddress) : String :=
  if (Ipv6.parse? address.host).isSome then s!"[{address.host}]:{address.port}"
  else s!"{address.host}:{address.port}"

/-- The socket address to bind. Of all names only that of the local host is known: there is no name
server that answers. -/
def resolve (address : ListenAddress) : Except Fault SocketAddress :=
  let host := address.host
  let port := address.port
  match IpAddress.parse? host, Host.ipv4? host, Host.zoned? host with
  | some ip, _, _ => .ok { ip, port }
  | none, some ip, _ => .ok { ip := .v4 ip, port }
  | none, none, some (ip, zone) => .ok { ip := .v6 ip, port, zone }
  | none, none, none =>
    if host.toList.contains '\x00' then .error .nulInPath
    else if Host.isLocalName host then .ok { ip := .v4 ⟨127, 0, 0, 1⟩, port }
    else .error (if Host.isName host then .silentNameServer else .unknownHost)

end ListenAddress

end SlotServer
