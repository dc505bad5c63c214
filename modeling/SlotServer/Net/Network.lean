import SlotServer.Net.Endpoint

/-!
# Networks

What a server needs from the network it is on: sockets that can be bound, and clients that can
reach them.
-/

namespace SlotServer

structure Network where
  /-- Binds an address: the address that is bound then, which has a port of its own. -/
  bind : SocketAddress → Except Fault SocketAddress
  /-- Whether a client can connect to an address that is bound. -/
  reachable : Bool
  /-- Looks a host up that is not a literal address: its addresses, the one to bind first. -/
  lookup : ListenAddress → Except Fault (List SocketAddress) :=
    fun address => address.resolve.map fun found => [found]
  /-- Lets a bound socket be polled. -/
  poll : SocketAddress → Except Fault Unit := fun _ => .ok ()

namespace Network

/-- The addresses that a listen address stands for. A literal address stands for itself. -/
def addresses (network : Network) (address : ListenAddress) : Except Fault (List SocketAddress) :=
  match IpAddress.parse? address.host with
  | some ip => .ok [{ ip, port := address.port }]
  | none => network.lookup address

/-- The address that is bound when the system chooses the port, if that is left to it. -/
def assignPort (freePort : UInt16) (address : SocketAddress) : SocketAddress :=
  if address.port = 0 then { address with port := freePort } else address

/-- The address of version 4 that an address of version 6 stands for: the one embedded in it, or
any address. -/
def stripped? (ip : Ipv6) : Option Ipv4 :=
  if ip.groups.all (· = 0) then some ⟨0, 0, 0, 0⟩ else ip.mapped?

/-- Why an address of version 6 cannot be bound where no link has one. -/
def bindError (ip : Ipv6) (zone : UInt32) : SystemError :=
  if Host.isMulticast ip then .invalidArgument
  else if Host.isLinkLocal ip then
    if zone = 0 then .invalidArgument
    else if zone = Host.localZone then .addressNotAvailable
    else .noSuchDevice
  else .addressNotAvailable

/-- A network without routes: every address of version 4 can be bound, of version 6 only those that
stand for one of version 4, and no client can connect. The system assigns the port `freePort`; a
port of the local host is in use already if `busyPort` is given. -/
def isolated (freePort : UInt16) (busyPort : Option UInt16) : Network where
  reachable := false
  bind address :=
    let bindV4 (ip : Ipv4) : Except Fault SocketAddress :=
      if busyPort = some address.port ∧ (ip = ⟨127, 0, 0, 1⟩ ∨ ip = ⟨0, 0, 0, 0⟩) then
        .error (.system .addressInUse)
      else .ok (assignPort freePort address)
    match address.ip with
    | .v4 ip => bindV4 ip
    | .v6 ip =>
      match stripped? ip with
      | some ip => bindV4 ip
      | none => .error (.system (bindError ip address.zone))

end Network

end SlotServer
