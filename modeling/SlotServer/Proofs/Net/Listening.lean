import SlotServer.Proofs.Net.Literals
import SlotServer.Server.Run

/-!
# Listen addresses

The text of a listen address is written in one way and the socket address to bind is found in
another. Where the host is a literal address they agree: the text, read as a socket address, is what
is resolved and bound. The text has brackets for a host of version 6 only; no literal address
contains any.
-/

namespace SlotServer

open Text

/-! ## Socket addresses -/

namespace SocketAddress

theorem toList_toString (port : UInt16) : (toString port).toList = Nat.toDigits 10 port.toNat := by
  rw [show toString port = toString port.toNat from rfl, Nat.toString_eq_ofList_toDigits,
    String.toList_ofList]

theorem toList_plain (host : String) (port : UInt16) :
    (s!"{host}:{port}").toList = host.toList ++ ':' :: Nat.toDigits 10 port.toNat := by
  simp only [String.toList_append, toList_toString, List.append_assoc]
  rfl

theorem toList_bracketed (host : String) (port : UInt16) :
    (s!"[{host}]:{port}").toList =
      '[' :: (host.toList ++ ']' :: ':' :: Nat.toDigits 10 port.toNat) := by
  simp only [String.toList_append, toList_toString, List.append_assoc]
  rfl

theorem portReader_toDigits (port : UInt16) :
    portReader (':' :: Nat.toDigits 10 port.toNat) = some (port, []) := by
  have hnumber : Reader.number 10 none true 65536 (Nat.toDigits 10 port.toNat) =
      some (port.toNat, []) := by
    have htext : NumberText 10 none true (Nat.toDigits 10 port.toNat) port.toNat :=
      numberText_toDigits fun _ => nofun
    simpa using htext.number port.toNat_lt (ends_nil 10)
  simp [portReader, Reader.char, hnumber]

theorem parse?_v4 (ip : Ipv4) (port : UInt16) :
    parse? s!"{ip.text}:{port}" = some { ip := .v4 ip, port } := by
  have hip : Ipv4.reader (ip.text.toList ++ ':' :: Nat.toDigits 10 port.toNat) =
      some (ip, ':' :: Nat.toDigits 10 port.toNat) :=
    Ipv4.reader_eq_some_iff.mpr ⟨rfl, ends_cons rfl _⟩
  have hread : reader4.whole? (s!"{ip.text}:{port}").toList = some { ip := .v4 ip, port } := by
    rw [whole?_eq_some_iff, toList_plain]
    simp [reader4, hip, portReader_toDigits]
  rw [parse?, hread]

theorem parse?_v6 {host : String} {ip : Ipv6} (h : Ipv6.Literal host.toList ip) (port : UInt16) :
    parse? s!"[{host}]:{port}" = some { ip := .v6 ip, port } := by
  have hreader4 : reader4.whole? (s!"[{host}]:{port}").toList = none := by
    rw [toList_bracketed, Reader.whole?, reader4, Ipv4.reader_of_ends (ends_cons rfl _)]
    rfl
  have hip := h.reader (Ipv6.boundary_cons (c := ']') rfl (by decide) (by decide)
    (':' :: Nat.toDigits 10 port.toNat))
  have hread : reader6.whole? (s!"[{host}]:{port}").toList = some { ip := .v6 ip, port } := by
    rw [whole?_eq_some_iff, toList_bracketed]
    simp [reader6, Reader.char, hip, zoneReader, portReader_toDigits]
  rw [parse?, hreader4, hread]

end SocketAddress

/-! ## Networks -/

/-- Whether a network changes nothing in an address that it binds but port 0, for which the system
assigns one. -/
def Network.AssignsPorts (network : Network) : Prop :=
  ∀ address bound, network.bind address = .ok bound → bound = assignPort bound.port address

theorem Network.isolated_assignsPorts (freePort : UInt16) (busyPort : Option UInt16) :
    (isolated freePort busyPort).AssignsPorts := by
  intro address bound h
  have hassigned : bound = assignPort freePort address := by
    unfold isolated at h
    grind
  rw [hassigned]
  unfold assignPort
  split <;> simp_all

namespace ListenAddress

/-- What a listen address shows and what is bound for it, where its host denotes an address. -/
structure Displayed (address : ListenAddress) (ip : IpAddress) : Prop where
  /-- The text is one of the socket address with that address and the port. -/
  parses : SocketAddress.parse? address.text = some { ip, port := address.port }
  /-- The listen address resolves to the same socket address. -/
  resolves : address.resolve = .ok { ip, port := address.port }
  /-- A server resolves it so on every network. -/
  resolved : ∀ network : Network,
    Server.resolve network address = .ok { ip, port := address.port }
  /-- That is what the network is told to bind, and what an error names. -/
  binds : ∀ network : Network, Server.bind network address =
    (network.bind { ip, port := address.port }).mapError (.bind { ip, port := address.port })
  /-- The local address is the same but for port 0. -/
  bound : ∀ network : Network, network.AssignsPorts → ∀ actual,
    Server.bind network address = .ok actual →
      actual = Network.assignPort actual.port { ip, port := address.port }
  /-- The host has no brackets of its own. -/
  plain : ∀ c, c = '[' ∨ c = ']' → c ∉ address.host.toList
  /-- The text has brackets for a host of version 6 only. -/
  brackets : ∀ c, c = '[' ∨ c = ']' →
    (c ∈ address.text.toList ↔ ∃ ip6, Ipv6.Literal address.host.toList ip6)

variable {address : ListenAddress}

/-! ## The text -/

theorem text_v4 {ip : Ipv4} (h : Ipv4.parse? address.host = some ip) :
    address.text = s!"{address.host}:{address.port}" := by
  have hparse : Ipv6.parse? address.host = none := by
    rw [Option.eq_none_iff_forall_ne_some]
    intro ip6 hparse
    rw [(Ipv6.parse?_eq_some_iff.mp hparse).parse4] at h
    cases h
  simp only [text, hparse, Option.isSome_none, Bool.false_eq_true, if_false]

theorem text_v6 {ip : Ipv6} (h : Ipv6.parse? address.host = some ip) :
    address.text = s!"[{address.host}]:{address.port}" := by
  simp only [text, h, Option.isSome_some, if_true]

theorem parse?_text {ip : IpAddress} (h : IpAddress.Literal address.host.toList ip) :
    SocketAddress.parse? address.text = some { ip, port := address.port } := by
  cases ip with
  | v4 ip =>
      have hhost := IpAddress.literal_v4_iff.mp h
      rw [text_v4 (Ipv4.parse?_eq_some_iff.mpr hhost), hhost]
      exact SocketAddress.parse?_v4 ip address.port
  | v6 ip =>
      have hliteral := IpAddress.literal_v6_iff.mp h
      rw [text_v6 (Ipv6.parse?_eq_some_iff.mpr hliteral)]
      exact SocketAddress.parse?_v6 hliteral address.port

theorem bracket_mem_text_iff {ip : IpAddress} (h : IpAddress.Literal address.host.toList ip)
    {c : Char} (hc : c = '[' ∨ c = ']') :
    c ∈ address.text.toList ↔ ∃ ip6, Ipv6.Literal address.host.toList ip6 := by
  cases ip with
  | v4 ip =>
      have hparse := Ipv4.parse?_eq_some_iff.mpr (IpAddress.literal_v4_iff.mp h)
      have hport : c ∉ ':' :: Nat.toDigits 10 address.port.toNat := by
        intro hmem
        have hchar : c = ':' ∨ c.isDigit = true := (List.mem_cons.mp hmem).imp_right fun hdigit =>
          Nat.isDigit_of_mem_toDigits (by decide) (by decide) hdigit
        rcases hc with rfl | rfl <;> exact absurd hchar (by decide)
      have htext : c ∉ address.text.toList := by
        rw [text_v4 hparse, SocketAddress.toList_plain, List.mem_append]
        exact not_or.mpr ⟨h.bracket_notMem hc, hport⟩
      refine iff_of_false htext ?_
      rintro ⟨ip6, hliteral⟩
      rw [hliteral.parse4] at hparse
      cases hparse
  | v6 ip =>
      have hliteral := IpAddress.literal_v6_iff.mp h
      rw [text_v6 (Ipv6.parse?_eq_some_iff.mpr hliteral), SocketAddress.toList_bracketed]
      refine iff_of_true ?_ ⟨ip, hliteral⟩
      rcases hc with rfl | rfl <;> simp

/-! ## Displayed and bound -/

theorem resolve_of_literal {ip : IpAddress} (h : IpAddress.parse? address.host = some ip) :
    address.resolve = .ok { ip, port := address.port } := by
  simp only [resolve, h]

/-- No name has to be looked up for a literal address. -/
theorem resolve_eq_of_literal (network : Network) {ip : IpAddress}
    (h : IpAddress.parse? address.host = some ip) :
    Server.resolve network address = .ok { ip, port := address.port } := by
  simp only [Server.resolve, Network.addresses, h]

/-- The text of a listen address whose host is a literal address denotes what is bound, whichever
spelling of the address the host is. -/
theorem displayed_is_bound (address : ListenAddress) (ip : IpAddress) :
    (IpAddress.parse? address.host = some ip ↔ IpAddress.Literal address.host.toList ip) ∧
      (IpAddress.parse? address.host = some ip → address.Displayed ip) := by
  refine ⟨IpAddress.parse?_eq_some_iff, fun hparse => ?_⟩
  have hliteral := IpAddress.parse?_eq_some_iff.mp hparse
  have hresolved : ∀ network : Network,
      Server.resolve network address = .ok { ip, port := address.port } :=
    fun network => resolve_eq_of_literal network hparse
  have hbinds : ∀ network : Network, Server.bind network address =
      (network.bind { ip, port := address.port }).mapError
        (.bind { ip, port := address.port }) := by
    intro network
    rw [Server.bind, hresolved network]
    rfl
  refine ⟨parse?_text hliteral, resolve_of_literal hparse, hresolved, hbinds,
    fun network hassigns actual hactual => ?_, fun c => hliteral.bracket_notMem,
    fun c => bracket_mem_text_iff hliteral⟩
  rw [hbinds] at hactual
  refine hassigns _ actual ?_
  cases hbound : network.bind { ip, port := address.port } with
  | error fault =>
      rw [hbound] at hactual
      cases hactual
  | ok bound =>
      rw [hbound] at hactual
      cases hactual
      rfl

/-- An address of version 6 that embeds one of version 4, in capitals, at a port of the system's
choice. -/
theorem displayed_is_bound_embedded :
    let address : ListenAddress := ⟨"::FFFF:192.0.2.1", 0⟩
    let ip : IpAddress := .v6 ⟨[0, 0, 0, 0, 0, 0xFFFF, 0xC000, 0x0201], rfl⟩
    let network := Network.isolated 4000 none
    IpAddress.parse? address.host = some ip ∧ address.text = "[::FFFF:192.0.2.1]:0" ∧
      address.Displayed ip ∧ network.AssignsPorts ∧
      Server.bind network address = .ok { ip, port := 4000 } := by
  intro address ip network
  have hparse : IpAddress.parse? address.host = some ip := by decide +kernel
  have hdisplayed := (displayed_is_bound address ip).2 hparse
  refine ⟨hparse, by decide +kernel, hdisplayed, Network.isolated_assignsPorts 4000 none, ?_⟩
  rw [hdisplayed.binds]
  decide +kernel

end ListenAddress

end SlotServer
