import SlotServer.Net.Ip
import SlotServer.Text.Split

/-!
# Hosts

The host of a listen address as the resolver of the system understands it where it is no literal
address: an address of version 4 in its older notation, an address of version 6 with a zone, the
name of the local host, or a name that only a name server could know.
-/

namespace SlotServer.Host

open Text

/-! ## Numbers with points -/

/-- Reads a number in the base that its start tells: hexadecimal after `0x`, octal after a zero,
else decimal. -/
def numberReader : Reader Nat :=
  fun text =>
    let bound := 0x100000000
    match text with
    | '0' :: 'x' :: rest => Reader.number 16 none true bound rest
    | '0' :: 'X' :: rest => Reader.number 16 none true bound rest
    | '0' :: _ => Reader.number 8 none true bound text
    | _ => Reader.number 10 none true bound text

/-- Reads up to `room` more numbers with points between them. -/
def numbersReader (first : Bool) : Nat → Reader (List Nat)
  | 0, text => some ([], text)
  | room + 1, text =>
    match Reader.separated '.' first numberReader text with
    | none => some ([], text)
    | some (n, rest) => (numbersReader false room rest).map fun (ns, rest) => (n :: ns, rest)

/-- The address of version 4 with this number. -/
def ipv4OfNat (n : Nat) : Ipv4 :=
  ⟨(n / 0x1000000).toUInt8, (n / 0x10000).toUInt8, (n / 0x100).toUInt8, n.toUInt8⟩

/-- The address that up to four numbers stand for: each but the last is a byte, and the last one
fills what is left. -/
def ipv4OfNumbers? : List Nat → Option Ipv4
  | [n] => some (ipv4OfNat n)
  | [a, n] => if a < 0x100 ∧ n < 0x1000000 then some (ipv4OfNat (a * 0x1000000 + n)) else none
  | [a, b, n] =>
    if a < 0x100 ∧ b < 0x100 ∧ n < 0x10000 then
      some (ipv4OfNat (a * 0x1000000 + b * 0x10000 + n))
    else none
  | [a, b, c, n] =>
    if a < 0x100 ∧ b < 0x100 ∧ c < 0x100 ∧ n < 0x100 then
      some (ipv4OfNat (a * 0x1000000 + b * 0x10000 + c * 0x100 + n))
    else none
  | _ => none

/-- The address of version 4 that a host denotes in the older notation. -/
def ipv4? (host : String) : Option Ipv4 :=
  ((numbersReader true 4).whole? host.toList).bind ipv4OfNumbers?

/-! ## Zones -/

/-- Whether an address of version 6 holds on one link only. -/
def isLinkLocal (ip : Ipv6) : Bool :=
  ip.groups.headD 0 / 0x40 = 0x3FA

/-- Whether an address of version 6 means a group of hosts. -/
def isMulticast (ip : Ipv6) : Bool :=
  ip.groups.headD 0 / 0x100 = 0xFF

/-- Whether an address of version 6 means a group of hosts on one link. -/
def isLinkMulticast (ip : Ipv6) : Bool :=
  isMulticast ip && ip.groups.headD 0 % 0x10 = 2

def localZone : UInt32 := 1

/-- The zone that a text denotes. The link to the local host has a name, which counts only with an
address that holds on one link. -/
def zone? (ip : Ipv6) (text : List Char) : Option UInt32 :=
  if (isLinkLocal ip || isLinkMulticast ip) && text = ['l', 'o'] then some localZone
  else (Reader.whole? (Reader.number 10 none true 0x100000000) text).map Nat.toUInt32

/-- The address of version 6 with its zone that a host denotes. -/
def zoned? (host : String) : Option (Ipv6 × UInt32) := do
  let text := host.toList
  let address := text.takeWhile (· ≠ '%')
  let ip ← Ipv6.parse? (String.ofList address)
  match text.drop address.length with
  | _ :: zone => return (ip, ← zone? ip zone)
  | [] => none

/-! ## Names -/

def isLocalName (host : String) : Bool :=
  host.map Char.toLower = "localhost"

def isNameCharacter (c : Char) : Bool :=
  c.isAlphanum || c = '-' || c = '_' || c = '.'

/-- Whether a name server can be asked for a name: its labels have 1 to 63 characters, 253 in all,
and it does not begin with a hyphen. A point at its end does not count. -/
def isName (host : String) : Bool :=
  let text := host.toList
  let labels := Text.splitAt '.' (if text.getLast? = some '.' then text.dropLast else text)
  host = "." ||
    (text.all isNameCharacter && text.head? != some '-' &&
      (labels.all fun label => !label.isEmpty && label.length ≤ 63) &&
      ((labels.map fun label => label.length + 1).foldl (· + ·) 0) ≤ 254)

end SlotServer.Host
