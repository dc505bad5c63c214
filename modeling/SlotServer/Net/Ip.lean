import SlotServer.Text.Reader

/-!
# Internet addresses

Addresses of versions 4 and 6, their readers and their texts. The reader of version 6 takes every
accepted spelling; the text is the short one: the longest run of at least two zero groups is left
out, and an address that embeds one of version 4 shows it.
-/

namespace SlotServer

/-- An address of version 4. -/
structure Ipv4 where
  a : UInt8
  b : UInt8
  c : UInt8
  d : UInt8
  deriving DecidableEq, Repr

/-- An address of version 6: eight groups. -/
structure Ipv6 where
  groups : List UInt16
  length_eq : groups.length = 8
  deriving DecidableEq, Repr

/-- An address of either version. -/
inductive IpAddress where
  | v4 (address : Ipv4)
  | v6 (address : Ipv6)
  deriving DecidableEq, Repr

open Text

namespace Ipv4

/-- The text of an address: its four bytes in decimal. -/
def text (ip : Ipv4) : String :=
  s!"{ip.a}.{ip.b}.{ip.c}.{ip.d}"

/-- Reads one byte in decimal, without leading zeros. -/
def byte : Reader UInt8 :=
  fun text => (Reader.number 10 (some 3) false 256 text).map fun (n, rest) => (n.toUInt8, rest)

def reader : Reader Ipv4 :=
  fun text => do
    let (a, text) ← Reader.separated '.' true byte text
    let (b, text) ← Reader.separated '.' false byte text
    let (c, text) ← Reader.separated '.' false byte text
    let (d, text) ← Reader.separated '.' false byte text
    return (⟨a, b, c, d⟩, text)

/-- The address that a whole text denotes. -/
def parse? (text : String) : Option Ipv4 :=
  reader.whole? text.toList

/-- The two groups that an address takes up at the end of one of version 6. -/
def groups (ip : Ipv4) : List UInt16 :=
  [ip.a.toUInt16 * 256 + ip.b.toUInt16, ip.c.toUInt16 * 256 + ip.d.toUInt16]

end Ipv4

namespace Ipv6

/-- Reads one group of up to four hexadecimal digits. -/
def group : Reader UInt16 :=
  fun text => (Reader.number 16 (some 4) true 65536 text).map fun (n, rest) => (n.toUInt16, rest)

/-- What `readGroups` found: the groups, whether an address of version 4 ended them, and the rest
of the text. -/
structure GroupRun where
  groups : List UInt16
  endsInV4 : Bool
  rest : List Char

/-- Reads groups separated by colons, at most `room` of them, as far as they go. Where room for two
is left, an address of version 4 may stand for the last two. -/
def readGroups (first : Bool) : Nat → List Char → GroupRun
  | 0, text => ⟨[], false, text⟩
  | room + 1, text =>
    let embedded := if 1 ≤ room then Reader.separated ':' first Ipv4.reader text else none
    match embedded with
    | some (ip, rest) => ⟨ip.groups, true, rest⟩
    | none =>
      match Reader.separated ':' first group text with
      | none => ⟨[], false, text⟩
      | some (g, rest) =>
        let run := readGroups false room rest
        { run with groups := g :: run.groups }

/-- The address with these groups, if there are eight. -/
def ofGroups? (groups : List UInt16) : Option Ipv6 :=
  if h : groups.length = 8 then some ⟨groups, h⟩ else none

/-- Reads an address: eight groups, or fewer with `::` in place of at least one zero group. -/
def reader : Reader Ipv6 :=
  fun text => do
    let head := readGroups true 8 text
    if head.groups.length = 8 then
      return (← ofGroups? head.groups, head.rest)
    else if head.endsInV4 then
      none
    else
      let (_, rest) ← Reader.char ':' head.rest
      let (_, rest) ← Reader.char ':' rest
      let tail := readGroups true (7 - head.groups.length) rest
      let zeros := List.replicate (8 - head.groups.length - tail.groups.length) 0
      return (← ofGroups? (head.groups ++ zeros ++ tail.groups), tail.rest)

/-- The address that a whole text denotes. -/
def parse? (text : String) : Option Ipv6 :=
  reader.whole? text.toList

/-- A group in lower case hexadecimal, without leading zeros. -/
def groupText (g : UInt16) : String :=
  String.ofList (Nat.toDigits 16 g.toNat)

/-- Groups with colons between them. -/
def groupsText (groups : List UInt16) : String :=
  ":".intercalate (groups.map groupText)

def leadingZeros (groups : List UInt16) : Nat :=
  (groups.takeWhile (· == 0)).length

/-- The start and the length of the first longest run of zero groups, counting from `start`. -/
def longestZeros (start : Nat) : List UInt16 → Nat × Nat
  | [] => (start, 0)
  | g :: rest =>
    let here := leadingZeros (g :: rest)
    let (later, length) := longestZeros (start + 1) rest
    if length ≤ here then (start, here) else (later, length)

/-- The address of version 4 that an address ends in, if its first six groups say that it only
stands for that. -/
def mapped? (ip : Ipv6) : Option Ipv4 :=
  match ip.groups with
  | [0, 0, 0, 0, 0, 0xFFFF, g, h] =>
    some ⟨(g / 256).toUInt8, g.toUInt8, (h / 256).toUInt8, h.toUInt8⟩
  | _ => none

/-- The short text of an address. -/
def text (ip : Ipv6) : String :=
  match ip.mapped? with
  | some v4 => "::ffff:" ++ v4.text
  | none =>
    let (start, length) := longestZeros 0 ip.groups
    if 2 ≤ length then
      groupsText (ip.groups.take start) ++ "::" ++ groupsText (ip.groups.drop (start + length))
    else
      groupsText ip.groups

end Ipv6

namespace IpAddress

def text : IpAddress → String
  | v4 ip => ip.text
  | v6 ip => ip.text

/-- The address that a whole text denotes, in either version. -/
def parse? (text : String) : Option IpAddress :=
  match Ipv4.parse? text with
  | some ip => some (v4 ip)
  | none => (Ipv6.parse? text).map v6

end IpAddress

end SlotServer
