import SlotServer.Shell.Utility.Amount
import SlotServer.Shell.Utility.Basic

/-!
# Digests

Numbers that tell the contents of files apart: short sums, and digests for which nobody finds two
files that share one. A digest is computed from blocks: each changes a state, a row of words.
-/

namespace SlotServer.Shell.Utility

open Work

namespace Digest

/-- The bytes of a text with what is put after it: a bit, zeros, and the number of its bits. -/
def padded (block lengthBytes : Nat) (isBigEndian : Bool) (bytes : Bytes) : Bytes :=
  let bits := 8 * bytes.length
  let used := bytes.length + 1 + lengthBytes
  let zeros := (block - used % block) % block
  let digits := (List.range lengthBytes).map fun i => (bits / Amount.power 256 i % 256).toUInt8
  bytes ++ 0x80 :: List.replicate zeros (0 : UInt8) ++
    (if isBigEndian then digits.reverse else digits)

def cut (size : Nat) : Nat → Bytes → List Bytes
  | 0, _ => []
  | _, [] => []
  | steps + 1, bytes => bytes.take size :: cut size steps (bytes.drop size)

def blocks (block lengthBytes : Nat) (isBigEndian : Bool) (bytes : Bytes) : List Bytes :=
  let whole := padded block lengthBytes isBigEndian bytes
  cut block (whole.length / block + 1) whole

def words (size : Nat) (isBigEndian : Bool) (block : Bytes) : List Nat :=
  (cut size (block.length + 1) block).map fun piece =>
    (if isBigEndian then piece else piece.reverse).foldl (fun n b => 256 * n + b.toNat) 0

/-- A word as hexadecimal digits. -/
def hex (size : Nat) (isBigEndian : Bool) (n : Nat) : String :=
  let bytes := (List.range size).map fun i => n / Amount.power 256 i % 256
  let two (b : Nat) : List Char :=
    let ds := Nat.toDigits 16 b
    List.replicate (2 - ds.length) '0' ++ ds
  String.ofList ((if isBigEndian then bytes.reverse else bytes).flatMap two)

def turnLeft (x : UInt32) (n : UInt32) : UInt32 := (x <<< n) ||| (x >>> (32 - n))

def turnRight (x : UInt32) (n : UInt32) : UInt32 := (x >>> n) ||| (x <<< (32 - n))

def turnRight64 (x : UInt64) (n : UInt64) : UInt64 := (x >>> n) ||| (x <<< (64 - n))

/-! ## The digest of 128 bits -/

/-- The constants of the rounds: the sines of the first numbers. -/
def sines : List UInt32 :=
  [0xd76aa478, 0xe8c7b756, 0x242070db, 0xc1bdceee, 0xf57c0faf, 0x4787c62a, 0xa8304613, 0xfd469501,
    0x698098d8, 0x8b44f7af, 0xffff5bb1, 0x895cd7be, 0x6b901122, 0xfd987193, 0xa679438e, 0x49b40821,
    0xf61e2562, 0xc040b340, 0x265e5a51, 0xe9b6c7aa, 0xd62f105d, 0x02441453, 0xd8a1e681, 0xe7d3fbc8,
    0x21e1cde6, 0xc33707d6, 0xf4d50d87, 0x455a14ed, 0xa9e3e905, 0xfcefa3f8, 0x676f02d9, 0x8d2a4c8a,
    0xfffa3942, 0x8771f681, 0x6d9d6122, 0xfde5380c, 0xa4beea44, 0x4bdecfa9, 0xf6bb4b60, 0xbebfbc70,
    0x289b7ec6, 0xeaa127fa, 0xd4ef3085, 0x04881d05, 0xd9d4d039, 0xe6db99e5, 0x1fa27cf8, 0xc4ac5665,
    0xf4292244, 0x432aff97, 0xab9423a7, 0xfc93a039, 0x655b59c3, 0x8f0ccc92, 0xffeff47d, 0x85845dd1,
    0x6fa87e4f, 0xfe2ce6e0, 0xa3014314, 0x4e0811a1, 0xf7537e82, 0xbd3af235, 0x2ad7d2bb, 0xeb86d391]

/-- How far words are turned in the rounds. -/
def turns : List (List UInt32) := [[7, 12, 17, 22], [5, 9, 14, 20], [4, 11, 16, 23], [6, 10, 15, 21]]

def md5Block (state : UInt32 × UInt32 × UInt32 × UInt32) (block : Bytes) :
    UInt32 × UInt32 × UInt32 × UInt32 :=
  let m := ((words 4 false block).map Nat.toUInt32).toArray
  let (a, b, c, d) := sines.zipIdx.foldl (fun (a, b, c, d) (k, i) =>
    let (f, g) : UInt32 × Nat :=
      match i / 16 with
      | 0 => ((b &&& c) ||| ((~~~b) &&& d), i)
      | 1 => ((d &&& b) ||| ((~~~d) &&& c), (5 * i + 1) % 16)
      | 2 => (b ^^^ c ^^^ d, (3 * i + 5) % 16)
      | _ => (c ^^^ (b ||| (~~~d)), (7 * i) % 16)
    let turn := (turns.getD (i / 16) []).getD (i % 4) 0
    (d, b + turnLeft (f + a + k + m.getD g 0) turn, b, c)) state
  (state.1 + a, state.2.1 + b, state.2.2.1 + c, state.2.2.2 + d)

def md5 (bytes : Bytes) : String :=
  let (a, b, c, d) := (blocks 64 8 false bytes).foldl md5Block
    (0x67452301, 0xefcdab89, 0x98badcfe, 0x10325476)
  String.join ([a, b, c, d].map fun w => hex 4 false w.toNat)

/-! ## The digest of 160 bits -/

def sha1Words (block : Bytes) : Array UInt32 :=
  let first := ((words 4 true block).map Nat.toUInt32).toArray
  (List.range 64).foldl (fun (w : Array UInt32) i =>
    let x := w.getD (i + 13) 0 ^^^ w.getD (i + 8) 0 ^^^ w.getD (i + 2) 0 ^^^ w.getD i 0
    w.push (turnLeft x 1)) first

def sha1Block (state : UInt32 × UInt32 × UInt32 × UInt32 × UInt32) (block : Bytes) :
    UInt32 × UInt32 × UInt32 × UInt32 × UInt32 :=
  let w := sha1Words block
  let (a, b, c, d, e) := (List.range 80).foldl (fun (a, b, c, d, e) i =>
    let (f, k) : UInt32 × UInt32 :=
      match i / 20 with
      | 0 => ((b &&& c) ||| ((~~~b) &&& d), 0x5a827999)
      | 1 => (b ^^^ c ^^^ d, 0x6ed9eba1)
      | 2 => ((b &&& c) ||| (b &&& d) ||| (c &&& d), 0x8f1bbcdc)
      | _ => (b ^^^ c ^^^ d, 0xca62c1d6)
    (turnLeft a 5 + f + e + k + w.getD i 0, a, turnLeft b 30, c, d)) state
  (state.1 + a, state.2.1 + b, state.2.2.1 + c, state.2.2.2.1 + d, state.2.2.2.2 + e)

def sha1 (bytes : Bytes) : String :=
  let (a, b, c, d, e) := (blocks 64 8 true bytes).foldl sha1Block
    (0x67452301, 0xefcdab89, 0x98badcfe, 0x10325476, 0xc3d2e1f0)
  String.join ([a, b, c, d, e].map fun w => hex 4 true w.toNat)

/-! ## The digests of 224 to 512 bits -/

/-- The constants of the rounds: the cube roots of the first primes. -/
def roots : List UInt64 :=
  [0x428a2f98d728ae22, 0x7137449123ef65cd, 0xb5c0fbcfec4d3b2f, 0xe9b5dba58189dbbc,
    0x3956c25bf348b538, 0x59f111f1b605d019, 0x923f82a4af194f9b, 0xab1c5ed5da6d8118,
    0xd807aa98a3030242, 0x12835b0145706fbe, 0x243185be4ee4b28c, 0x550c7dc3d5ffb4e2,
    0x72be5d74f27b896f, 0x80deb1fe3b1696b1, 0x9bdc06a725c71235, 0xc19bf174cf692694,
    0xe49b69c19ef14ad2, 0xefbe4786384f25e3, 0x0fc19dc68b8cd5b5, 0x240ca1cc77ac9c65,
    0x2de92c6f592b0275, 0x4a7484aa6ea6e483, 0x5cb0a9dcbd41fbd4, 0x76f988da831153b5,
    0x983e5152ee66dfab, 0xa831c66d2db43210, 0xb00327c898fb213f, 0xbf597fc7beef0ee4,
    0xc6e00bf33da88fc2, 0xd5a79147930aa725, 0x06ca6351e003826f, 0x142929670a0e6e70,
    0x27b70a8546d22ffc, 0x2e1b21385c26c926, 0x4d2c6dfc5ac42aed, 0x53380d139d95b3df,
    0x650a73548baf63de, 0x766a0abb3c77b2a8, 0x81c2c92e47edaee6, 0x92722c851482353b,
    0xa2bfe8a14cf10364, 0xa81a664bbc423001, 0xc24b8b70d0f89791, 0xc76c51a30654be30,
    0xd192e819d6ef5218, 0xd69906245565a910, 0xf40e35855771202a, 0x106aa07032bbd1b8,
    0x19a4c116b8d2d0c8, 0x1e376c085141ab53, 0x2748774cdf8eeb99, 0x34b0bcb5e19b48a8,
    0x391c0cb3c5c95a63, 0x4ed8aa4ae3418acb, 0x5b9cca4f7763e373, 0x682e6ff3d6b2b8a3,
    0x748f82ee5defb2fc, 0x78a5636f43172f60, 0x84c87814a1f0ab72, 0x8cc702081a6439ec,
    0x90befffa23631e28, 0xa4506cebde82bde9, 0xbef9a3f7b2c67915, 0xc67178f2e372532b,
    0xca273eceea26619c, 0xd186b8c721c0c207, 0xeada7dd6cde0eb1e, 0xf57d4f7fee6ed178,
    0x06f067aa72176fba, 0x0a637dc5a2c898a6, 0x113f9804bef90dae, 0x1b710b35131c471b,
    0x28db77f523047d84, 0x32caab7b40c72493, 0x3c9ebe0a15c9bebc, 0x431d67c49c100d4c,
    0x4cc5d4becb3e42b6, 0x597f299cfc657e2a, 0x5fcb6fab3ad6faec, 0x6c44198c4a475817]

/-- The first halves of the constants. -/
def shortRoots : List UInt32 := (roots.take 64).map fun (k : UInt64) => (k >>> 32).toUInt32

/-- The state after a block, in words of 32 bits. -/
def shortBlock (state : Array UInt32) (block : Bytes) : Array UInt32 :=
  let first := ((words 4 true block).map Nat.toUInt32).toArray
  let w := (List.range 48).foldl (fun (w : Array UInt32) i =>
    let x := w.getD (i + 1) 0
    let y := w.getD (i + 14) 0
    let s := turnRight x 7 ^^^ turnRight x 18 ^^^ (x >>> 3)
    let t := turnRight y 17 ^^^ turnRight y 19 ^^^ (y >>> 10)
    w.push (w.getD i 0 + s + w.getD (i + 9) 0 + t)) first
  let last := shortRoots.zipIdx.foldl (fun (h : Array UInt32) (k, i) =>
    let a := h.getD 0 0
    let e := h.getD 4 0
    let s := turnRight e 6 ^^^ turnRight e 11 ^^^ turnRight e 25
    let choice := (e &&& h.getD 5 0) ^^^ ((~~~e) &&& h.getD 6 0)
    let x := h.getD 7 0 + s + choice + k + w.getD i 0
    let t := turnRight a 2 ^^^ turnRight a 13 ^^^ turnRight a 22
    let most := (a &&& h.getD 1 0) ^^^ (a &&& h.getD 2 0) ^^^ (h.getD 1 0 &&& h.getD 2 0)
    #[x + t + most, a, h.getD 1 0, h.getD 2 0, h.getD 3 0 + x, e, h.getD 5 0, h.getD 6 0]) state
  (state.zip last).map fun (x, y) => x + y

/-- The state after a block, in words of 64 bits. -/
def longBlock (state : Array UInt64) (block : Bytes) : Array UInt64 :=
  let first := ((words 8 true block).map Nat.toUInt64).toArray
  let w := (List.range 64).foldl (fun (w : Array UInt64) i =>
    let x := w.getD (i + 1) 0
    let y := w.getD (i + 14) 0
    let s := turnRight64 x 1 ^^^ turnRight64 x 8 ^^^ (x >>> 7)
    let t := turnRight64 y 19 ^^^ turnRight64 y 61 ^^^ (y >>> 6)
    w.push (w.getD i 0 + s + w.getD (i + 9) 0 + t)) first
  let last := roots.zipIdx.foldl (fun (h : Array UInt64) (k, i) =>
    let a := h.getD 0 0
    let e := h.getD 4 0
    let s := turnRight64 e 14 ^^^ turnRight64 e 18 ^^^ turnRight64 e 41
    let choice := (e &&& h.getD 5 0) ^^^ ((~~~e) &&& h.getD 6 0)
    let x := h.getD 7 0 + s + choice + k + w.getD i 0
    let t := turnRight64 a 28 ^^^ turnRight64 a 34 ^^^ turnRight64 a 39
    let most := (a &&& h.getD 1 0) ^^^ (a &&& h.getD 2 0) ^^^ (h.getD 1 0 &&& h.getD 2 0)
    #[x + t + most, a, h.getD 1 0, h.getD 2 0, h.getD 3 0 + x, e, h.getD 5 0, h.getD 6 0]) state
  (state.zip last).map fun (x, y) => x + y

/-- A digest in words of 32 bits, from a state, of which so many words count. -/
def short (start : Array UInt32) (count : Nat) (bytes : Bytes) : String :=
  let state := (blocks 64 8 true bytes).foldl shortBlock start
  String.join ((state.toList.take count).map fun w => hex 4 true w.toNat)

/-- A digest in words of 64 bits, from a state, of which so many words count. -/
def long (start : Array UInt64) (count : Nat) (bytes : Bytes) : String :=
  let state := (blocks 128 16 true bytes).foldl longBlock start
  String.join ((state.toList.take count).map fun w => hex 8 true w.toNat)

def sha224 : Bytes → String :=
  short #[0xc1059ed8, 0x367cd507, 0x3070dd17, 0xf70e5939, 0xffc00b31, 0x68581511, 0x64f98fa7,
    0xbefa4fa4] 7

def sha256 : Bytes → String :=
  short #[0x6a09e667, 0xbb67ae85, 0x3c6ef372, 0xa54ff53a, 0x510e527f, 0x9b05688c, 0x1f83d9ab,
    0x5be0cd19] 8

def sha384 : Bytes → String :=
  long #[0xcbbb9d5dc1059ed8, 0x629a292a367cd507, 0x9159015a3070dd17, 0x152fecd8f70e5939,
    0x67332667ffc00b31, 0x8eb44a8768581511, 0xdb0c2e0d64f98fa7, 0x47b5481dbefa4fa4] 6

def sha512 : Bytes → String :=
  long #[0x6a09e667f3bcc908, 0xbb67ae8584caa73b, 0x3c6ef372fe94f82b, 0xa54ff53a5f1d36f1,
    0x510e527fade682d1, 0x9b05688c2b3e6c1f, 0x1f83d9abfb41bd6b, 0x5be0cd19137e2179] 8

/-! ## Programs that write digests -/

structure Kind where
  name : String
  length : Nat
  digest : Bytes → String

/-- What a list of digests says about files, and how many of its lines are wrong. -/
structure Tally where
  lines : Nat := 0
  malformed : Nat := 0
  different : Nat := 0
  unreadable : Nat := 0

def listed? (kind : Kind) (line : String) : Option (String × String) :=
  let isHex (text : List Char) : Bool :=
    text.length = kind.length && text.all fun c => (Text.digit? 16 c).isSome
  let chars := line.toList.dropWhile fun c => c = ' ' || c = '\t'
  let front := s!"{kind.name} ("
  if line.startsWith front then
    let inside := (line.drop front.length).copy.toList
    let back := inside.reverse
    let digest := (back.take kind.length).reverse
    let rest := (back.drop kind.length).reverse
    if isHex digest && (String.ofList rest).endsWith ") = " then
      some (String.ofList digest, String.ofList (rest.take (rest.length - 4)))
    else none
  else
    let digest := chars.take kind.length
    match chars.drop kind.length with
    | ' ' :: mark :: name =>
      if isHex digest && (mark = ' ' || mark = '*') && !name.isEmpty then
        some (String.ofList digest, String.ofList name)
      else none
    | _ => none

def check (kind : Kind) (o : Options) (file : String) : Work Unit := do
  let name := (← get).name
  let isSilent := o.has "status"
  match ← readOrComplain? file with
  | none => pure ()
  | some bytes =>
    let shownFile := if file = "-" then "'standard input'" else Quoting.ifNeeded file
    let mut t : Tally := {}
    for (line, i) in (lines bytes).zipIdx do
      let text := textOf (bare line)
      if !text.startsWith "#" then
        match listed? kind text with
        | none =>
          t := { t with malformed := t.malformed + 1 }
          if o.has "w" then
            warn (s!"{name}: {shownFile}: {i + 1}: improperly formatted {kind.name} " ++
              "checksum line")
        | some (digest, path) =>
          t := { t with lines := t.lines + 1 }
          match ← read path with
          | .error fault =>
            if !(o.has "ignore-missing" && fault.error = .noSuchEntry) then
              complain s!"{Quoting.ifNeeded path}: {fault.error.description}"
              if !isSilent then putLine s!"{path}: FAILED open or read"
              t := { t with unreadable := t.unreadable + 1 }
          | .ok contents =>
            if (kind.digest contents) = digest.map Char.toLower then
              if !isSilent && !o.has "quiet" then putLine s!"{path}: OK"
            else
              if !isSilent then putLine s!"{path}: FAILED"
              t := { t with different := t.different + 1 }
    if t.lines = 0 then complain s!"{shownFile}: no properly formatted checksum lines found"
    else
      let say (n : Nat) (one many : String) : Work Unit :=
        if n = 0 || isSilent then pure ()
        else
          let what := if n = 1 then one else many
          warn s!"{name}: WARNING: {n} {what}"
      say t.malformed "line is improperly formatted" "lines are improperly formatted"
      say t.unreadable "listed file could not be read" "listed files could not be read"
      say t.different "computed checksum did NOT match" "computed checksums did NOT match"
      if 0 < t.different + t.unreadable || (o.has "strict" && 0 < t.malformed) then raise 1

/-- Writes the digests of files, or checks those of a list. -/
def program (kind : Kind) : Program := fun args => do
  let table : OptionTable :=
    { letters := "bctwz"
      names := [("binary", "b"), ("check", "c"), ("ignore-missing", "ignore-missing"),
        ("quiet", "quiet"), ("status", "status"), ("strict", "strict"), ("tag", "tag"),
        ("text", "t"), ("warn", "w"), ("zero", "z")] }
  let o ← options table args
  if o.has "c" then
    for file in filesOrInput o.operands do check kind o file
  else
    let mark := if o.last? ["b", "t"] = some "b" then "*" else " "
    for file in filesOrInput o.operands do
      match ← readOrComplain? file with
      | none => pure ()
      | some bytes =>
        let digest := kind.digest bytes
        let isMarked := !o.has "z" && file.toList.any fun c => c = '\\' || c = '\n' || c = '\r'
        let shown := if !isMarked then file else String.ofList (file.toList.flatMap fun c =>
          if c = '\\' then ['\\', '\\'] else if c = '\n' then ['\\', 'n']
          else if c = '\r' then ['\\', 'r'] else [c])
        let front := if isMarked then "\\" else ""
        let line := if o.has "tag" then s!"{front}{kind.name} ({shown}) = {digest}"
          else s!"{front}{digest} {mark}{shown}"
        put (Utf8.encodeString line ++ [if o.has "z" then 0 else 0x0A])

/-- The kinds of digests, by the programs that write them. -/
def kinds : List (String × Kind) :=
  [("md5sum", ⟨"MD5", 32, md5⟩), ("sha1sum", ⟨"SHA1", 40, sha1⟩),
    ("sha224sum", ⟨"SHA224", 56, sha224⟩), ("sha256sum", ⟨"SHA256", 64, sha256⟩),
    ("sha384sum", ⟨"SHA384", 96, sha384⟩), ("sha512sum", ⟨"SHA512", 128, sha512⟩)]

end Digest

/-! ## Sums -/

/-- The remainder of a division of bits, one byte further. -/
def remainderStep (crc : UInt32) (b : UInt8) : UInt32 :=
  (List.range 8).foldl (fun (c : UInt32) _ =>
    if c &&& 0x80000000 ≠ 0 then (c <<< 1) ^^^ 0x04c11db7 else c <<< 1)
    (crc ^^^ (b.toUInt32 <<< 24))

/-- The bytes of a number, the last one first. -/
def lengthBytes : Nat → Nat → Bytes
  | 0, _ => []
  | _ + 1, 0 => []
  | steps + 1, n => (n % 256).toUInt8 :: lengthBytes steps (n / 256)

/-- Writes the remainders and the sizes of files. -/
def cksum : Program := fun args => do
  let o ← options { letters := "" } args
  for file in filesOrInput o.operands do
    match ← readOrComplain? file with
    | none => pure ()
    | some bytes =>
      let all := bytes ++ lengthBytes 16 bytes.length
      let crc := ~~~(all.foldl remainderStep 0)
      let name := if o.operands.isEmpty then "" else s!" {file}"
      putLine s!"{crc.toNat} {bytes.length}{name}"

/-- Writes the sums of files and their sizes in blocks. -/
def sum : Program := fun args => do
  let table : OptionTable := { letters := "rs", names := [("sysv", "s")] }
  let o ← options table args
  let isPlain := o.last? ["r", "s"] = some "s"
  for file in filesOrInput o.operands do
    match ← readOrComplain? file with
    | none => pure ()
    | some bytes =>
      let name := if o.operands.isEmpty then "" else s!" {file}"
      if isPlain then
        let total := bytes.foldl (fun n b => n + b.toNat) 0
        let once := total % 65536 + total % 4294967296 / 65536
        let folded := once % 65536 + once / 65536
        putLine s!"{folded} {(bytes.length + 511) / 512}{name}"
      else
        let total := bytes.foldl (fun n b => (n / 2 + n % 2 * 32768 + b.toNat) % 65536) 0
        let digits := toString total
        let zeros := String.ofList (List.replicate (5 - digits.length) '0')
        putLine s!"{zeros}{digits} {padLeft 5 (toString ((bytes.length + 1023) / 1024))}{name}"

end SlotServer.Shell.Utility
