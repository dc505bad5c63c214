import SlotServer.Net.Ip
import SlotServer.Proofs.Text.Numbers

/-!
# Literal addresses

The spellings of an address, defined by a grammar. An address of version 4 has one spelling, its
text. One of version 6 has many: digits of either case, groups with zeros in front, `::` in place of
zero groups wherever they stand, and an address of version 4 for the last two groups. The readers
accept exactly these spellings, and a text that spells an address of one version spells none of the
other.
-/

namespace SlotServer

namespace Text

/-! ## Separators -/

/-- What stands in front of an item of a list: nothing in front of the first one. -/
def separator (c : Char) (first : Bool) : List Char :=
  if first then [] else [c]

theorem separated_append {α : Type} (c : Char) (first : Bool) (reader : Reader α)
    (text : List Char) :
    Reader.separated c first reader (separator c first ++ text) = reader text := by
  cases first with
  | true => rfl
  | false => simp [Reader.separated, separator, Reader.char]

theorem char_eq_some {c : Char} {text rest : List Char} {u : Unit}
    (h : Reader.char c text = some (u, rest)) : text = c :: rest := by
  cases text with
  | nil => cases h
  | cons d text =>
      simp only [Reader.char] at h
      split at h
      · rename_i hc
        rw [hc, (Prod.mk.inj (Option.some.inj h)).2]
      · cases h

theorem separated_eq_some_iff {α : Type} {c : Char} {first : Bool} {reader : Reader α}
    {text : List Char} {found : α × List Char} :
    Reader.separated c first reader text = some found ↔
      ∃ item, separator c first ++ item = text ∧ reader item = some found := by
  constructor
  · intro h
    cases first with
    | true => exact ⟨text, rfl, h⟩
    | false =>
        simp only [Reader.separated, Bool.false_eq_true, if_false] at h
        split at h
        · cases h
        · rename_i item hitem
          exact ⟨item, (char_eq_some hitem).symm, h⟩
  · rintro ⟨item, rfl, h⟩
    rwa [separated_append]

theorem separated_eq_none {α : Type} {c : Char} {first : Bool} {reader : Reader α}
    {text : List Char} (h : ∀ item, separator c first ++ item = text → reader item = none) :
    Reader.separated c first reader text = none := by
  rw [Option.eq_none_iff_forall_ne_some]
  intro found hfound
  obtain ⟨item, hitem, hread⟩ := separated_eq_some_iff.mp hfound
  rw [h item hitem] at hread
  cases hread

theorem whole?_eq_some_iff {α : Type} {reader : Reader α} {text : List Char} {value : α} :
    reader.whole? text = some value ↔ reader text = some (value, []) := by
  unfold Reader.whole?
  constructor
  · intro h
    split at h
    · rename_i hread
      rw [hread, Option.some.inj h]
    · cases h
  · intro h
    rw [h]

end Text

open Text

/-! ## Version 4 -/

namespace Ipv4

theorem byte_eq_some_iff {text rest : List Char} {b : UInt8} :
    byte text = some (b, rest) ↔ Nat.toDigits 10 b.toNat ++ rest = text ∧ Ends 10 rest := by
  simp only [byte, Option.map_eq_some_iff, Prod.exists, Prod.mk.injEq, number_eq_some_iff]
  constructor
  · rintro ⟨n, _, ⟨read, rfl, hread, hn, hrest⟩, rfl, rfl⟩
    have hvalue : n.toUInt8.toNat = n := Nat.mod_eq_of_lt hn
    rw [hvalue, ← hread.eq_toDigits]
    exact ⟨rfl, hrest⟩
  · rintro ⟨rfl, hrest⟩
    refine ⟨b.toNat, rest, ⟨_, rfl, numberText_toDigits ?_, b.toNat_lt, hrest⟩, ?_, rfl⟩
    · rintro most ⟨⟩
      exact ⟨by decide, Nat.lt_trans b.toNat_lt (by decide)⟩
    · simp

theorem separated_byte_iff {first : Bool} {text rest : List Char} {b : UInt8} :
    Reader.separated '.' first byte text = some (b, rest) ↔
      separator '.' first ++ (Nat.toDigits 10 b.toNat ++ rest) = text ∧ Ends 10 rest := by
  rw [separated_eq_some_iff]
  constructor
  · rintro ⟨item, rfl, hread⟩
    obtain ⟨rfl, hrest⟩ := byte_eq_some_iff.mp hread
    exact ⟨rfl, hrest⟩
  · rintro ⟨rfl, hrest⟩
    exact ⟨_, rfl, byte_eq_some_iff.mpr ⟨rfl, hrest⟩⟩

theorem toList_text (ip : Ipv4) :
    ip.text.toList = Nat.toDigits 10 ip.a.toNat ++ '.' :: (Nat.toDigits 10 ip.b.toNat ++
      '.' :: (Nat.toDigits 10 ip.c.toNat ++ '.' :: Nat.toDigits 10 ip.d.toNat)) := by
  have hbyte : ∀ b : UInt8, (toString b).toList = Nat.toDigits 10 b.toNat := fun b => by
    rw [show toString b = toString b.toNat from rfl, Nat.toString_eq_ofList_toDigits,
      String.toList_ofList]
  simp only [text, String.toList_append, hbyte, List.append_assoc]
  rfl

theorem char_of_mem {ip : Ipv4} {c : Char} (h : c ∈ ip.text.toList) :
    (digit? 10 c).isSome ∨ c = '.' := by
  have hdigits : ∀ n, c ∈ Nat.toDigits 10 n → (digit? 10 c).isSome := fun n hc => by
    rw [isSome_digit?_ten, Nat.isDigit_of_mem_toDigits (by decide) (by decide) hc]
  rw [toList_text] at h
  simp only [List.mem_append, List.mem_cons] at h
  rcases h with h | rfl | h | rfl | h | rfl | h
  · exact .inl (hdigits _ h)
  · exact .inr rfl
  · exact .inl (hdigits _ h)
  · exact .inr rfl
  · exact .inl (hdigits _ h)
  · exact .inr rfl
  · exact .inl (hdigits _ h)

theorem reader_eq_some_iff {text rest : List Char} {ip : Ipv4} :
    reader text = some (ip, rest) ↔ ip.text.toList ++ rest = text ∧ Ends 10 rest := by
  rw [toList_text]
  constructor
  · intro h
    simp only [reader, Option.bind_eq_bind, Option.bind_eq_some_iff, Prod.exists,
      Option.pure_def, Option.some.injEq, Prod.mk.injEq] at h
    obtain ⟨a, afterA, ha, b, afterB, hb, c, afterC, hc, d, afterD, hd, rfl, rfl⟩ := h
    obtain ⟨rfl, -⟩ := separated_byte_iff.mp ha
    obtain ⟨rfl, -⟩ := separated_byte_iff.mp hb
    obtain ⟨rfl, -⟩ := separated_byte_iff.mp hc
    obtain ⟨rfl, hends⟩ := separated_byte_iff.mp hd
    exact ⟨by simp [separator], hends⟩
  · rintro ⟨rfl, hrest⟩
    have hpoint : ∀ more, Ends 10 ('.' :: more) := ends_cons rfl
    have hfirst : ∀ more, Reader.separated '.' true byte
        (Nat.toDigits 10 ip.a.toNat ++ '.' :: more) = some (ip.a, '.' :: more) :=
      fun more => separated_byte_iff.mpr ⟨rfl, hpoint more⟩
    have hnext : ∀ b more, Ends 10 more → Reader.separated '.' false byte
        ('.' :: (Nat.toDigits 10 b.toNat ++ more)) = some (b, more) :=
      fun b more hmore => separated_byte_iff.mpr ⟨rfl, hmore⟩
    simp only [reader, List.append_assoc, List.cons_append, hfirst, hnext _ _ (hpoint _),
      hnext _ _ hrest, Option.bind_eq_bind, Option.bind_some, Option.pure_def]

theorem reader_of_ends {text : List Char} (h : Ends 10 text) : reader text = none := by
  simp [reader, Reader.separated, byte, number_of_ends h]

theorem parse?_eq_some_iff {host : String} {ip : Ipv4} :
    parse? host = some ip ↔ host = ip.text := by
  rw [parse?, whole?_eq_some_iff, reader_eq_some_iff, List.append_nil, String.toList_inj]
  exact ⟨fun h => h.1.symm, fun h => ⟨h.symm, ends_nil 10⟩⟩

end Ipv4

/-! ## Version 6 -/

namespace Ipv6

/-- The texts of a group: up to four hexadecimal digits. -/
def GroupText (text : List Char) (g : UInt16) : Prop :=
  NumberText 16 (some 4) true text g.toNat

/-- The texts of a run of groups. Each group but the first has a colon in front of it, and the last
item may be an address of version 4, which makes two groups. -/
inductive Run : (first embeds : Bool) → List Char → List UInt16 → Prop
  | nil (first : Bool) : Run first false [] []
  | group (first : Bool) {embeds : Bool} {text rest : List Char} {g : UInt16}
      {groups : List UInt16} (item : GroupText text g) (run : Run false embeds rest groups) :
      Run first embeds (separator ':' first ++ (text ++ rest)) (g :: groups)
  | embedded (first : Bool) (ip : Ipv4) :
      Run first true (separator ':' first ++ ip.text.toList) ip.groups

/-- The spellings of an address: all eight groups, or two runs of groups with `::` for the zero
groups between them, of which there is at least one. -/
inductive Literal : List Char → Ipv6 → Prop
  | full {embeds : Bool} {text : List Char} {ip : Ipv6} (run : Run true embeds text ip.groups) :
      Literal text ip
  | compressed {embeds : Bool} {head tail : List Char} {heads tails : List UInt16} {ip : Ipv6}
      (front : Run true false head heads) (back : Run true embeds tail tails)
      (room : heads.length + tails.length ≤ 7)
      (groups_eq : ip.groups =
        heads ++ List.replicate (8 - heads.length - tails.length) 0 ++ tails) :
      Literal (head ++ ':' :: ':' :: tail) ip

/-- What may follow a spelling: nothing that could continue it. -/
structure Boundary (rest : List Char) : Prop where
  ends : Ends 16 rest
  noPoint : rest.head? ≠ some '.'
  noGroup : ∀ more, rest = ':' :: more → Ends 16 more

theorem boundary_nil : Boundary [] :=
  ⟨ends_nil 16, nofun, nofun⟩

theorem boundary_cons {c : Char} (h : digit? 16 c = none) (hpoint : c ≠ '.') (hcolon : c ≠ ':')
    (rest : List Char) : Boundary (c :: rest) :=
  ⟨ends_cons h rest, fun hhead => hpoint (Option.some.inj hhead),
    fun _ hmore => absurd (List.cons.inj hmore).1 hcolon⟩

theorem boundary_compression (rest : List Char) : Boundary (':' :: ':' :: rest) := by
  refine ⟨ends_cons rfl _, nofun, ?_⟩
  rintro _ ⟨⟩
  exact ends_cons rfl rest

/-! ### Groups -/

theorem group_eq_some_iff {text rest : List Char} {g : UInt16} :
    group text = some (g, rest) ↔
      ∃ read, read ++ rest = text ∧ GroupText read g ∧ Ends 16 rest := by
  simp only [group, Option.map_eq_some_iff, Prod.exists, Prod.mk.injEq, number_eq_some_iff]
  constructor
  · rintro ⟨n, _, ⟨read, rfl, hread, hn, hrest⟩, rfl, rfl⟩
    have hvalue : n.toUInt16.toNat = n := Nat.mod_eq_of_lt hn
    exact ⟨read, rfl, by rwa [GroupText, hvalue], hrest⟩
  · rintro ⟨read, rfl, hread, hrest⟩
    exact ⟨g.toNat, rest, ⟨read, rfl, hread, g.toNat_lt, hrest⟩, by simp, rfl⟩

theorem group_of_ends {text : List Char} (h : Ends 16 text) : group text = none := by
  simp [group, number_of_ends h]

theorem GroupText.point_notMem {text : List Char} {g : UInt16} (h : GroupText text g) :
    '.' ∉ text :=
  fun hmem => absurd (h.isDigit '.' hmem) (by decide)

/-- Digits that no point follows are not the start of an address of version 4. -/
theorem GroupText.reader4 {text : List Char} {g : UInt16} (h : GroupText text g)
    {rest : List Char} (hends : Ends 16 rest) (hpoint : rest.head? ≠ some '.') :
    Ipv4.reader (text ++ rest) = none := by
  rw [Option.eq_none_iff_forall_ne_some]
  rintro ⟨ip, left⟩ hread
  obtain ⟨hspelled, -⟩ := Ipv4.reader_eq_some_iff.mp hread
  rw [Ipv4.toList_text, List.append_assoc, List.append_eq_append_iff] at hspelled
  obtain ⟨behind, htext, hbehind⟩ | ⟨behind, hfirst, hbehind⟩ := hspelled
  · -- the point would be in the group or right behind it
    cases behind with
    | nil => exact hpoint (by rw [List.nil_append] at hbehind; rw [← hbehind]; rfl)
    | cons c behind =>
        obtain rfl : '.' = c := (List.cons.inj hbehind).1
        exact h.point_notMem (by simp [htext])
  · -- a digit would be right behind the group
    cases behind with
    | nil => exact hpoint (by rw [List.nil_append] at hbehind; rw [hbehind]; rfl)
    | cons c behind =>
        have hdigit : c.isDigit = true := Nat.isDigit_of_mem_toDigits (by decide) (by decide)
          (show c ∈ Nat.toDigits 10 ip.a.toNat by simp [hfirst])
        have hten : Ends 10 rest := hends.mono (by decide)
        have hnone := hten c (by rw [hbehind]; rfl)
        rw [← isSome_digit?_ten, hnone] at hdigit
        cases hdigit

/-! ### Runs of groups -/

/-- What may follow a group inside a run: a colon, or what follows the run. -/
theorem Run.ends {embeds : Bool} {text : List Char} {groups : List UInt16}
    (run : Run false embeds text groups) {rest : List Char} (hrest : Boundary rest) :
    Ends 16 (text ++ rest) ∧ (text ++ rest).head? ≠ some '.' := by
  cases run with
  | nil => exact ⟨hrest.ends, hrest.noPoint⟩
  | group => exact ⟨ends_cons rfl _, nofun⟩
  | embedded => exact ⟨ends_cons rfl _, nofun⟩

theorem readGroups_boundary (first : Bool) (room : Nat) {rest : List Char}
    (hrest : Boundary rest) : readGroups first room rest = ⟨[], false, rest⟩ := by
  have hstop : ∀ item, separator ':' first ++ item = rest → Ends 16 item := by
    rintro item rfl
    cases first with
    | true => exact hrest.ends
    | false => exact hrest.noGroup item rfl
  have hgroup : Reader.separated ':' first group rest = none :=
    separated_eq_none fun item hitem => group_of_ends (hstop item hitem)
  have hembedded : Reader.separated ':' first Ipv4.reader rest = none :=
    separated_eq_none fun item hitem =>
      Ipv4.reader_of_ends ((hstop item hitem).mono (by decide))
  cases room with
  | zero => rfl
  | succ room => simp only [readGroups, hembedded, ite_self, hgroup]

/-- A run of groups is read to its end. -/
theorem Run.readGroups {first embeds : Bool} {text : List Char} {groups : List UInt16}
    (run : Run first embeds text groups) {rest : List Char} (hrest : Boundary rest) {room : Nat}
    (hroom : groups.length ≤ room) :
    readGroups first room (text ++ rest) = ⟨groups, embeds, rest⟩ := by
  induction run generalizing room with
  | nil first => exact readGroups_boundary first room hrest
  | @group first embeds text behind g groups item run ih =>
      obtain ⟨room, rfl⟩ : ∃ more, room = more + 1 := ⟨room - 1, by simp at hroom; omega⟩
      obtain ⟨hends, hpoint⟩ := run.ends hrest
      have hembedded := item.reader4 hends hpoint
      have hgroup : Ipv6.group (text ++ (behind ++ rest)) = some (g, behind ++ rest) :=
        group_eq_some_iff.mpr ⟨text, rfl, item, hends⟩
      have hmore := ih (Nat.le_of_succ_le_succ hroom)
      simp only [List.append_assoc, Ipv6.readGroups, separated_append, hembedded, ite_self, hgroup,
        hmore]
  | embedded first ip =>
      obtain ⟨room, rfl⟩ : ∃ more, room = more + 2 :=
        ⟨room - 2, by simp [Ipv4.groups] at hroom; omega⟩
      have hread : Ipv4.reader (ip.text.toList ++ rest) = some (ip, rest) :=
        Ipv4.reader_eq_some_iff.mpr ⟨rfl, hrest.ends.mono (by decide)⟩
      simp [Ipv6.readGroups, separated_append, hread]

/-- What is read as groups is a run of groups. -/
theorem readGroups_run (first : Bool) (room : Nat) (text : List Char) :
    ∃ read, read ++ (readGroups first room text).rest = text ∧
      Run first (readGroups first room text).endsInV4 read (readGroups first room text).groups ∧
      (readGroups first room text).groups.length ≤ room := by
  induction room generalizing first text with
  | zero => exact ⟨[], rfl, .nil first, Nat.le_refl 0⟩
  | succ room ih =>
      simp only [readGroups]
      split
      · rename_i ip rest hembedded
        split at hembedded
        · rename_i hroom
          obtain ⟨item, rfl, hread⟩ := separated_eq_some_iff.mp hembedded
          obtain ⟨rfl, -⟩ := Ipv4.reader_eq_some_iff.mp hread
          exact ⟨_, by rw [List.append_assoc], .embedded first ip, Nat.succ_le_succ hroom⟩
        · cases hembedded
      · split
        · exact ⟨[], rfl, .nil first, Nat.zero_le _⟩
        · rename_i g rest hgroup
          obtain ⟨item, rfl, hread⟩ := separated_eq_some_iff.mp hgroup
          obtain ⟨digits, rfl, hdigits, -⟩ := group_eq_some_iff.mp hread
          obtain ⟨read, hrest, run, hlength⟩ := ih false rest
          refine ⟨_, ?_, .group first hdigits run, Nat.succ_le_succ hlength⟩
          rw [List.append_assoc, List.append_assoc, hrest]

/-! ### Addresses -/

theorem ofGroups?_eq_some_iff {groups : List UInt16} {ip : Ipv6} :
    ofGroups? groups = some ip ↔ ip.groups = groups := by
  unfold ofGroups?
  constructor
  · intro h
    split at h
    · rw [← Option.some.inj h]
    · cases h
  · rintro rfl
    rw [dif_pos ip.length_eq]

/-- A spelling is read as the address that it spells. -/
theorem Literal.reader {text : List Char} {ip : Ipv6} (h : Literal text ip) {rest : List Char}
    (hrest : Boundary rest) : reader (text ++ rest) = some (ip, rest) := by
  cases h with
  | full run =>
      have hgroups : ofGroups? ip.groups = some ip := ofGroups?_eq_some_iff.mpr rfl
      simp [Ipv6.reader, run.readGroups hrest (Nat.le_of_eq ip.length_eq), ip.length_eq, hgroups]
  | @compressed embeds head tail heads tails _ front back room groups_eq =>
      have hheads : heads.length ≤ 8 := by omega
      have htails : tails.length ≤ 7 - heads.length := by omega
      have hfront := front.readGroups (boundary_compression (tail ++ rest)) hheads
      have hback := back.readGroups hrest htails
      have hgroups : ofGroups? (heads ++ List.replicate (8 - heads.length - tails.length) 0 ++
          tails) = some ip := ofGroups?_eq_some_iff.mpr groups_eq
      have hfew : heads.length ≠ 8 := by omega
      rw [List.append_assoc, List.cons_append, List.cons_append]
      simp only [Ipv6.reader, hfront, hfew, if_false, Bool.false_eq_true, Reader.char, if_true,
        Option.bind_eq_bind, Option.bind_some, hback, hgroups, Option.pure_def]

/-- Only spellings are read. -/
theorem literal_of_reader {text rest : List Char} {ip : Ipv6}
    (h : reader text = some (ip, rest)) : ∃ read, read ++ rest = text ∧ Literal read ip := by
  simp only [Ipv6.reader, Option.bind_eq_bind, Option.pure_def] at h
  obtain ⟨head, hhead, front, hheads⟩ := readGroups_run true 8 text
  generalize readGroups true 8 text = run at h hhead front hheads
  obtain ⟨heads, embeds, afterHead⟩ := run
  simp only at h hhead front hheads
  split at h
  · obtain ⟨address, haddress, hfound⟩ := Option.bind_eq_some_iff.mp h
    obtain ⟨rfl, rfl⟩ := Prod.mk.inj (Option.some.inj hfound)
    rw [← ofGroups?_eq_some_iff.mp haddress] at front
    exact ⟨head, hhead, .full front⟩
  rename_i hfew
  split at h
  · cases h
  rename_i hplain
  obtain rfl : embeds = false := Bool.eq_false_iff.mpr hplain
  simp only [Option.bind_eq_some_iff, Prod.exists] at h
  obtain ⟨_, afterFirst, hfirst, _, afterSecond, hsecond, address, haddress, hfound⟩ := h
  obtain ⟨tail, htail, back, htails⟩ := readGroups_run true (7 - heads.length) afterSecond
  generalize readGroups true (7 - heads.length) afterSecond = run
    at haddress hfound htail back htails
  obtain ⟨tails, embeds, afterTail⟩ := run
  simp only [Option.some.injEq, Prod.mk.injEq] at haddress hfound htail back htails
  obtain ⟨rfl, rfl⟩ := hfound
  refine ⟨head ++ ':' :: ':' :: tail, ?_,
    .compressed front back (by omega) (ofGroups?_eq_some_iff.mp haddress)⟩
  rw [← hhead, char_eq_some hfirst, char_eq_some hsecond, ← htail]
  simp only [List.append_assoc, List.cons_append]

theorem parse?_eq_some_iff {host : String} {ip : Ipv6} :
    parse? host = some ip ↔ Literal host.toList ip := by
  rw [parse?, whole?_eq_some_iff]
  constructor
  · intro h
    obtain ⟨read, hread, hliteral⟩ := literal_of_reader h
    rwa [← hread, List.append_nil]
  · intro h
    rw [← h.reader boundary_nil, List.append_nil]

/-! ### Characters -/

theorem Run.char_of_mem {first embeds : Bool} {text : List Char} {groups : List UInt16}
    (run : Run first embeds text groups) {c : Char} (h : c ∈ text) :
    (digit? 16 c).isSome ∨ c = ':' ∨ c = '.' := by
  have hseparator : ∀ {first : Bool}, c ∈ separator ':' first → c = ':' := by
    intro first hc
    cases first with
    | true => cases hc
    | false => exact List.mem_singleton.mp hc
  induction run with
  | nil first => cases h
  | group first item run ih =>
      rcases List.mem_append.mp h with hc | hc
      · exact .inr (.inl (hseparator hc))
      rcases List.mem_append.mp hc with hc | hc
      · exact .inl (item.isDigit c hc)
      · exact ih hc
  | embedded first ip =>
      rcases List.mem_append.mp h with hc | hc
      · exact .inr (.inl (hseparator hc))
      rcases Ipv4.char_of_mem hc with hc | hc
      · exact .inl (isSome_digit?_mono (by decide) hc)
      · exact .inr (.inr hc)

theorem Literal.char_of_mem {text : List Char} {ip : Ipv6} (h : Literal text ip) {c : Char}
    (hc : c ∈ text) : (digit? 16 c).isSome ∨ c = ':' ∨ c = '.' := by
  cases h with
  | full run => exact run.char_of_mem hc
  | compressed front back =>
      simp only [List.mem_append, List.mem_cons] at hc
      rcases hc with hc | rfl | rfl | hc
      · exact front.char_of_mem hc
      · exact .inr (.inl rfl)
      · exact .inr (.inl rfl)
      · exact back.char_of_mem hc

theorem Run.colon_mem {embeds : Bool} {text : List Char} {groups : List UInt16}
    (run : Run false embeds text groups) (h : groups ≠ []) : ':' ∈ text := by
  cases run with
  | nil => exact absurd rfl h
  | group => exact List.mem_cons_self
  | embedded => exact List.mem_cons_self

theorem Literal.colon_mem {text : List Char} {ip : Ipv6} (h : Literal text ip) : ':' ∈ text := by
  cases h with
  | full run =>
      have hlength := ip.length_eq
      generalize ip.groups = groups at run hlength
      cases run with
      | nil => cases hlength
      | embedded => cases hlength
      | group _ item run =>
          have hmore := run.colon_mem (by rintro rfl; cases hlength)
          simp [hmore]
  | compressed => simp

/-- No text spells an address of both versions: those of version 6 all have a colon. -/
theorem Literal.parse4 {host : String} {ip : Ipv6} (h : Literal host.toList ip) :
    Ipv4.parse? host = none := by
  rw [Option.eq_none_iff_forall_ne_some]
  intro ip4 hparse
  have hcolon := h.colon_mem
  rw [Ipv4.parse?_eq_some_iff.mp hparse] at hcolon
  exact absurd (Ipv4.char_of_mem hcolon) (by decide)

end Ipv6

/-! ## Either version -/

namespace IpAddress

/-- The spellings of an address of either version. -/
inductive Literal : List Char → IpAddress → Prop
  | v4 (ip : Ipv4) : Literal ip.text.toList (.v4 ip)
  | v6 {text : List Char} {ip : Ipv6} (h : Ipv6.Literal text ip) : Literal text (.v6 ip)

theorem literal_v4_iff {host : String} {ip : Ipv4} :
    Literal host.toList (.v4 ip) ↔ host = ip.text := by
  constructor
  · intro h
    generalize htext : host.toList = text at h
    cases h
    exact String.toList_inj.mp htext
  · rintro rfl
    exact .v4 ip

theorem literal_v6_iff {text : List Char} {ip : Ipv6} :
    Literal text (.v6 ip) ↔ Ipv6.Literal text ip :=
  ⟨fun | .v6 h => h, .v6⟩

theorem Literal.bracket_notMem {text : List Char} {ip : IpAddress} (h : Literal text ip) {c : Char}
    (hc : c = '[' ∨ c = ']') : c ∉ text := by
  intro hmem
  cases h with
  | v4 ip => rcases hc with rfl | rfl <;> exact absurd (Ipv4.char_of_mem hmem) (by decide)
  | v6 hliteral => rcases hc with rfl | rfl <;> exact absurd (hliteral.char_of_mem hmem) (by decide)

theorem parse?_eq_some_iff {host : String} {ip : IpAddress} :
    parse? host = some ip ↔ Literal host.toList ip := by
  unfold parse?
  constructor
  · intro h
    split at h
    · rename_i ip4 hparse
      obtain rfl := Option.some.inj h
      exact literal_v4_iff.mpr (Ipv4.parse?_eq_some_iff.mp hparse)
    · obtain ⟨ip6, hparse, rfl⟩ := Option.map_eq_some_iff.mp h
      exact .v6 (Ipv6.parse?_eq_some_iff.mp hparse)
  · intro h
    cases ip with
    | v4 ip4 => rw [Ipv4.parse?_eq_some_iff.mpr (literal_v4_iff.mp h)]
    | v6 ip6 =>
        have hliteral := literal_v6_iff.mp h
        rw [hliteral.parse4, Ipv6.parse?_eq_some_iff.mpr hliteral]
        rfl

/-- No text spells two addresses. -/
theorem Literal.unique {text : List Char} {ip other : IpAddress} (h : Literal text ip)
    (hother : Literal text other) : ip = other := by
  obtain ⟨host, rfl⟩ : ∃ host : String, host.toList = text := ⟨.ofList text, String.toList_ofList⟩
  have hparse := parse?_eq_some_iff.mpr h
  rw [parse?_eq_some_iff.mpr hother] at hparse
  exact (Option.some.inj hparse).symm

end IpAddress

end SlotServer
