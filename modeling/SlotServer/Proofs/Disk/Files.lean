import SlotServer.Disk
import SlotServer.Text.Blank

/-!
# Files in the working directory

A name without slashes leads to a place in the working directory. Creating, writing and reading a
file by its name concern this place and the file at it, and leave the files of other names alone.
-/

namespace SlotServer

/-- A name of one word that a file in the working directory can have. -/
structure FileName where
  text : String
  ne_empty : text ≠ ""
  solid : text.toList.all fun c => !Text.isBlank c
  slash_notMem : '/' ∉ text.toList
  nul_notMem : '\x00' ∉ text.toList
  ne_dot : text ≠ "."
  ne_dots : text ≠ ".."
  length_le : (Utf8.encodeString text).length ≤ Disk.maxNameBytes
  deriving DecidableEq

theorem FileName.ext_text {name other : FileName} (h : name.text = other.text) : name = other := by
  cases name; cases other; simp_all

namespace Disk

/-! ## Places and files -/

section Places

variable (disk : Disk)

theorem node?_put (place other : List String) (node : DiskNode) :
    (disk.put place node).node? other =
      if other = place then some node else disk.node? other := by
  have hmap : ∀ nodes : List (List String × DiskNode),
      (nodes.map fun entry => (entry.1, if entry.1 = place then node else entry.2)).lookup other =
        if other = place then (nodes.lookup other).map fun _ => node else nodes.lookup other := by
    intro nodes
    induction nodes with
    | nil => simp
    | cons entry nodes ih =>
        obtain ⟨p, old⟩ := entry
        by_cases hp : other = p
        · subst hp
          by_cases hplace : other = place <;> simp [hplace]
        · simp [List.lookup_cons, beq_eq_false_iff_ne.mpr hp, ih]
  rw [put]
  split
  next hsome =>
    obtain ⟨old, hold⟩ := Option.isSome_iff_exists.mp hsome
    refine (hmap disk.nodes).trans ?_
    by_cases hplace : other = place
    · subst hplace
      rw [node?] at hold
      simp [hold]
    · simp [hplace, node?]
  next hnone =>
    rw [Bool.not_eq_true, Option.isSome_eq_false_iff, Option.isNone_iff_eq_none] at hnone
    by_cases hplace : other = place
    · subst hplace
      rw [node?] at hnone
      simp [node?, List.lookup_append, hnone]
    · simp [node?, List.lookup_append, hplace, List.lookup_cons, beq_eq_false_iff_ne.mpr hplace]

theorem workingDirectory_put (place : List String) (node : DiskNode) :
    (disk.put place node).workingDirectory = disk.workingDirectory := by
  unfold put
  split <;> rfl

theorem node?_putFile (place other : List String) (contents : Bytes) (mode : Nat) :
    (disk.putFile place contents mode).node? other =
      if other = place then some (.file disk.files.size) else disk.node? other :=
  disk.node?_put place other _

theorem size_writeFile (number : Nat) (change : Bytes → Bytes) :
    (disk.writeFile number change).files.size = disk.files.size := by
  simp [writeFile]

theorem size_putFile (place : List String) (contents : Bytes) (mode : Nat) :
    (disk.putFile place contents mode).files.size = disk.files.size + 1 := by
  simp [putFile]

theorem fileContents_writeFile (number other : Nat) (change : Bytes → Bytes)
    (hnumber : number < disk.files.size) :
    (disk.writeFile number change).fileContents other =
      if other = number then change (disk.fileContents other) else disk.fileContents other := by
  by_cases hother : other = number
  · subst hother
    simp [writeFile, fileContents, file?, Array.getElem_modify, hnumber]
  · simp [writeFile, fileContents, file?, Array.getElem?_modify, hother, Ne.symm hother]

theorem fileContents_putFile (place : List String) (contents : Bytes) (mode number : Nat)
    (hnumber : number ≤ disk.files.size) :
    (disk.putFile place contents mode).fileContents number =
      if number = disk.files.size then contents else disk.fileContents number := by
  by_cases hlast : number = disk.files.size
  · subst hlast
    simp [putFile, fileContents, file?]
  · have hlt : number < disk.files.size := by omega
    simp [putFile, fileContents, file?, Array.getElem?_push_lt, hlast, hlt]

/-- The place of a file in the working directory. -/
def placeOf (name : FileName) : List String :=
  disk.workingDirectory ++ [name.text]

theorem placeOf_eq_iff (name other : FileName) :
    disk.placeOf name = disk.placeOf other ↔ name = other := by
  rw [placeOf, placeOf, List.append_cancel_left_eq, List.singleton_inj]
  exact ⟨FileName.ext_text, fun h => h ▸ rfl⟩

theorem placeOf_putFile (place : List String) (contents : Bytes) (mode : Nat) (name : FileName) :
    (disk.putFile place contents mode).placeOf name = disk.placeOf name := by
  rw [placeOf, putFile, workingDirectory_put, placeOf]

theorem workingDirectory_ne_placeOf (name : FileName) :
    disk.workingDirectory ≠ disk.placeOf name := by
  simp [placeOf]

theorem splitAt_of_notMem {text : List Char} (h : '/' ∉ text) :
    Text.splitAt '/' text = [text] := by
  induction text with
  | nil => rfl
  | cons c text ih =>
      rw [List.mem_cons, not_or] at h
      rw [Text.splitAt, if_neg (Ne.symm h.1), ih h.2]

theorem namesOf_text (name : FileName) : namesOf name.text = [name.text] := by
  have hne : name.text.toList ≠ [] := by simpa using name.ne_empty
  simp [namesOf, splitAt_of_notMem name.slash_notMem, hne]

theorem maxNameBytes_le : maxNameBytes ≤ maxPathBytes := by
  decide

/-- Names lead into the working directory, unless they are those of links. -/
theorem resolve_text (hdirectory : disk.node? disk.workingDirectory = some .directory)
    (name : FileName) (hlink : ∀ target, disk.node? (disk.placeOf name) ≠ some (.link target)) :
    disk.resolve name.text = .ok ⟨disk.placeOf name, false⟩ := by
  have hlength := name.length_le
  have hshort : ¬maxPathBytes < (Utf8.encodeString name.text).length := by
    have hle := maxNameBytes_le
    omega
  have hrelative : isAbsolute name.text = false := by
    have hhead : name.text.toList.head? ≠ some '/' :=
      fun h => name.slash_notMem (List.mem_of_head? h)
    simpa [isAbsolute] using hhead
  have hfile : name.text.toList.getLast? ≠ some '/' :=
    fun h => name.slash_notMem (List.mem_of_getLast? h)
  have hfollow : disk.follow disk.workingDirectory name.text = .ok (disk.placeOf name) := by
    simp [follow, hdirectory, name.ne_dot, name.ne_dots, Nat.not_lt.mpr hlength, placeOf]
  have hall : disk.followAll true maxLinks disk.workingDirectory [name.text] =
      .ok (disk.placeOf name) := by
    -- There is no link at the place, so nothing more is followed.
    simp only [followAll, hfollow]
  have hempty : name.text.isEmpty = false := by simpa using name.ne_empty
  simp [resolve, name.nul_notMem, hempty, hshort, hrelative, namesOf_text, hall, hfile]

end Places

/-! ## Contents -/

/-- What the file of a name holds, if there is such a file in the working directory. -/
def contentsOf? (disk : Disk) (name : FileName) : Option Bytes :=
  match disk.node? (disk.placeOf name) with
  | some (.file number) => some (disk.fileContents number)
  | _ => none

/-- A disk whose working directory has for each of these names a file of its own or nothing. -/
structure Serves (names : List FileName) (disk : Disk) : Prop where
  directory : disk.node? disk.workingDirectory = some .directory
  plain : ∀ name ∈ names, disk.node? (disk.placeOf name) = none ∨
    ∃ number < disk.files.size, disk.node? (disk.placeOf name) = some (.file number)
  apart : ∀ name ∈ names, ∀ other ∈ names, ∀ number,
    disk.node? (disk.placeOf name) = some (.file number) →
      disk.node? (disk.placeOf other) = some (.file number) → name = other

/-- One file got new contents, and the others are as they were. -/
structure Rewritten (names : List FileName) (disk : Disk) (name : FileName) (contents : Bytes)
    (next : Disk) : Prop where
  serves : next.Serves names
  self : next.contentsOf? name = some contents
  others : ∀ other ∈ names, other ≠ name → next.contentsOf? other = disk.contentsOf? other

variable {disk next : Disk} {names : List FileName} {name : FileName} {number : Nat}

theorem Rewritten.trans {last : Disk} {first second : Bytes}
    (h : Rewritten names disk name first next) (hlast : Rewritten names next name second last) :
    Rewritten names disk name second last where
  serves := hlast.serves
  self := hlast.self
  others other hmem hne := (hlast.others other hmem hne).trans (h.others other hmem hne)

namespace Serves

theorem cases (h : disk.Serves names) (hname : name ∈ names) :
    disk.node? (disk.placeOf name) = none ∧ disk.contentsOf? name = none ∨
    ∃ number < disk.files.size, disk.node? (disk.placeOf name) = some (.file number) ∧
      disk.contentsOf? name = some (disk.fileContents number) := by
  rcases h.plain name hname with hnone | ⟨number, hlt, hfile⟩
  · exact .inl ⟨hnone, by simp [contentsOf?, hnone]⟩
  · exact .inr ⟨number, hlt, hfile, by simp [contentsOf?, hfile]⟩

theorem resolve_eq (h : disk.Serves names) (hname : name ∈ names) :
    disk.resolve name.text = .ok ⟨disk.placeOf name, false⟩ := by
  refine disk.resolve_text h.directory name fun target htarget => ?_
  rcases h.plain name hname with hnone | ⟨number, -, hfile⟩
  · rw [hnone] at htarget
    cases htarget
  · rw [hfile] at htarget
    cases htarget

/-- Changing the file of a name changes no other. -/
theorem writeFile (h : disk.Serves names) (hname : name ∈ names)
    (hnumber : number < disk.files.size)
    (hfile : disk.node? (disk.placeOf name) = some (.file number)) (change : Bytes → Bytes) :
    Rewritten names disk name (change (disk.fileContents number))
      (disk.writeFile number change) := by
  have hnode : ∀ name, (disk.writeFile number change).node?
      ((disk.writeFile number change).placeOf name) = disk.node? (disk.placeOf name) :=
    fun _ => rfl
  refine ⟨⟨h.directory, ?_, h.apart⟩, ?_, ?_⟩
  · intro other hmem
    rw [hnode, size_writeFile]
    exact h.plain other hmem
  · rw [contentsOf?, hnode, hfile]
    simp only [fileContents_writeFile disk number number change hnumber, if_pos]
  · intro other hmem hne
    rw [contentsOf?, hnode]
    rcases h.cases hmem with ⟨hnone, hcontents⟩ | ⟨second, hlt, hsecond, hcontents⟩
    · simp only [hnone, hcontents]
    · have hapart : second ≠ number := by
        rintro rfl
        exact hne (h.apart other hmem name hname second hsecond hfile)
      simp only [hsecond, hcontents, fileContents_writeFile disk number second change hnumber,
        if_neg hapart]

/-- A new file at the place of a name is in nobody's way. -/
theorem putFile (h : disk.Serves names) (name : FileName) (contents : Bytes) (mode : Nat) :
    Rewritten names disk name contents (disk.putFile (disk.placeOf name) contents mode) := by
  have hnode : ∀ other, (disk.putFile (disk.placeOf name) contents mode).node?
      ((disk.putFile (disk.placeOf name) contents mode).placeOf other) =
        if other = name then some (.file disk.files.size)
        else disk.node? (disk.placeOf other) := by
    intro other
    simp only [placeOf_putFile, node?_putFile, placeOf_eq_iff]
  have hold : ∀ other ∈ names, disk.node? (disk.placeOf other) ≠ some (.file disk.files.size) := by
    intro other hmem hfile
    rcases h.plain other hmem with hnone | ⟨number, hlt, hnumber⟩
    · rw [hfile] at hnone
      cases hnone
    · rw [hfile] at hnumber
      cases hnumber
      exact Nat.lt_irrefl _ hlt
  refine ⟨⟨?_, ?_, ?_⟩, ?_, ?_⟩
  · rw [node?_putFile, Disk.putFile, workingDirectory_put,
      if_neg (disk.workingDirectory_ne_placeOf name)]
    exact h.directory
  · intro other hmem
    rw [hnode, size_putFile]
    split
    · exact .inr ⟨disk.files.size, Nat.lt_succ_self _, rfl⟩
    · rcases h.plain other hmem with hnone | ⟨number, hlt, hfile⟩
      · exact .inl hnone
      · exact .inr ⟨number, Nat.lt_succ_of_lt hlt, hfile⟩
  · intro first hfirst second hsecond number hnodeFirst hnodeSecond
    rw [hnode] at hnodeFirst hnodeSecond
    split at hnodeFirst <;> split at hnodeSecond
    next hf hs => exact hf.trans hs.symm
    next => exact absurd (hnodeSecond.trans hnodeFirst.symm) (hold second hsecond)
    next => exact absurd (hnodeFirst.trans hnodeSecond.symm) (hold first hfirst)
    next => exact h.apart first hfirst second hsecond number hnodeFirst hnodeSecond
  · rw [contentsOf?, hnode, if_pos rfl]
    simp only [fileContents_putFile disk _ contents mode _ (Nat.le_refl _), if_pos]
  · intro other hmem hne
    rw [contentsOf?, hnode, if_neg hne]
    rcases h.cases hmem with ⟨hnone, hcontents⟩ | ⟨number, hlt, hfile, hcontents⟩
    · simp only [hnone, hcontents]
    · simp only [hfile, hcontents, if_neg (Nat.ne_of_lt hlt),
        fileContents_putFile disk _ contents mode _ (Nat.le_of_lt hlt)]

/-! ## Reading and writing by name -/

theorem openFile_eq (h : disk.Serves names) (hname : name ∈ names) :
    disk.openFile name.text =
      match disk.contentsOf? name with
      | some contents => .ok [.data contents]
      | none => .error (.system .noSuchEntry) := by
  rw [openFile, h.resolve_eq hname]
  rcases h.cases hname with ⟨hnone, hcontents⟩ | ⟨number, hlt, hfile, hcontents⟩
  · simp only [hnone, hcontents]
  · simp only [hfile, hcontents]
    rfl

/-- Creating a file leaves it empty, whether it was there or not. -/
theorem createFile (h : disk.Serves names) (hname : name ∈ names) :
    ∃ next, disk.createFile name.text = (.ok {}, next) ∧ Rewritten names disk name [] next := by
  rw [Disk.createFile, h.resolve_eq hname]
  rcases h.cases hname with ⟨hnone, hcontents⟩ | ⟨number, hlt, hfile, hcontents⟩
  · simp only [hnone]
    exact ⟨_, rfl, h.putFile name [] defaultMode⟩
  · simp only [hfile]
    exact ⟨_, rfl, h.writeFile hname hlt hfile fun _ => []⟩

theorem append (h : disk.Serves names) (hname : name ∈ names) {contents : Bytes}
    (hcontents : disk.contentsOf? name = some contents) (bytes : Bytes) :
    Rewritten names disk name (contents ++ bytes) (disk.append name.text bytes) := by
  rw [Disk.append, h.resolve_eq hname]
  rcases h.cases hname with ⟨hnone, habsent⟩ | ⟨number, hlt, hfile, hold⟩
  · rw [hcontents] at habsent
    cases habsent
  · obtain rfl : contents = disk.fileContents number :=
      Option.some.inj (hcontents.symm.trans hold)
    simp only [hfile]
    exact h.writeFile hname hlt hfile (· ++ bytes)

end Serves

/-! ## Working directories with files in them -/

theorem node?_empty (name : FileName) : Disk.empty.node? (Disk.empty.placeOf name) = none := by
  have hdirectory : ∀ entry ∈ Disk.empty.nodes,
      entry.1.take 2 = Disk.empty.workingDirectory → entry.1 = Disk.empty.workingDirectory := by
    decide +kernel
  refine List.lookup_eq_none_iff.mpr fun entry hentry => ?_
  rw [bne_iff_ne]
  intro heq
  have hplace := hdirectory entry hentry (by rw [← heq]; rfl)
  exact Disk.empty.workingDirectory_ne_placeOf name (hplace.symm.trans heq.symm)

theorem serves_empty (names : List FileName) : Disk.empty.Serves names where
  directory := by decide +kernel
  plain name _ := .inl (node?_empty name)
  apart := by
    intro name _ other _ number hfile
    rw [node?_empty] at hfile
    cases hfile

/-- The disk with files put into its working directory, one after another. -/
def furnish (disk : Disk) (files : List (FileName × Bytes)) : Disk :=
  files.foldl (fun disk file => disk.putFile (disk.placeOf file.1) file.2) disk

theorem Serves.furnish (h : disk.Serves names) (files : List (FileName × Bytes)) :
    (disk.furnish files).Serves names := by
  induction files generalizing disk with
  | nil => exact h
  | cons file files ih => exact ih (h.putFile file.1 file.2 defaultMode).serves

end Disk

end SlotServer
