import SlotServer.Capability.OnDisk
import SlotServer.Dispatch
import SlotServer.Proofs.Command.Writing
import SlotServer.Proofs.Disk.Files
import SlotServer.Proofs.Dispatch.Storage
import SlotServer.Proofs.Transfer.Chunks

/-!
# Storing and retrieving files

A server on a disk is a store of files: what is retrieved by a name is what was last stored by this
name, whatever else was stored, retrieved or ignored in the meantime.
-/

namespace SlotServer

/-- The chunks that a trace hands to the sink. -/
def Trace.retrieved (trace : Trace) : List Bytes :=
  trace.filterMap fun
    | .retrieved chunk => some chunk
    | _ => none

theorem retrieved_map_retrieved (chunks : List Bytes) :
    Trace.retrieved (chunks.map Action.retrieved) = chunks := by
  induction chunks with
  | nil => rfl
  | cons chunk chunks ih => exact congrArg (chunk :: ·) ih

/-- A record that stores or retrieves a file by its name, or that carries an unknown command. -/
inductive Request where
  | put (name : FileName) (blank : { c : Char // Text.isBlank c }) (body : String)
  | get (name : FileName)
  | other (record : { record : Bytes // (Command.parse record).kind = .unknown })

namespace Request

/-- The bytes of a record. -/
def record : Request → Bytes
  | put name blank body =>
    Record.written "PUT" " " (name.text ++ String.singleton blank.val ++ body) "\r\n"
  | get name => Record.written "GET" " " name.text "\r\n"
  | other record => record.val

/-- The name of the file that a record is about. -/
def name? : Request → Option FileName
  | put name _ _ | get name => some name
  | other _ => none

/-- The body that a record stores by a name. -/
def bodyFor? (name : FileName) : Request → Option String
  | put stored _ body => if stored = name then some body else none
  | _ => none

/-- Reads a record and executes its command on a disk. -/
def execute (request : Request) (disk : Disk) : Outcome Disk (Option String) :=
  dispatch Disk.capabilities (Command.parse request.record) disk

end Request

/-- The body that was last stored by a name. -/
def lastBody? (name : FileName) (requests : List Request) : Option String :=
  (requests.filterMap (Request.bodyFor? name)).getLast?

/-- What a file of this name keeps of a body: as much as fits into the argument of a command behind
the name and one blank. -/
def FileName.stored (name : FileName) (body : String) : Bytes :=
  Utf8.encode (body.toList.take (510 - name.text.length))

namespace Disk

/-- The disk after records were executed one after another. -/
def after (disk : Disk) (requests : List Request) : Disk :=
  requests.foldl (fun disk request => (request.execute disk).state) disk

/-- The chunks that retrieving a name hands to the sink. -/
def yielded (disk : Disk) (name : FileName) : List Bytes :=
  ((Request.get name).execute disk).trace.retrieved

end Disk

/-! ## Reading records -/

theorem length_le_encode (text : List Char) : text.length ≤ (Utf8.encode text).length := by
  induction text with
  | nil => exact Nat.le_refl 0
  | cons c text ih =>
      have hc : 0 < (String.utf8EncodeChar c).length := by
        rw [String.length_utf8EncodeChar]
        exact c.utf8Size_pos
      rw [Utf8.encode, List.flatMap_cons, List.length_append, List.length_cons]
      change text.length ≤ (text.flatMap String.utf8EncodeChar).length at ih
      omega

theorem FileName.isBlank_eq_false (name : FileName) :
    ∀ c ∈ name.text.toList, Text.isBlank c = false := by
  intro c hc
  simpa using List.all_eq_true.mp name.solid c hc

/-- A name has no more characters than bytes. -/
theorem FileName.length_text_le (name : FileName) : name.text.toList.length ≤ 255 :=
  Nat.le_trans (length_le_encode name.text.toList) name.length_le

namespace Request

variable (name : FileName) (blank : { c : Char // Text.isBlank c }) (body : String)

theorem solid_head? (rest : List Char) :
    ∀ c ∈ (name.text.toList ++ rest).head?, Text.isBlank c = false := by
  intro c hc
  have hne : name.text.toList ≠ [] := by simpa using name.ne_empty
  obtain ⟨first, more, htext⟩ := List.exists_cons_of_ne_nil hne
  rw [htext, List.cons_append, List.head?_cons, Option.mem_some_iff] at hc
  subst hc
  exact name.isBlank_eq_false first (by rw [htext]; exact List.mem_cons_self)

theorem parse_put : Command.parse (put name blank body).record =
    Command.ofParts CommandKind.store.keyword.toList
      (name.text.toList ++ blank.val :: body.toList) := by
  have hargument : (name.text ++ String.singleton blank.val ++ body).toList =
      name.text.toList ++ blank.val :: body.toList := by
    simp
  rw [← hargument]
  refine Command.parse_known .store (by decide) _ ?_
  rw [hargument]
  exact solid_head? name _

theorem parse_get : Command.parse (get name).record =
    Command.ofParts CommandKind.retrieve.keyword.toList name.text.toList := by
  refine Command.parse_known .retrieve (by decide) _ ?_
  simpa using solid_head? name []

/-- What is left of a body behind the name and one blank. -/
theorem splitBody?_put :
    Dispatch.splitBody? (Command.parse (put name blank body).record).argument =
      some (name.text, String.ofList (body.toList.take (510 - name.text.length))) :=
  Command.splitBody?_put (by simpa using name.ne_empty) name.isBlank_eq_false blank.property body
    (by rw [← String.length_toList]; exact Nat.le_trans name.length_text_le (by decide))

end Request

/-! ## Executing records -/

namespace Request

variable {disk : Disk} {names : List FileName} {name : FileName}

theorem kind_ofParts (kind : CommandKind) (argument : List Char) :
    (Command.ofParts kind.keyword.toList argument).kind = kind := by
  cases kind <;> rfl

theorem argument_get (name : FileName) :
    (Command.parse (get name).record).argument = name.text := by
  rw [← String.toList_inj, parse_get, Command.ofParts, toList_capped,
    List.take_of_length_le (Nat.le_trans name.length_text_le (by decide))]

/-- Retrieving hands all that a file holds to the sink, and changes nothing. -/
theorem execute_get (h : disk.Serves names) (hname : name ∈ names) :
    ((get name).execute disk).state = disk ∧
      disk.yielded name = match disk.contentsOf? name with
        | some contents => (Transfer.chunks (some Dispatch.chunkBytes) [.data contents]).chunks
        | none => [] := by
  have hkind : (Command.parse (get name).record).kind = .retrieve := by
    rw [parse_get, kind_ofParts]
  have hopen : Disk.capabilities.openFile name.text disk =
      (disk.openFile name.text, disk) := rfl
  simp only [Disk.yielded, execute, dispatch, Dispatch.execute, hkind, argument_get,
    Dispatch.retrieve, hopen, h.openFile_eq hname]
  refine ⟨trivial, ?_⟩
  cases disk.contentsOf? name with
  | none => rfl
  | some contents =>
      simp only [(Transfer.chunks_data _ contents).1, Option.map_none, Option.toList_none,
        List.append_nil]
      exact retrieved_map_retrieved _

/-- A body is written by one call, or by none if it is empty. -/
theorem fill_rewritten (h : disk.Serves names) (hname : name ∈ names)
    (hcontents : disk.contentsOf? name = some []) (body : Bytes) :
    Disk.Rewritten names disk name body
      (Dispatch.fill Disk.capabilities name.text {} body disk).state := by
  cases body with
  | nil => exact ⟨h, hcontents, fun _ _ _ => rfl⟩
  | cons b body => exact h.append hname hcontents (b :: body)

/-- Storing replaces what a file holds by what the file keeps of the body. -/
theorem execute_put (h : disk.Serves names) (hname : name ∈ names)
    (blank : { c : Char // Text.isBlank c }) (body : String) :
    Disk.Rewritten names disk name (name.stored body)
      ((put name blank body).execute disk).state := by
  have hkind : (Command.parse (put name blank body).record).kind = .store := by
    rw [parse_put, kind_ofParts]
  obtain ⟨created, hcreate, hcreated⟩ := h.createFile hname
  have hcreate' : Disk.capabilities.createFile name.text disk = (.ok {}, created) := hcreate
  simp only [execute, dispatch, Dispatch.execute, hkind, Dispatch.store, splitBody?_put, hcreate']
  have hbody : Utf8.encodeString (String.ofList (body.toList.take (510 - name.text.length))) =
      name.stored body := by
    rw [Utf8.encodeString, String.toList_ofList, FileName.stored]
  rw [hbody]
  exact hcreated.trans (fill_rewritten hcreated.serves hname hcreated.self _)

theorem execute_other (record : { record : Bytes // (Command.parse record).kind = .unknown })
    (disk : Disk) : ((other record).execute disk).state = disk := by
  have hkind : (Command.parse (other record).record).kind = .unknown := record.property
  simp only [execute, dispatch, Dispatch.execute, hkind]

/-- What one record makes of the files: those that it stores nothing in are left as they are. -/
theorem execute_contents (h : disk.Serves names) (request : Request)
    (hrequest : ∀ name ∈ request.name?, name ∈ names) :
    (request.execute disk).state.Serves names ∧
      ∀ name ∈ names, (request.execute disk).state.contentsOf? name =
        ((request.bodyFor? name).map name.stored).or (disk.contentsOf? name) := by
  cases request with
  | put stored blank body =>
      have hput := execute_put h (hrequest stored rfl) blank body
      refine ⟨hput.serves, fun name hname => ?_⟩
      by_cases hstored : stored = name
      · subst hstored
        rw [hput.self, bodyFor?, if_pos rfl]
        rfl
      · rw [hput.others name hname (Ne.symm hstored), bodyFor?, if_neg hstored]
        rfl
  | get retrieved =>
      rw [(execute_get h (hrequest retrieved rfl)).1]
      exact ⟨h, fun _ _ => rfl⟩
  | other record =>
      rw [execute_other]
      exact ⟨h, fun _ _ => rfl⟩

end Request

/-! ## Runs of records -/

theorem lastBody?_cons (name : FileName) (request : Request) (requests : List Request) :
    lastBody? name (request :: requests) =
      (lastBody? name requests).or (request.bodyFor? name) := by
  cases hbody : request.bodyFor? name with
  | none => simp [lastBody?, hbody]
  | some body =>
      rw [lastBody?, List.filterMap_cons_some hbody, List.getLast?_cons, lastBody?]
      cases (requests.filterMap (Request.bodyFor? name)).getLast? <;> rfl

/-- A record that stores nothing by a name does not change what was last stored by it. -/
theorem lastBody?_concat (name : FileName) (requests : List Request) {request : Request}
    (h : request.bodyFor? name = none) :
    lastBody? name (requests ++ [request]) = lastBody? name requests := by
  simp [lastBody?, h]

/-- What was last stored by a name does not depend on the order of records that store by different
names. -/
theorem lastBody?_swap {first second name : FileName} (hne : first ≠ second)
    (blank space : { c : Char // Text.isBlank c }) (body text : String)
    (earlier later : List Request) :
    lastBody? name (earlier ++ .put second space text :: .put first blank body :: later) =
      lastBody? name (earlier ++ .put first blank body :: .put second space text :: later) := by
  have hpair : [Request.put second space text, .put first blank body].filterMap
        (Request.bodyFor? name) =
      [Request.put first blank body, .put second space text].filterMap
        (Request.bodyFor? name) := by
    by_cases hfirst : first = name
    · have hsecond : second ≠ name := fun hsecond => hne (hfirst.trans hsecond.symm)
      simp [Request.bodyFor?, hfirst, hsecond]
    · by_cases hsecond : second = name <;> simp [Request.bodyFor?, hfirst, hsecond]
  have hsplit : ∀ a b : Request, (earlier ++ a :: b :: later).filterMap (Request.bodyFor? name) =
      earlier.filterMap (Request.bodyFor? name) ++
        ([a, b].filterMap (Request.bodyFor? name) ++
          later.filterMap (Request.bodyFor? name)) := by
    intro a b
    rw [← List.filterMap_append, ← List.filterMap_append]
    rfl
  rw [lastBody?, lastBody?, hsplit, hsplit, hpair]

namespace Disk

variable {disk : Disk} {names : List FileName} {name : FileName}

/-! ## Retrieving -/

theorem Serves.yielded_flatten (h : disk.Serves names) (hname : name ∈ names) :
    (disk.yielded name).flatten = (disk.contentsOf? name).getD [] := by
  rw [(Request.execute_get h hname).2]
  cases disk.contentsOf? name with
  | none => rfl
  | some contents => exact (Transfer.chunks_data _ contents).2

/-- What a name yields is decided by what its file holds. -/
theorem Serves.yielded_congr {other : Disk} (h : disk.Serves names) (hother : other.Serves names)
    (hname : name ∈ names) (hcontents : other.contentsOf? name = disk.contentsOf? name) :
    other.yielded name = disk.yielded name := by
  rw [(Request.execute_get h hname).2, (Request.execute_get hother hname).2, hcontents]

/-- After any records, a file holds what was last stored in it. -/
theorem Serves.after (h : disk.Serves names) {requests : List Request}
    (hrequests : ∀ request ∈ requests, ∀ name ∈ request.name?, name ∈ names) :
    (disk.after requests).Serves names ∧
      ∀ name ∈ names, (disk.after requests).contentsOf? name =
        ((lastBody? name requests).map name.stored).or (disk.contentsOf? name) := by
  induction requests generalizing disk with
  | nil => exact ⟨h, fun _ _ => rfl⟩
  | cons request requests ih =>
      obtain ⟨hserves, hcontents⟩ :=
        Request.execute_contents h request (hrequests request List.mem_cons_self)
      obtain ⟨hafter, hlast⟩ := ih hserves fun other hmem =>
        hrequests other (List.mem_cons_of_mem _ hmem)
      refine ⟨hafter, fun name hname => ?_⟩
      -- What the later records store comes before what this one stores.
      rw [lastBody?_cons, Option.map_or, Option.or_assoc, ← hcontents name hname]
      exact hlast name hname

/-- What is true of a store of files: retrieving a name gives what was last stored by it, or what
was there at first; records that store nothing by a name do not matter to it; and it does not matter
in which order bodies are stored by different names. -/
structure LastWriteWins (names : List FileName) (disk : Disk) (requests : List Request) :
    Prop where
  yielded_flatten : ∀ earlier name later, requests = earlier ++ .get name :: later →
    ((disk.after earlier).yielded name).flatten =
      (((lastBody? name earlier).map name.stored).or (disk.contentsOf? name)).getD []
  yielded_absent : ∀ earlier name later, requests = earlier ++ .get name :: later →
    lastBody? name earlier = none → disk.contentsOf? name = none →
      (disk.after earlier).yielded name = []
  unaffected : ∀ earlier request later, requests = earlier ++ request :: later →
    ∀ name ∈ names, request.bodyFor? name = none →
      (disk.after (earlier ++ [request])).yielded name = (disk.after earlier).yielded name
  commute : ∀ earlier first blank body second space text later,
    requests = earlier ++ .put first blank body :: .put second space text :: later →
      first ≠ second → ∀ name ∈ names,
        (disk.after (earlier ++ .put second space text :: .put first blank body :: later)).yielded
            name =
          (disk.after requests).yielded name

theorem Serves.lastWriteWins (hserves : disk.Serves names) {requests : List Request}
    (hrequests : ∀ request ∈ requests, ∀ name ∈ request.name?, name ∈ names) :
    LastWriteWins names disk requests := by
  have hpart : ∀ part : List Request, part ⊆ requests →
      ∀ request ∈ part, ∀ name ∈ request.name?, name ∈ names :=
    fun part hpart request hmem => hrequests request (hpart hmem)
  refine ⟨?_, ?_, ?_, ?_⟩
  · rintro earlier name later rfl
    have hname : name ∈ names := hrequests (.get name) (by simp) name rfl
    obtain ⟨hafter, hcontents⟩ := hserves.after (hpart earlier (List.subset_append_left _ _))
    rw [hafter.yielded_flatten hname, hcontents name hname]
  · rintro earlier name later rfl hlast habsent
    have hname : name ∈ names := hrequests (.get name) (by simp) name rfl
    obtain ⟨hafter, hcontents⟩ := hserves.after (hpart earlier (List.subset_append_left _ _))
    have hnone := hcontents name hname
    rw [hlast, habsent] at hnone
    rw [(Request.execute_get hafter hname).2, hnone]
    rfl
  · rintro earlier request later rfl name hname hbody
    obtain ⟨hbefore, hold⟩ := hserves.after (hpart earlier (List.subset_append_left _ _))
    obtain ⟨hafter, hnew⟩ := hserves.after (hpart (earlier ++ [request]) (by simp))
    refine hbefore.yielded_congr hafter hname ?_
    rw [hnew name hname, hold name hname, lastBody?_concat name earlier hbody]
  · rintro earlier first blank body second space text later rfl hne name hname
    obtain ⟨hordered, hcontents⟩ := hserves.after hrequests
    obtain ⟨hswapped, hother⟩ := hserves.after
      (hpart (earlier ++ .put second space text :: .put first blank body :: later) (by grind))
    refine hordered.yielded_congr hswapped hname ?_
    rw [hother name hname, hcontents name hname, lastBody?_swap hne]

/-- A server is a store of files in which the last write wins. -/
theorem after_lastWriteWins (disk : Disk) (names : List FileName) (requests : List Request)
    (hserves : disk.Serves names)
    (hrequests : ∀ request ∈ requests, ∀ name ∈ request.name?, name ∈ names) :
    LastWriteWins names disk requests :=
  hserves.lastWriteWins hrequests

/-- A body with a newline and a blank at its start is overwritten by an empty one, beside a file
that was there before. -/
theorem after_lastWriteWins_overwritten :
    let notes : FileName := ⟨"notes", by decide, by decide, by decide, by decide, by decide,
      by decide, by decide⟩
    let log : FileName := ⟨"a.log", by decide, by decide, by decide, by decide, by decide,
      by decide, by decide⟩
    let disk := Disk.empty.furnish [(log, [0x78, 0x0A])]
    let space : { c : Char // Text.isBlank c } := ⟨' ', by decide⟩
    let requests : List Request := [.put notes space " one\ntwo", .get notes, .get log,
      .put notes space "", .other ⟨[0x68, 0x69], by decide +kernel⟩, .get notes]
    disk.Serves [notes, log] ∧
      (∀ request ∈ requests, ∀ name ∈ request.name?, name ∈ [notes, log]) ∧
      LastWriteWins [notes, log] disk requests := by
  intro notes log disk space requests
  have hserves : disk.Serves [notes, log] := (serves_empty _).furnish _
  have hrequests : ∀ request ∈ requests, ∀ name ∈ request.name?, name ∈ [notes, log] := by
    simp [requests, Request.name?]
  exact ⟨hserves, hrequests, after_lastWriteWins disk _ requests hserves hrequests⟩

/-- Whatever files are put into an empty working directory at first, no two of them are one, so the
last write wins for all names: those of the records, and any others. -/
theorem furnished_lastWriteWins (files : List (FileName × Bytes)) (others : List FileName)
    (requests : List Request) :
    LastWriteWins (others ++ requests.filterMap Request.name?) (Disk.empty.furnish files)
      requests := by
  refine ((serves_empty _).furnish files).lastWriteWins fun request hmem name hname => ?_
  exact List.mem_append_right others (List.mem_filterMap.mpr ⟨request, hmem, hname⟩)

end Disk

end SlotServer
