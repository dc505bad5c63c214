import SlotServer.Capability.Scripted
import SlotServer.Command.Record
import SlotServer.Dispatch
import SlotServer.Proofs.Text.Lossy
import SlotServer.Proofs.Transfer.Lines

/-!
# The output of a command line

A command line writes bytes, and its output is text: the bytes are cut into lines, and what is
malformed in a line is replaced within this line. No character stretches across a newline, so the
lines are together what the bytes are decoded to at once, and where the reads of the pipe end does
not show.
-/

namespace SlotServer

open Transfer

/-! ## Lines as text -/

/-- Lines that are decoded one by one are together what all of their bytes are decoded to. -/
theorem Transfer.Lined.decode_eq {bytes : Bytes} {lines : List Bytes} (h : Lined bytes lines) :
    lines.flatMap Utf8.decode = Utf8.decode bytes := by
  rw [← h.flatten_eq]
  refine (Utf8.decode_flatten ?_).symm
  intro line hline
  exact ⟨newline, h.complete line hline, by decide⟩

/-- A line ends with a newline as text if it does as bytes. -/
theorem Utf8.getLast?_decode {line : Bytes} (h : line.getLast? = some newline) :
    (decode line).getLast? = some '\n' := by
  obtain ⟨front, rfl⟩ := List.getLast?_eq_some_iff.mp h
  rw [decode_append_ascii (by decide), List.getLast?_append]
  simp [decode, newline]

/-- The text of a line holds no newline but at its end, as the line itself. -/
theorem Utf8.newline_notMem_dropLast_decode {line : Bytes} (h : newline ∉ line.dropLast) :
    '\n' ∉ (decode line).dropLast := by
  by_cases hlast : line.getLast? = some newline
  · obtain ⟨front, rfl⟩ := List.getLast?_eq_some_iff.mp hlast
    rw [List.dropLast_concat] at h
    have hdecode : decode (front ++ [newline]) = decode front ++ ['\n'] := by
      rw [decode_append_ascii (by decide), decode]
      rfl
    rw [hdecode, List.dropLast_concat]
    exact newline_notMem_decode h
  · have hnone : newline ∉ line := fun hmem =>
      h (List.mem_dropLast_of_mem_of_ne_getLast? hmem (Ne.symm hlast))
    exact fun hmem => newline_notMem_decode hnone (List.dropLast_subset _ hmem)

/-! ## The lines of an output -/

/-- What the lines of an output have to be: the output cut after its newlines, with every line
decoded on its own, and all of them together the text of the output. Whoever asks for one line after
another gets these lines, and nothing once there was nothing. -/
structure OutputSpec (output : Bytes) (pipe : ReadScript) : Prop where
  cut : ∃ lines, Lined output lines ∧ outputLines pipe = lines.map Utf8.decodeString
  join_eq : String.join (outputLines pipe) = Utf8.decodeString output
  nonempty : ∀ line ∈ outputLines pipe, line ≠ ""
  newline_last : ∀ line ∈ outputLines pipe, '\n' ∉ line.toList.dropLast
  complete : ∀ line ∈ (outputLines pipe).dropLast, line.toList.getLast? = some '\n'
  items : ∀ size times, 0 < size →
    (LineReader.ofPipe pipe).item? size times = (outputLines pipe)[times]?
  finished : ∀ size times later, 0 < size → times ≤ later →
    (LineReader.ofPipe pipe).item? size times = none →
    (LineReader.ofPipe pipe).item? size later = none

theorem Transfer.HandsOut.outputSpec {output : Bytes} {pipe : ReadScript}
    (h : HandsOut pipe output) : OutputSpec output pipe := by
  have hlined := h.lined
  have hitems : ∀ size times, 0 < size →
      (LineReader.ofPipe pipe).item? size times = (outputLines pipe)[times]? := by
    intro size times hsize
    rw [LineReader.item?_eq hsize, LineReader.remaining_ofPipe]
  refine ⟨⟨_, hlined, rfl⟩, ?_, ?_, ?_, ?_, hitems, ?_⟩
  · rw [← String.toList_inj, String.toList_join, outputLines, List.flatMap_map]
    simpa [Utf8.decodeString] using hlined.decode_eq
  · intro text htext
    obtain ⟨line, hline, rfl⟩ := List.mem_map.mp htext
    cases hbytes : line with
    | nil => exact absurd hbytes (hlined.nonempty line hline)
    | cons b rest => simp [Utf8.decodeString, Utf8.decode_cons]
  · intro text htext
    obtain ⟨line, hline, rfl⟩ := List.mem_map.mp htext
    simpa [Utf8.decodeString] using
      Utf8.newline_notMem_dropLast_decode (hlined.newline_last line hline)
  · intro text htext
    rw [outputLines, ← List.map_dropLast] at htext
    obtain ⟨line, hline, rfl⟩ := List.mem_map.mp htext
    simpa [Utf8.decodeString] using Utf8.getLast?_decode (hlined.complete line hline)
  · intro size times later hsize hle hnone
    rw [hitems size times hsize, List.getElem?_eq_none_iff] at hnone
    rw [hitems size later hsize]
    exact List.getElem?_eq_none (Nat.le_trans hnone hle)

/-! ## Run commands -/

/-- The value of a run command is made of the lines that the machine hands on. -/
theorem dispatch_run_lines {σ : Type} {host : Capabilities σ} {command : Command} {state : σ}
    {lines : List String} (hkind : command.kind = .run)
    (hrun : (host.run command.argument state).1 = .ok lines) :
    (dispatch host command state).value = some (String.join lines) := by
  simp [dispatch, Dispatch.execute, Dispatch.run, hkind, hrun]

/-- A shell that was started hands its output on through a pipe that gives it at once. -/
theorem Disk.runCommandLine_eq {commandLine : String} (h : '\x00' ∉ commandLine.toList)
    (disk : Disk) :
    (Disk.runCommandLine commandLine disk).1 =
      .ok (outputLines [.data (Shell.run commandLine disk).1]) := by
  have hnul : commandLine.toList.contains '\x00' = false := by simpa using h
  unfold Disk.runCommandLine
  rw [hnul]
  -- The output is a variable from here on, so that nothing runs the shell.
  cases Shell.run commandLine disk with
  | mk output after => rfl

/-- Data that one call reads hands itself out. -/
theorem Transfer.handsOut_data (bytes : Bytes) : HandsOut [.data bytes] bytes := by
  cases bytes with
  | nil => exact .ended .exhausted
  | cons b bytes => simpa using HandsOut.data (List.cons_ne_nil b bytes) .exhausted

/-- The output of a command line is decoded line by line to what it is decoded to as a whole, in
whatever parts the pipe hands it out, and this text is the value of the run command, also where a
shell runs it on a disk. -/
theorem dispatch_run_decoded {output : Bytes} {pipe : ReadScript} (h : HandsOut pipe output) :
    OutputSpec output pipe ∧
    (∀ {σ : Type} (host : Capabilities σ) (command : Command) (state : σ), command.kind = .run →
      (host.run command.argument state).1 = .ok (outputLines pipe) →
      (dispatch host command state).value = some (Utf8.decodeString output)) ∧
    ∀ (command : Command) (disk : Disk), command.kind = .run →
      '\x00' ∉ command.argument.toList → (Shell.run command.argument disk).1 = output →
      (dispatch Disk.capabilities command disk).value = some (Utf8.decodeString output) := by
  refine ⟨h.outputSpec, ?_, ?_⟩
  · intro σ host command state hkind hrun
    rw [dispatch_run_lines hkind hrun, h.outputSpec.join_eq]
  · rintro command disk hkind hargument rfl
    rw [dispatch_run_lines hkind (Disk.runCommandLine_eq hargument disk),
      (handsOut_data _).outputSpec.join_eq]

/-- A character that a newline cuts off and one that the end cuts off are replaced once each, and
the read calls end inside of both. -/
theorem dispatch_run_decoded_malformed :
    let output : Bytes := [0xE2, 0x82, 0x0A, 0xF0, 0x9F, 0x98]
    let pipe : ReadScript :=
      [.data [0xE2], .fault (.bare .interrupted), .data [0x82, 0x0A, 0xF0], .data [0x9F, 0x98],
        .data []]
    let host : Capabilities Unit := Script.capabilities ⟨[], .lines (outputLines pipe)⟩
    let command := Command.parse [0x45, 0x58, 0x45, 0x43, 0x20, 0x78]
    HandsOut pipe output ∧ command.kind = .run ∧ outputLines pipe = ["\uFFFD\n", "\uFFFD"] ∧
      (dispatch host command ()).value = some "\uFFFD\n\uFFFD" := by
  intro output pipe host command
  have hout : HandsOut pipe output :=
    .data (by simp) (.interrupted rfl (.data (by simp) (.data (by simp) (.ended .exhausted))))
  have hkind : command.kind = .run := by decide +kernel
  have hlines : outputLines pipe = ["\uFFFD\n", "\uFFFD"] := by decide +kernel
  have htext : Utf8.decodeString output = "\uFFFD\n\uFFFD" := by decide +kernel
  refine ⟨hout, hkind, hlines, ?_⟩
  rw [(dispatch_run_decoded hout).2.1 host command () hkind rfl, htext]

end SlotServer
