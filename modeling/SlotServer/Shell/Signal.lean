/-!
# Signals

The signals by number, how they are named in scripts, and what they do to a process that does not
provide for them. Number zero stands for the end of a shell.
-/

namespace SlotServer.Shell.Signal

/-- The names of the signals below the first one that has no use of its own. -/
def firstNames : List String :=
  ["EXIT", "HUP", "INT", "QUIT", "ILL", "TRAP", "ABRT", "BUS", "FPE", "KILL", "USR1", "SEGV",
    "USR2", "PIPE", "ALRM", "TERM", "16", "CHLD", "CONT", "STOP", "TSTP", "TTIN", "TTOU", "URG",
    "XCPU", "XFSZ", "VTALRM", "PROF", "WINCH", "IO", "PWR", "SYS", "32", "33"]

/-- The names of all signals, in the order of their numbers. -/
def names : List String :=
  firstNames ++ ["RTMIN"] ++ (List.range 15).map (fun i => s!"RTMIN+{i + 1}") ++
    (List.range 14).map (fun i => s!"RTMAX-{14 - i}") ++ ["RTMAX"]

/-- The number of a signal that is given by its name or its number; names count from `first` on. -/
def ofText? (first : Nat) (text : String) : Option Nat :=
  if !text.isEmpty && text.all Char.isDigit then text.toNat?.filter fun n => n < names.length
  else
    ((names.zipIdx).find? fun (name, i) =>
      first ≤ i && name = text.map Char.toUpper).map Prod.snd

def name (number : Nat) : String :=
  names.getD number (toString number)

/-- What is said of a process that a signal ended. -/
def descriptions : List String :=
  ["Unknown signal 0", "Hangup", "Interrupt", "Quit", "Illegal instruction",
    "Trace/breakpoint trap", "Aborted", "Bus error", "Floating point exception", "Killed",
    "User defined signal 1", "Segmentation fault", "User defined signal 2", "Broken pipe",
    "Alarm clock", "Terminated", "Stack fault", "Child exited", "Continued", "Stopped (signal)",
    "Stopped", "Stopped (tty input)", "Stopped (tty output)", "Urgent I/O condition",
    "CPU time limit exceeded", "File size limit exceeded", "Virtual timer expired",
    "Profiling timer expired", "Window changed", "I/O possible", "Power failure",
    "Bad system call"]

/-- What is said of a process that the signal of a number ended, if anything is. -/
def description? (number : Nat) : Option String :=
  if ["INT", "PIPE"].contains (name number) then none
  else some (descriptions.getD number s!"Real-time signal {number - 34}")

/-- Whether a process that does not provide for a signal takes no notice of it. -/
def isHarmless (number : Nat) : Bool :=
  ["EXIT", "CHLD", "CONT", "URG", "WINCH"].contains (name number)

/-- Whether no process can provide for a signal. -/
def isFinal (number : Nat) : Bool :=
  ["KILL", "STOP"].contains (name number)

end SlotServer.Shell.Signal
