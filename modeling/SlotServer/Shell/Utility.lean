import SlotServer.Shell.Utility.Blocks
import SlotServer.Shell.Utility.Columns
import SlotServer.Shell.Utility.Comparison
import SlotServer.Shell.Utility.Counting
import SlotServer.Shell.Utility.Digest
import SlotServer.Shell.Utility.Dump
import SlotServer.Shell.Utility.Editor
import SlotServer.Shell.Utility.Finding
import SlotServer.Shell.Utility.Machine
import SlotServer.Shell.Utility.Matching
import SlotServer.Shell.Utility.Numbers
import SlotServer.Shell.Utility.Order
import SlotServer.Shell.Utility.Pages
import SlotServer.Shell.Utility.Testing
import SlotServer.Shell.Utility.Translation
import SlotServer.Shell.Utility.Words

/-!
# Utilities

The programs that a shell finds on the machine.
-/

namespace SlotServer.Shell.Utility

def shells : List String := ["sh", "dash", "bash"]

def all : List (String × Program) :=
  [("true", only 0), ("false", only 1), ("echo", echo), ("printf", printf), ("test", test),
    ("[", bracket), ("yes", yes), ("pwd", pwd), ("printenv", printenv), ("basename", basename),
    ("dirname", dirname), ("seq", seq), ("factor", factor), ("expr", expr), ("cat", cat),
    ("tac", tac), ("rev", rev), ("head", head), ("tail", tail), ("nl", nl), ("fold", fold),
    ("expand", expand), ("tee", tee), ("wc", wc), ("cut", cut), ("paste", paste), ("join", join),
    ("sort", sort), ("uniq", uniq), ("comm", comm), ("tr", tr), ("grep", grep), ("egrep", egrep),
    ("fgrep", fgrep), ("sed", sed), ("mkdir", mkdir), ("touch", touch), ("mktemp", mktemp),
    ("truncate", truncate), ("chmod", chmod), ("chown", changeOwner false),
    ("chgrp", changeOwner true), ("ln", ln), ("link", link), ("rm", rm), ("rmdir", rmdir),
    ("unlink", unlink), ("cp", cp), ("mv", mv), ("install", install), ("ls", ls), ("stat", stat),
    ("readlink", readlink), ("realpath", realpath), ("find", find), ("env", env), ("nice", nice),
    ("nohup", nohup), ("setsid", setsid), ("timeout", timeout), ("xargs", xargs),
    ("sleep", sleep), ("id", id), ("whoami", whoami), ("groups", groups), ("logname", logname),
    ("users", users), ("who", users), ("tty", tty), ("uname", uname), ("arch", arch),
    ("hostname", hostname), ("nproc", nproc), ("sync", sync), ("date", date), ("od", od),
    ("base64", Lettered.program 6), ("base32", Lettered.program 5), ("cksum", cksum),
    ("sum", sum), ("which.debianutils", which), ("cmp", cmp), ("diff", diff), ("dd", dd), ("split", split), ("du", du)] ++
  Digest.kinds.map fun (name, kind) => (name, Digest.program kind)

end SlotServer.Shell.Utility
