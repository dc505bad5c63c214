/-!
# What a machine holds

The directories, the links, the programs and the files that a machine has before anybody works on
it, by their places: the names that lead to them from the root.
-/

namespace SlotServer.Machine

def directories : List (List String) :=
  [[], ["boot"], ["dev"], ["dev", "fd"], ["dev", "shm"], ["etc"], ["home"], ["media"], ["mnt"],
    ["opt"], ["proc"], ["root"], ["run"], ["srv"], ["sys"], ["tmp"], ["tmp", "work"], ["usr"],
    ["usr", "bin"], ["usr", "lib"], ["usr", "local"], ["usr", "local", "bin"],
    ["usr", "local", "sbin"], ["usr", "sbin"], ["usr", "share"], ["var"], ["var", "log"],
    ["var", "tmp"]]

/-- The links, with what they lead to. -/
def links : List (List String × String) :=
  [(["bin"], "usr/bin"), (["lib"], "usr/lib"), (["sbin"], "usr/sbin"),
    (["usr", "bin", "awk"], "mawk"), (["usr", "bin", "sh"], "dash"),
    (["usr", "bin", "which"], "which.debianutils")]

def programDirectory : List String := ["usr", "bin"]

def programs : List String :=
  ["[", "arch", "base32", "base64", "basename", "bash", "cat", "chgrp", "chmod", "chown", "cksum",
    "cmp", "comm", "cp", "cut", "dash", "date", "dd", "diff", "dirname", "du", "echo", "egrep",
    "env", "expand", "expr", "factor", "false", "fgrep", "find", "fold", "grep", "groups", "head",
    "hostname", "id", "install", "join", "link", "ln", "logname", "ls", "md5sum", "mkdir", "mktemp",
    "mv", "nice", "nl", "nohup", "nproc", "od", "paste", "printenv", "printf", "pwd", "readlink",
    "realpath", "rev", "rm", "rmdir", "sed", "seq", "setsid", "sha1sum", "sha224sum", "sha256sum",
    "sha384sum", "sha512sum", "sleep", "sort", "split", "stat", "sum", "sync", "tac", "tail", "tee",
    "test", "timeout", "touch", "tr", "true", "truncate", "tty", "uname", "uniq", "unlink", "users",
    "wc", "which.debianutils", "who", "whoami", "xargs", "yes"]

/-- The accounts, with what is known about them. -/
def accounts : String :=
  String.join
    (["root:x:0:0:root:/root:/bin/bash",
      "daemon:x:1:1:daemon:/usr/sbin:/usr/sbin/nologin",
      "bin:x:2:2:bin:/bin:/usr/sbin/nologin",
      "sys:x:3:3:sys:/dev:/usr/sbin/nologin",
      "sync:x:4:65534:sync:/bin:/bin/sync",
      "games:x:5:60:games:/usr/games:/usr/sbin/nologin",
      "man:x:6:12:man:/var/cache/man:/usr/sbin/nologin",
      "lp:x:7:7:lp:/var/spool/lpd:/usr/sbin/nologin",
      "mail:x:8:8:mail:/var/mail:/usr/sbin/nologin",
      "news:x:9:9:news:/var/spool/news:/usr/sbin/nologin",
      "uucp:x:10:10:uucp:/var/spool/uucp:/usr/sbin/nologin",
      "proxy:x:13:13:proxy:/bin:/usr/sbin/nologin",
      "www-data:x:33:33:www-data:/var/www:/usr/sbin/nologin",
      "backup:x:34:34:backup:/var/backups:/usr/sbin/nologin",
      "list:x:38:38:Mailing List Manager:/var/list:/usr/sbin/nologin",
      "irc:x:39:39:ircd:/run/ircd:/usr/sbin/nologin",
      "_apt:x:42:65534::/nonexistent:/usr/sbin/nologin",
      "nobody:x:65534:65534:nobody:/nonexistent:/usr/sbin/nologin"].map (· ++ "\n"))

def files : List (List String × String) :=
  [(["etc", "passwd"], accounts), (["etc", "hostname"], "localhost\n"),
    (["etc", "hosts"], "127.0.0.1\tlocalhost\n"),
    (["etc", "group"], "root:x:0:\ndaemon:x:1:\nbin:x:2:\nsys:x:3:\nadm:x:4:\ntty:x:5:\n")]

end SlotServer.Machine
