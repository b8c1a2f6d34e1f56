import CommandScript.FileStore

/-!
# The files of a host

What is there before anything is put into a store: the usual directories at the top, the null
device, the lists of names, the programs, and a working directory. The programs are files without
anything in them; what they do is said elsewhere.
-/
namespace CommandScript.FileStore

/-- The directory of the programs. -/
def programDirectory : Location := ["usr".toList, "bin".toList]

/-- The names of the programs. -/
def programNames : List String := [
  "[", "arch", "awk", "base64", "basename", "bash", "cat", "chmod", "cksum", "cmp", "comm", "cp",
  "cut", "dash", "date", "diff", "dirname", "du", "echo", "egrep", "env", "expand", "expr",
  "factor", "false", "fgrep", "find", "fmt", "fold", "grep", "groups", "head", "hostname", "id",
  "join", "kill", "ln", "ls", "mawk", "md5sum", "mkdir", "mktemp", "mv", "nice", "nl", "nohup",
  "nproc", "numfmt", "od", "paste", "printenv", "printf", "pwd", "readlink", "realpath", "rev",
  "rm", "rmdir", "sed", "seq", "setsid", "sh", "sha1sum", "sha256sum", "shuf", "sleep", "sort",
  "split", "stat", "stdbuf", "sync", "tac", "tail", "tee", "test", "timeout", "touch", "tr",
  "true", "truncate", "tsort", "tty", "uname", "unexpand", "uniq", "unlink", "wc", "which",
  "whoami", "xargs", "yes"]

/-- The usual directories at the top. -/
def usualDirectories : List String :=
  ["dev", "etc", "home", "lib", "opt", "proc", "root", "sys", "tmp", "usr", "var"]

/-- What every host has: its directories, its null device, its lists of names and its programs. -/
def usual : FileStore :=
  let s := usualDirectories.foldl (fun s name ↦ s.putDirectories [name.toList]) (empty [])
  let s := s.put ["dev".toList, "null".toList] .device 0o666
  let s := ["group", "hostname", "hosts", "passwd"].foldl
    (fun s name ↦ s.putFile ["etc".toList, name.toList] []) s
  let s := programNames.foldl
    (fun s name ↦ s.putFile (programDirectory ++ [name.toList]) [] programMode) s
  s.put ["bin".toList] (.link "usr/bin".toList) linkMode

/-- The files of a host with a working directory. -/
def host (here : Location) : FileStore := { usual with here }.putDirectories here

end CommandScript.FileStore
