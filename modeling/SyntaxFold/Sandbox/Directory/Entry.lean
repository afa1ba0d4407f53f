import SyntaxFold.Sandbox.Directory.Path
import SyntaxFold.Text.Bytes

/-!
# The system's files

What is found at a place: a file, a directory, a device or a program. Some of it is there wherever
a program runs: the devices, the directories below the root, and the programs of the system.
-/

namespace SyntaxFold.Sandbox

/-- What a file holds. Bytes that encode a text are kept as that text. -/
inductive Content where
  | text (text : String)
  | raw (bytes : Bytes)
  deriving DecidableEq, Repr

namespace Content

/-- The content with the given bytes. -/
def ofBytes (bytes : Bytes) : Content :=
  match bytes.toString? with
  | some decoded => text decoded
  | none => raw bytes

/-- The bytes of a content. -/
def bytes : Content → Bytes
  | text decoded => Bytes.ofString decoded
  | raw bytes => bytes

/-- The text of a content that is one. -/
def text? : Content → Option String
  | text decoded => some decoded
  | raw _ => none

end Content

/-- A file that is not kept anywhere. -/
inductive Device where
  /-- Reads as nothing and takes everything. -/
  | null
  /-- Takes nothing. -/
  | full
  /-- A stream of the program: 0 is its input, 1 its output, and 2 its errors. -/
  | stream (number : Nat)
  deriving DecidableEq, Repr

/-- What is found at a place. -/
inductive Entry where
  | file (content : Content) (executable : Bool)
  | folder
  | device (device : Device)
  /-- A program of the system, which can be run and holds no text. -/
  | program
  /-- A file that cannot be read. -/
  | closed (fault : FileFault)
  deriving DecidableEq, Repr

/-- The names of the shell. -/
def shellNames : List String := ["sh", "dash", "bash"]

/-- The names of the programs that are always there. -/
def programNames : List String :=
  shellNames ++ ["[", "basename", "cat", "chmod", "cp", "cut", "dirname", "echo", "env", "expr",
    "false", "grep", "head", "ls", "mkdir", "mv", "printf", "rev", "rm", "rmdir", "sed", "seq",
    "sleep", "sort", "tac", "tail", "tee", "test", "touch", "tr", "true", "uniq", "wc", "xargs"]

/-- The names of the directories below the root. -/
def rootFolders : List String :=
  ["bin", "boot", "dev", "etc", "home", "lib", "media", "mnt", "opt", "proc", "root", "run", "sbin",
    "srv", "sys", "tmp", "usr", "var"]

/-- What the system has under the given names, from the root down. -/
def systemFile? : List String → Option Entry
  | [name] => if rootFolders.contains name then some .folder else none
  | ["dev", "null"] => some (.device .null)
  | ["dev", "full"] => some (.device .full)
  | ["dev", "stdin"] => some (.device (.stream 0))
  | ["dev", "stdout"] => some (.device (.stream 1))
  | ["dev", "stderr"] => some (.device (.stream 2))
  | ["etc", "passwd"] => some (.file (.text "root:x:0:0:root:/root:/bin/sh\n") false)
  | ["usr", name] =>
    if ["bin", "include", "lib", "local", "sbin", "share", "src"].contains name then some .folder
    else none
  | ["var", name] =>
    if ["cache", "lib", "log", "run", "spool", "tmp"].contains name then some .folder else none
  | ["bin", name] | ["usr", "bin", name] =>
    if programNames.contains name then some .program else none
  | _ => none

end SyntaxFold.Sandbox
