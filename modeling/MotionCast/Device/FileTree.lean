/-! The part of a file system that opening a device meets: what paths lead to, and the reasons for
which a path cannot be opened. -/

namespace MotionCast

/-- What a path leads to. -/
inductive FileNode where
  | directory
  /-- A file that holds data. -/
  | file
  | device
  /-- The device of a terminal, for a program that has none. -/
  | terminal
deriving DecidableEq, Repr

/-- Why a path cannot be opened. -/
inductive FileError where
  | missing
  | notADirectory
  | isADirectory
  | noDevice
  | tooLong
  | badName
deriving DecidableEq, Repr

/-- The system's text for an error. -/
def FileError.message : FileError → String
  | missing => "No such file or directory (os error 2)"
  | notADirectory => "Not a directory (os error 20)"
  | isADirectory => "Is a directory (os error 21)"
  | noDevice => "No such device or address (os error 6)"
  | tooLong => "File name too long (os error 36)"
  | badName => "file name contained an unexpected NUL byte"

/-- The known nodes by the names that lead to them from the root, which is a directory. -/
structure FileTree where
  nodes : List (List String × FileNode)
  /-- Where relative paths start. -/
  here : List String

namespace FileTree

/-- The most bytes of a path. -/
def longestPath : Nat := 4095

/-- The most bytes of one name. -/
def longestName : Nat := 255

/-- Nodes of one sort at a place. -/
def entries (place : List String) (node : FileNode) (names : List String) :
    List (List String × FileNode) :=
  names.map fun name => (place ++ [name], node)

/-- The nodes that every ordinary system has, and an empty directory to start from. A link stands
for what it leads to. -/
def ordinary : FileTree where
  nodes := List.flatten [
    entries [] .directory ["bin", "boot", "dev", "etc", "home", "lib", "lib64", "media", "mnt",
      "opt", "proc", "root", "run", "sbin", "srv", "sys", "tmp", "usr", "var"],
    entries ["bin"] .file ["bash", "cat", "ls", "sh"],
    entries ["dev"] .device ["full", "null", "ptmx", "random", "stderr", "stdin", "stdout",
      "urandom", "zero"],
    entries ["dev"] .terminal ["tty"],
    entries ["dev"] .directory ["fd", "pts", "shm"],
    entries ["dev", "fd"] .device ["0", "1", "2"],
    entries ["dev", "pts"] .device ["ptmx"],
    entries ["etc"] .file ["fstab", "group", "hostname", "hosts", "ld.so.cache", "nsswitch.conf",
      "os-release", "passwd", "profile", "resolv.conf", "shadow", "shells"],
    entries ["etc"] .directory ["default", "skel", "ssl"],
    entries ["home"] .directory ["user"],
    entries ["proc"] .directory ["1", "fs", "net", "self", "sys", "thread-self"],
    entries ["proc"] .file ["cmdline", "cpuinfo", "filesystems", "loadavg", "meminfo", "mounts",
      "stat", "uptime", "version"],
    entries ["proc", "self"] .directory ["cwd", "fd", "root", "task"],
    entries ["proc", "self"] .file ["cmdline", "environ", "maps", "mem", "mounts", "stat",
      "status"],
    entries ["proc", "self", "fd"] .device ["0", "1", "2"],
    entries ["sys"] .directory ["block", "bus", "class", "devices", "fs", "kernel", "module"],
    entries ["usr"] .directory ["bin", "include", "lib", "local", "sbin", "share", "src"],
    entries ["usr", "bin"] .file ["bash", "cat", "env", "ls", "sh"],
    entries ["usr", "local"] .directory ["bin", "lib", "share"],
    entries ["var"] .directory ["cache", "lib", "lock", "log", "mail", "run", "spool", "tmp"]]
  here := ["home", "user"]

/-- The node at a place. -/
def node? (t : FileTree) (place : List String) : Option FileNode :=
  if place.isEmpty then some .directory else t.nodes.lookup place

/-- Follows names from a place to the place they lead to. Every place on the way must be a
directory; an empty name and a dot stay, two dots go back. -/
def follow (t : FileTree) (place : List String) : List String → Except FileError (List String)
  | [] =>
    match t.node? place with
    | some _ => .ok place
    | none => .error .missing
  | name :: rest =>
    match t.node? place with
    | none => .error .missing
    | some .directory =>
      if name = "" ∨ name = "." then follow t place rest
      else if name = ".." then follow t place.dropLast rest
      else if longestName < name.utf8ByteSize then .error .tooLong
      else follow t (place ++ [name]) rest
    | some _ => .error .notADirectory

/-- The node that a path leads to. -/
def resolve (t : FileTree) (path : String) : Except FileError FileNode := do
  if path.contains '\x00' then throw .badName
  if longestPath < path.utf8ByteSize then throw .tooLong
  if path.isEmpty then throw .missing
  let place ← t.follow (if path.front = '/' then [] else t.here) (path.splitOn "/")
  match t.node? place with
  | some node => return node
  | none => throw .missing

/-- Opens a path. A directory can only be read. -/
def openPath (t : FileTree) (path : String) (writing : Bool) : Except FileError FileNode := do
  match ← t.resolve path with
  | .directory => if writing then throw .isADirectory else return .directory
  | .terminal => throw .noDevice
  | node => return node

end FileTree

end MotionCast
