import Provision.CommandLine.World

/-!
# Files and paths

A directory holds files and other directories under their names. A path is followed name by name
from a directory: one dot stays there, two dots go up, and every other name goes down. No name is
longer than 255 bytes, and no path than 4095.
-/

namespace Provision

/-- A file, or a directory with what it holds. Of two entries with one name the first counts. -/
inductive FileTree where
  | file (bytes : ByteArray)
  | directory (entries : List (String × FileTree))

namespace FileTree

/-- The directory without an entry. -/
def empty : FileTree :=
  .directory []

/-- What is found in a directory under a name; a file holds nothing. -/
def child? (name : String) : FileTree → Option FileTree
  | .file _ => none
  | .directory entries => entries.lookup name

/-- Puts a file or a directory where the names lead, and the directories that lead there. -/
def insert (tree : FileTree) (names : List String) (leaf : FileTree) : FileTree :=
  match names with
  | [] => leaf
  | name :: rest =>
    let child := insert ((tree.child? name).getD empty) rest leaf
    match tree with
    | .file _ => .directory [(name, child)]
    | .directory entries => .directory ((name, child) :: entries)

/-- The greatest length of a name, in bytes. -/
def nameLimit : Nat := 255

/-- The greatest length of a path, in bytes. -/
def pathLimit : Nat := 4095

/-- What stands where the names lead, from a directory with the given ones above it, nearest
    first. Above the topmost directory is that directory. -/
def follow (above : List FileTree) (here : FileTree) : List String → Contents
  | [] =>
    match here with
    | .file bytes => .file bytes
    | .directory _ => .directory
  | name :: rest =>
    match here with
    | .file _ => .underFile
    | .directory entries =>
      if name = "." then follow above here rest
      else if name = ".." then
        match above with
        | [] => follow [] here rest
        | parent :: higher => follow higher parent rest
      else if nameLimit < name.utf8ByteSize then .nameTooLong
      else
        match entries.lookup name with
        | some child => follow (here :: above) child rest
        | none => .missing

/-- The names that a path consists of. A slash at the end asks for a directory, as a dot does. -/
def names (path : String) : List String :=
  (path.splitOn "/").filter (!·.isEmpty) ++ (if path.endsWith "/" then ["."] else [])

end FileTree

/-- The directory in which a command line is run, and those above it, nearest first. -/
structure WorkingDirectory where
  here : FileTree
  above : List FileTree

namespace WorkingDirectory

/-- The directory above all others. -/
def root (w : WorkingDirectory) : FileTree :=
  w.above.getLastD w.here

/-- What stands at a path, which is absolute if it begins with a slash. -/
def contents (w : WorkingDirectory) (path : String) : Contents :=
  if path.isEmpty then .missing
  else if FileTree.pathLimit < path.utf8ByteSize then .nameTooLong
  else if path.startsWith "/" then FileTree.follow [] w.root (FileTree.names path)
  else FileTree.follow w.above w.here (FileTree.names path)

end WorkingDirectory

end Provision
