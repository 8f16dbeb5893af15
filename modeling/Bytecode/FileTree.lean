import Bytecode.Bytes

/-!
# Files by path

Files are found by walking a tree of directories along the names of a path. A
path that starts with a slash is walked from the root, any other one from the
working directory. Repeated slashes count as one, a slash at the end asks for a
directory, and the names `.` and `..` stand for the directory itself and the one
above it.
-/

namespace Bytecode

/-- Why a file cannot be opened. -/
inductive OpenFault where
  | nulInPath
  | notFound
  | notDirectory
  | nameTooLong
deriving DecidableEq, Repr

def OpenFault.message : OpenFault → String
  | nulInPath => "file name contained an unexpected NUL byte"
  | notFound => "No such file or directory (os error 2)"
  | notDirectory => "Not a directory (os error 20)"
  | nameTooLong => "File name too long (os error 36)"

/-- A file with its content, or a directory with its named entries. -/
inductive FileNode where
  | file (content : Bytes)
  | directory (entries : List (String × FileNode))

/-- A tree of files and the way from its root to the working directory. -/
structure FileTree where
  root : FileNode
  workingDirectory : List String

namespace FileTree

/-- The bytes that the longest name takes. -/
def maxNameBytes : Nat := 255

/-- The bytes that the longest path takes. -/
def maxPathBytes : Nat := 4095

/-- The names along a path. A slash at the end counts as the name of the
directory itself. -/
def names (path : String) : List String :=
  let parts := path.splitOn "/"
  parts.filter (· ≠ "") ++ if parts.getLast? = some "" then ["."] else []

/-- One step of a walk. The place reached so far is given with the directories
above it, nearest first. -/
def enter (place : FileNode) (above : List FileNode) (name : String) :
    Except OpenFault (FileNode × List FileNode) :=
  match place with
  | .file _ => .error .notDirectory
  | .directory entries =>
      if name = "." then
        .ok (place, above)
      else if name = ".." then
        match above with
        | [] => .ok (place, [])
        | parent :: rest => .ok (parent, rest)
      else if maxNameBytes < name.utf8ByteSize then
        .error .nameTooLong
      else
        match entries.lookup name with
        | some child => .ok (child, place :: above)
        | none => .error .notFound

/-- Walks along names from a place. -/
def walk (place : FileNode) (above : List FileNode) :
    List String → Except OpenFault (FileNode × List FileNode)
  | [] => .ok (place, above)
  | name :: rest => do
      let (next, above) ← enter place above name
      walk next above rest

/-- Opens what is at a path, be it a file or a directory. -/
def find (tree : FileTree) (path : String) : Except OpenFault FileNode := do
  if path.toList.contains '\x00' then
    throw .nulInPath
  if path = "" then
    throw .notFound
  if maxPathBytes < path.utf8ByteSize then
    throw .nameTooLong
  let way :=
    if path.startsWith "/" then names path else tree.workingDirectory ++ names path
  let (node, _) ← walk tree.root [] way
  return node

end FileTree

end Bytecode
