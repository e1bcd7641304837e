import Monthwise.Journal.Directory

/-! # File trees

As much of a file system as the creation of directories can tell apart: which
paths lead to directories and which to files. Symbolic links and permissions
play no part.
-/

namespace Monthwise

/-- Why a directory is not created. -/
inductive FileFault where
  | notFound
  | exists
  | notDirectory
  | nameTooLong
  | nulCharacter
  | other (text : String)
deriving DecidableEq, Repr

/-- The wording of a failed creation. -/
def FileFault.message : FileFault → String
  | .notFound => "No such file or directory (os error 2)"
  | .exists => "File exists (os error 17)"
  | .notDirectory => "Not a directory (os error 20)"
  | .nameTooLong => "File name too long (os error 36)"
  | .nulCharacter => "file name contained an unexpected NUL byte"
  | .other text => text

namespace FilePath

/-- The greatest length of a name, in bytes. -/
def maxNameBytes : Nat := 255

/-- The greatest length of a path, in bytes. -/
def maxBytes : Nat := 4095

/-- Why no file can have this path, whatever is there. -/
def fault? (path : String) : Option FileFault :=
  if path.toList.contains '\x00' then some .nulCharacter
  else if maxBytes < path.utf8ByteSize then some .nameTooLong
  else none

end FilePath

/-- A file, or a directory with the names in it and what they stand for. -/
inductive FileTree where
  | file
  | directory (entries : List (String × FileTree))

/-- A place in a tree: what is there, and the directories that were passed on the way from the
root, the nearest first, each with the name by which it was left. -/
structure FilePlace where
  here : FileTree
  passed : List (List (String × FileTree) × String)

namespace FilePlace

/-- The directory that a place is in. The root is in itself. -/
def up (p : FilePlace) : FilePlace :=
  match p.passed with
  | [] => p
  | (entries, _) :: passed => ⟨.directory entries, passed⟩

/-- Walks along the segments of a path. Everything but the last must be a directory. -/
def walk : FilePlace → (segments : List String) → Except FileFault FilePlace
  | p, [] => .ok p
  | p, segment :: rest =>
    match p.here with
    | .file => .error .notDirectory
    | .directory entries =>
      if segment = "." then walk p rest
      else if segment = ".." then walk p.up rest
      else if FilePath.maxNameBytes < segment.utf8ByteSize then .error .nameTooLong
      else
        match entries.lookup segment with
        | none => .error .notFound
        | some here => walk ⟨here, (entries, segment) :: p.passed⟩ rest

/-- The names that lead from the root to the place, the last one first. -/
def names (p : FilePlace) : List String := p.passed.map (·.2)

/-- The whole tree, seen from its root. -/
def root (p : FilePlace) : FileTree :=
  let put (here : FileTree) (entries : List (String × FileTree)) (name : String) :=
    entries.map fun (other, node) => (other, if other = name then here else node)
  p.passed.foldl (fun here (entries, name) => .directory (put here entries name)) p.here

end FilePlace

namespace FileTree

variable (tree : FileTree)

/-- A tree with nothing below the root. -/
def empty : FileTree := .directory []

/-- What the segments of a path lead to. -/
def find (segments : List String) : Except FileFault FileTree :=
  (FilePlace.walk ⟨tree, []⟩ segments).map (·.here)

/-- The path leads to a directory. -/
def isDirectory (segments : List String) : Bool :=
  tree.find segments matches .ok (.directory _)

/-- The path leads to a file. -/
def isFile (segments : List String) : Bool := tree.find segments matches .ok .file

/-- Two paths lead to one place, which may be written in many ways. -/
def samePlace (a b : List String) : Bool :=
  match FilePlace.walk ⟨tree, []⟩ a, FilePlace.walk ⟨tree, []⟩ b with
  | .ok p, .ok q => p.names == q.names
  | _, _ => false

/-- Puts a node at the end of a path, if nothing is there yet and the place is in a directory. -/
def add (segments : List String) (node : FileTree) : Except FileFault FileTree :=
  match segments.getLast? with
  | none => .error .exists
  | some name => do
    let place ← FilePlace.walk ⟨tree, []⟩ segments.dropLast
    match place.here with
    | .file => .error .notDirectory
    | .directory entries =>
      if name = "." ∨ name = ".." then .error .exists
      else if FilePath.maxNameBytes < name.utf8ByteSize then .error .nameTooLong
      else if (entries.lookup name).isSome then .error .exists
      else return FilePlace.root { place with here := .directory ((name, node) :: entries) }

/-- Creates one directory; one that is there already is as good. -/
def ensureDirectory (segments : List String) : FileTree × Except FileFault Unit :=
  match tree.add segments empty with
  | .ok tree => (tree, .ok ())
  | .error fault => (tree, if tree.isDirectory segments then .ok () else .error fault)

/-- Creates a directory and the directories it lies in, as far as they are missing. What was
created stays even if the rest fails. -/
def ensureChain (tree : FileTree) (segments : List String) : FileTree × Except FileFault Unit :=
  match tree.ensureDirectory segments with
  | (tree, .error .notFound) =>
    if segments = [] then (tree, .error .notFound)
    else
      match ensureChain tree (FilePath.parent segments) with
      | (tree, .ok ()) => tree.ensureDirectory segments
      | (tree, .error fault) => (tree, .error fault)
  | result => result
termination_by segments.length
decreasing_by
  have := FilePath.length_parent_le segments
  have : segments.length ≠ 0 := by simpa using ‹¬ segments = []›
  omega

/-- As `ensureChain`, for the path as it is written. -/
def createAll (path : String) : FileTree × Except FileFault Unit :=
  match FilePath.fault? path with
  | some fault => (tree, .error fault)
  | none => tree.ensureChain (FilePath.segments path)

/-- Writes a file; its directory must be there, and it may replace a file but not a directory. A
path that ends in a slash is no path of a file. -/
def createFile (path : String) : FileTree × Bool :=
  let segments := FilePath.segments path
  if (FilePath.fault? path).isSome ∨ path.toList.getLast? = some '/' then (tree, false)
  else
    match tree.add segments .file with
    | .ok tree => (tree, true)
    | .error _ => (tree, tree.isFile segments)

end FileTree

end Monthwise
