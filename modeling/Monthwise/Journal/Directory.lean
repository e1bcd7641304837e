/-! # Directories of a journal

A journal is kept in a directory that is given by an absolute path. Two paths
are the same place if they have the same parts: repeated slashes, slashes at the
end and single dots do not count, but two dots are a part like any other.
-/

namespace Monthwise

namespace FilePath

/-- What stands between the slashes of a path, empty stretches left out. -/
def segments (path : String) : List String :=
  ((path.toList.splitOn '/').map String.ofList).filter (· ≠ "")

/-- The parts of an absolute path. -/
def parts (path : String) : List String := (segments path).filter (· ≠ ".")

/-- Leaves out single dots at the end. -/
def dropDots (segments : List String) : List String :=
  (segments.reverse.dropWhile (· = ".")).reverse

theorem length_dropDots_le (segments : List String) :
    (dropDots segments).length ≤ segments.length := by
  simpa [dropDots] using (List.dropWhile_sublist (· = ".") (l := segments.reverse)).length_le

/-- The segments of the directory that a path lies in; single dots at the end do not count. -/
def parent (segments : List String) : List String := dropDots (dropDots segments).dropLast

theorem length_parent_le (segments : List String) :
    (parent segments).length ≤ segments.length - 1 := by
  have := length_dropDots_le (dropDots segments).dropLast
  have := length_dropDots_le segments
  simp only [parent, List.length_dropLast] at *
  omega

/-- The path begins at the root. -/
def IsAbsolute (path : String) : Prop := path.toList.head? = some '/'

instance (path : String) : Decidable (IsAbsolute path) := by
  unfold IsAbsolute; infer_instance

end FilePath

/-- A directory given by an absolute path. -/
structure Directory where
  path : String
  isAbsolute : FilePath.IsAbsolute path
deriving DecidableEq

/-- The two directories are the same place. -/
def Directory.same (a b : Directory) : Bool := FilePath.parts a.path == FilePath.parts b.path

end Monthwise
