import Evidence.FileTree.Basic
import Evidence.Path

/-!
# Resolving paths

Finding the place in a tree that a path names, by walking its parts from the root or from the
working directory.

Main definitions:

- `FileTree.Cause` and its wording: why an operation on a tree is refused.
- `FileTree.walk`: the directory that a list of names leads to.
- `FileTree.Target` and `FileTree.resolve`: what a path names, whether or not it is there.
- `FileTree.isDirectoryAt`: whether a path names a directory that is there.

Main results:

- `FileTree.isDirectory_of_walk`: a walk from a directory ends in a directory.
-/

namespace Evidence.FileTree

/-! ## Causes -/

/-- Why an operation on a tree is refused. -/
inductive Cause where
  /-- A name on the way is not there. -/
  | notFound
  /-- What is to be made is there already. -/
  | alreadyThere
  /-- A name on the way is that of a file. -/
  | notDirectory
  /-- What is to be a file is a directory. -/
  | isDirectory
  /-- A name or the whole path is too long. -/
  | nameTooLong
  /-- The path holds a NUL character. -/
  | holdsNul
deriving DecidableEq, Repr

/-- The wording of a cause. -/
def Cause.message : Cause → Text
  | notFound => "No such file or directory (os error 2)".toList
  | alreadyThere => "File exists (os error 17)".toList
  | notDirectory => "Not a directory (os error 20)".toList
  | isDirectory => "Is a directory (os error 21)".toList
  | nameTooLong => "File name too long (os error 36)".toList
  | holdsNul => "file name contained an unexpected NUL byte".toList

/-! ## Walking -/

/-- The most bytes that a name may take. -/
def nameLimit : Nat := 255

/-- The bytes that a path may not reach. -/
def pathLimit : Nat := 4096

/-- Whether a name is too long for an entry. -/
def isTooLong (name : Text) : Bool :=
  nameLimit < Text.byteLength name

/-- The directory that a list of names leads to, from a directory on.  Every name must be that
of a directory, and the root is above itself. -/
def walk (tree : FileTree) (loc : Location) : List Text → Except Cause Location
  | [] => .ok loc
  | name :: names =>
    if name = Path.here then walk tree loc names
    else if name = Path.above then walk tree loc.tail names
    else if isTooLong name then .error .nameTooLong
    else
      match tree.find? (name :: loc) with
      | none => .error .notFound
      | some (.file ..) => .error .notDirectory
      | some (.directory _) => walk tree (name :: loc) names

/-- What a path names. -/
inductive Target where
  /-- A directory that the form of the path shows to be one: the root, or one reached by a last
  part that means a directory itself or the one above. -/
  | directory (loc : Location)
  /-- A name in a directory. -/
  | child (dir : Location) (name : Text)
deriving DecidableEq, Repr

/-- The location of what a path names. -/
def Target.location : Target → Location
  | directory loc => loc
  | child dir name => name :: dir

/-- What a path names, seen from a working directory.  All but its last name must be there. -/
def resolve (tree : FileTree) (cwd : Location) (path : Path) : Except Cause Target :=
  if '\x00' ∈ path.text then .error .holdsNul
  else if path.text = [] then .error .notFound
  else if pathLimit ≤ Text.byteLength path.text then .error .nameTooLong
  else
    match path.names.reverse with
    | [] => .ok (.directory [])
    | last :: before => do
      let dir ← walk tree (if path.isAbsolute then [] else cwd) before.reverse
      if last = Path.here then return .directory dir
      else if last = Path.above then return .directory dir.tail
      else return .child dir last

/-- Whether a path names a directory that is there. -/
def isDirectoryAt (tree : FileTree) (cwd : Location) (path : Path) : Bool :=
  match tree.resolve cwd path with
  | .error _ => false
  | .ok target => tree.IsDirectory target.location

/-! ## Laws of walking -/

/-- The directory above a directory is a directory. -/
theorem isDirectory_tail {tree : FileTree} {loc : Location} (h : tree.IsDirectory loc) :
    tree.IsDirectory loc.tail := by
  cases loc with
  | nil => exact h
  | cons name dir =>
    refine @isDirectory_of_find? tree name dir ?_
    cases hfind : tree.find? (name :: dir) with
    | none => simp [IsDirectory, hfind] at h
    | some entry => rfl

/-- A walk from a directory ends in a directory. -/
theorem isDirectory_of_walk {tree : FileTree} {loc dir : Location} {names : List Text}
    (hloc : tree.IsDirectory loc) (h : tree.walk loc names = .ok dir) : tree.IsDirectory dir := by
  fun_induction walk tree loc names with
  | case1 => cases h; exact hloc
  | case2 loc names ih => exact ih hloc h
  | case3 loc names _ ih => exact ih (isDirectory_tail hloc) h
  | case4 => cases h
  | case5 => cases h
  | case6 => cases h
  | case7 loc name names _ _ _ mode hfind ih =>
    exact ih (by simp [IsDirectory, hfind, Entry.isDirectory]) h

end Evidence.FileTree
