import Evidence.FileTree.Resolve

/-!
# Snapshots

Trees made of entries that were found one by one, and what changes from one tree to another.

Main definitions:

- `FileTree.places`: the locations that a path passes.
- `FileTree.ofFound`: a tree made of entries.
- `FileTree.changes`: the entries of a tree that another one does not hold.
-/

namespace Evidence.FileTree

/-- The locations that some parts of a path pass, from a location on, which comes first. -/
def placesFrom (loc : Location) : List Text → List Location
  | [] => [loc]
  | part :: rest =>
    if Path.isIdle part then placesFrom loc rest
    else if part = Path.above then loc :: placesFrom loc.tail rest
    else loc :: placesFrom (part :: loc) rest

/-- The locations that a path passes on the way from the root. -/
def places (cwd : Location) (path : Path) : List Location :=
  let start := if path.isAbsolute then [] else (Path.ofLocation cwd).parts
  placesFrom [] (start ++ path.parts)

/-- Put an entry where there is room for it. -/
def putFound (tree : FileTree) (found : Location × Entry) : FileTree :=
  match found with
  | ([], _) => tree
  | (name :: dir, entry) =>
    if hdir : tree.IsDirectory dir then
      if hfits : tree.Fits (name :: dir) entry then tree.put name dir entry hdir hfits else tree
    else tree

/-- A tree made of entries, each of them behind its directory. -/
def ofFound (found : List (Location × Entry)) : FileTree :=
  found.foldl putFound empty

/-- The entries of a tree that another one does not hold, those of directories before what is in
them. -/
def changes (before after : FileTree) : List (Location × Entry) :=
  (after.entries.entries.filter fun (loc, entry) => before.find? loc != some entry).mergeSort
    fun a b => a.1.length ≤ b.1.length

end Evidence.FileTree
