import TemplateCatalog.Disk.Tree

/-!
# Leaves of a file tree

The files and links in a tree, each with the names that lead to it. They are what is
kept of a tree where directories do not count by themselves.
-/

namespace TemplateCatalog.Tree

mutual

/-- The files and links in a tree. -/
def leaves : Tree → List (List Bytes × Tree)
  | file content => [([], file content)]
  | link target => [([], link target)]
  | pipe _ => []
  | directory entries => leavesOf entries

/-- The files and links in the entries of a directory. -/
def leavesOf : List (Bytes × Tree) → List (List Bytes × Tree)
  | [] => []
  | (name, t) :: rest => t.leaves.map (fun p => (name :: p.1, p.2)) ++ leavesOf rest

end

/-- Whether two leaves are equal. -/
def sameLeaf : Tree → Tree → Bool
  | file a, file b => a = b
  | link a, link b => a = b
  | _, _ => false

/-- Whether there are equal leaves, or none in both. -/
def sameLeaf? : Option Tree → Option Tree → Bool
  | some a, some b => sameLeaf a b
  | none, none => true
  | _, _ => false

/-- The leaf that names lead to. -/
def leaf? (t : Tree) (names : List Bytes) : Option Tree :=
  match t.get? names with
  | some (directory _) => none
  | other => other

/-- A tree with something at names, and directories on the way to it. -/
def putAt (t : Tree) (names : List Bytes) (item : Tree) : Tree :=
  match names with
  | [] => item
  | name :: rest =>
    let dir := if t.isDirectory then t else empty
    dir.put name (putAt ((dir.entries.lookup name).getD empty) rest item)

/-- Whether there is a directory without entries. -/
def isEmptyDirectory : Tree → Bool
  | directory [] => true
  | _ => false

/-- A tree without what names lead to, and without the directories that are empty
    then. -/
def eraseAt (t : Tree) (names : List Bytes) : Tree :=
  match names with
  | [] => empty
  | name :: rest =>
    match t.entries.lookup name with
    | none => t
    | some below =>
      let left := eraseAt below rest
      if left.isEmptyDirectory then t.erase name else t.put name left

/-- The tree with these leaves. -/
def ofLeaves (l : List (List Bytes × Tree)) : Tree := l.foldl (fun t p => t.putAt p.1 p.2) empty

end TemplateCatalog.Tree
