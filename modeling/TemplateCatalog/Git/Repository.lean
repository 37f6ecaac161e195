import TemplateCatalog.Disk.Leaves

/-!
# Repositories

A git repository as far as a mirror needs it. It is a directory with a directory
`.git`, in which there are the name of the branch that is checked out (`HEAD`), the
commit of each branch (`refs`), what each commit holds (`objects`), and, in a clone,
where it was cloned from (`origin`). A commit holds its parent and the leaves of the
tree; empty directories are not kept.

A clone is brought up to date only if its commit is among the ancestors of the new
one, and only if no file that is to change has been changed in the clone.
-/

namespace TemplateCatalog.Git

/-- The name `.git`. -/
def dotGit : Bytes := Text.encode ".git"

/-- The contents of a directory `.git`. -/
structure Repository where
  tree : Tree

namespace Repository

/-- The content of a file in a repository. -/
def file? (r : Repository) (names : List String) : Option Bytes :=
  match r.tree.get? (names.map Text.encode) with
  | some (.file content) => some content
  | _ => none

/-- The repository with a file. -/
def withFile (r : Repository) (names : List String) (content : Bytes) : Repository :=
  ⟨r.tree.putAt (names.map Text.encode) (.file content)⟩

/-- Whether a directory holds what git takes for a repository. -/
def isValid (t : Tree) : Bool :=
  (t.get? [Text.encode "HEAD"]).any (!·.isDirectory)
    && (t.get? [Text.encode "objects"]).any (·.isDirectory)
    && (t.get? [Text.encode "refs"]).any (·.isDirectory)

/-- The repository of a directory. -/
def of? (dir : Tree) : Option Repository :=
  match dir.get? [dotGit] with
  | some t => if isValid t then some ⟨t⟩ else none
  | none => none

/-- The name of the first branch. -/
def firstBranch : String := "master"

/-- A repository without commits. -/
def empty : Repository :=
  ⟨.directory [(Text.encode "HEAD", .file (Text.encode firstBranch)),
    (Text.encode "objects", .empty), (Text.encode "refs", .empty)]⟩

/-- The branch that is checked out. -/
def branch (r : Repository) : String := Text.decodeLossy ((r.file? ["HEAD"]).getD [])

/-- The commit of a branch. -/
def ref? (r : Repository) (branch : String) : Option Bytes := r.file? ["refs", branch]

/-- The commit that is checked out. -/
def head? (r : Repository) : Option Bytes := r.ref? r.branch

/-- The tree of a commit. -/
def snapshot (r : Repository) (commit : Option Bytes) : Tree :=
  (commit.bind fun id => r.tree.get? [Text.encode "objects", id, Text.encode "tree"]).getD .empty

/-- The parent of a commit. -/
def parent? (r : Repository) (commit : Bytes) : Option Bytes :=
  match r.tree.get? [Text.encode "objects", commit, Text.encode "parent"] with
  | some (.file id) => some id
  | _ => none

/-- The number of commits. -/
def size (r : Repository) : Nat :=
  ((r.tree.get? [Text.encode "objects"]).getD .empty).entries.length

/-- A commit and those before it, at most so many. -/
def ancestors (r : Repository) : Nat → Bytes → List Bytes
  | 0, _ => []
  | n + 1, commit =>
    commit :: match r.parent? commit with
      | some p => r.ancestors n p
      | none => []

/-- A name for one more commit: forty digits. -/
def freshCommit (r : Repository) : Bytes :=
  let digits := Nat.toDigits 16 (r.size + 1)
  Text.encode (String.ofList (List.replicate (40 - digits.length) '0' ++ digits))

/-- The repository with one more commit on its branch, which holds a tree. -/
def commit (r : Repository) (t : Tree) : Repository :=
  let id := r.freshCommit
  let object := Tree.directory ([(Text.encode "tree", t)]
    ++ (r.head?.map fun p => (Text.encode "parent", Tree.file p)).toList)
  let r : Repository := ⟨r.tree.putAt [Text.encode "objects", id] object⟩
  r.withFile ["refs", r.branch] id

/-- The leaves of a directory that are to be committed. -/
def trackedLeaves (dir : Tree) : List (List Bytes × Tree) :=
  dir.leaves.filter fun p => p.1.head? ≠ some dotGit

/-- A directory with its files committed, and with a repository if it had none. -/
def commitAll (dir : Tree) : Tree :=
  let r := (of? dir).getD empty
  dir.put dotGit (r.commit (.ofLeaves (trackedLeaves dir))).tree

/-- A directory made a repository without commits. -/
def started (dir : Tree) : Tree := dir.put dotGit empty.tree

/-- The directory of a clone. -/
def cloned (r : Repository) (url : String) : Tree :=
  let clone := r.withFile ["origin"] (Text.encode url)
  (r.snapshot r.head?).put dotGit clone.tree

/-- The leaves in which two trees differ, by their names. -/
def changed (old new : Tree) : List (List Bytes) :=
  let gone := (old.leaves.map (·.1)).filter fun p => (new.leaf? p).isNone
  let here := (new.leaves.filter fun p => !Tree.sameLeaf? (old.leaf? p.1) (some p.2)).map (·.1)
  gone ++ here

/-- Whether a leaf can be changed from that of one tree: it is as it was, or was there
    and is gone. -/
def isClean (dir old : Tree) (p : List Bytes) : Bool :=
  Tree.sameLeaf? (dir.get? p) (old.leaf? p) || (dir.get? p).isNone

/-- A directory with a leaf as in another tree. -/
def checkoutLeaf (new : Tree) (dir : Tree) (p : List Bytes) : Tree :=
  match new.leaf? p with
  | some leaf => dir.putAt p leaf
  | none => dir.eraseAt p

/-- The directory of a clone brought to a commit of its origin, if that is possible. -/
def forwarded? (dir : Tree) (clone origin : Repository) (target : Bytes) : Option Tree :=
  let isForward := match clone.head? with
    | some id => (origin.ancestors (origin.size + 1) target).contains id
    | none => true
  let old := clone.snapshot clone.head?
  let new := origin.snapshot (some target)
  let paths := changed old new
  if isForward && paths.all (isClean dir old) then
    let objects := (origin.tree.get? [Text.encode "objects"]).getD .empty
    let clone : Repository := ⟨clone.tree.put (Text.encode "objects") objects⟩
    let clone := clone.withFile ["refs", clone.branch] target
    some ((paths.foldl (checkoutLeaf new) dir).put dotGit clone.tree)
  else none

end Repository

end TemplateCatalog.Git
