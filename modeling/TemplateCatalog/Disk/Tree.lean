import TemplateCatalog.Disk.Inquiry

/-!
# File trees

A disk held in memory: a tree of files, directories and links, and the directory in
which relative locations begin. A location is followed step by step from there; a
link is replaced by the steps of its target, which happens only so many times.

A step through what is no directory fails even if it leads back, and so does one
through a directory that is missing; only the last step may be missing, which is
where something can be made.

At the other end of a pipe a program may wait. It goes on as soon as somebody reads
from the pipe, so to ask for what is in a pipe is to change the tree (`afterAnswer`).
-/

namespace TemplateCatalog

/-- What a program does that waits at the other end of a pipe, once somebody reads:
    it removes what stands at some locations, and writes. -/
structure Writer where
  removes : List Location
  writes : Bytes

/-- What stands at a name. -/
inductive Tree where
  | file (content : Bytes)
  | directory (entries : List (Bytes × Tree))
  | link (target : Bytes)
  | pipe (writer : Writer)
  deriving Inhabited

namespace Tree

/-- The empty directory. -/
def empty : Tree := directory []

/-- Whether there is a directory. -/
def isDirectory : Tree → Bool
  | directory _ => true
  | _ => false

/-- The entries of a directory. -/
def entries : Tree → List (Bytes × Tree)
  | directory entries => entries
  | _ => []

/-- What stands below a tree at names that are no links. -/
def get? : Tree → List Bytes → Option Tree
  | t, [] => some t
  | t, name :: rest => (t.entries.lookup name).bind (get? · rest)

/-- Entries with something at a name, in the place of what was there. -/
def putEntry (name : Bytes) (item : Tree) : List (Bytes × Tree) → List (Bytes × Tree)
  | [] => [(name, item)]
  | e :: rest => if e.1 = name then (name, item) :: rest else e :: putEntry name item rest

/-- A directory with something at a name. -/
def put (t : Tree) (name : Bytes) (item : Tree) : Tree :=
  match t with
  | directory entries => directory (putEntry name item entries)
  | other => other

/-- A directory with nothing at a name. -/
def erase (t : Tree) (name : Bytes) : Tree :=
  match t with
  | directory entries => directory (entries.filter (·.1 ≠ name))
  | other => other

/-- A tree with a change at names that are no links. -/
def modify (change : Tree → Tree) : List Bytes → Tree → Tree
  | [], t => change t
  | name :: rest, t =>
    match t.entries.lookup name with
    | some below => t.put name (below.modify change rest)
    | none => t

end Tree

namespace Location

/-- The names between separators; some may be empty. -/
def stepsOf : Bytes → List Bytes
  | [] => [[]]
  | b :: rest =>
    if b = separator then [] :: stepsOf rest
    else
      match stepsOf rest with
      | step :: steps => (b :: step) :: steps
      | [] => [[b]]

/-- The names between the separators of a location. -/
def steps (l : Location) : List Bytes := stepsOf l.bytes

/-- Whether a step stays where it is: an empty one, or a dot. -/
def stays (step : Bytes) : Bool := step.isEmpty || step = [0x2E]

/-- Whether a step leads out of a directory. -/
def leavesDirectory (step : Bytes) : Bool := step = [0x2E, 0x2E]

/-- The directory that a location is in, by its name alone. -/
def parent (l : Location) : Location :=
  match (l.bytes.reverse.dropWhile (· ≠ separator)).tail.reverse with
  | [] => if l.isAbsolute then ⟨[separator]⟩ else ⟨[]⟩
  | names => ⟨names⟩

/-- A location and the directories it is in, the innermost first. -/
def ancestors (l : Location) : List Location :=
  (List.range l.steps.length).map fun n => Nat.repeat parent n l

end Location

/-- A file tree, and the names that lead to the directory where relative locations
    begin. -/
structure Volume where
  root : Tree
  here : List Bytes

namespace Volume

/-- Where a location leads. -/
inductive Place where
  /-- To what stands at these names, none of which is a link. -/
  | present (names : List Bytes)
  /-- To nothing, but this directory is where it would be. -/
  | absent (dir : List Bytes) (name : Bytes)
  deriving Repr

/-- The greatest number of links that are followed on the way to one location. -/
def linkLimit : Nat := 40

/-- The greatest number of bytes in a name. -/
def nameLimit : Nat := 255

/-- The greatest number of bytes in a location. -/
def locationLimit : Nat := 4095

/-- Follows steps from a directory. The last one is not followed if it is a link and
    `follow` is false. -/
def walk (root : Tree) (follow : Bool) (links : Nat) (dir : List Bytes) (steps : List Bytes) :
    Except DiskError Place :=
  match steps with
  | [] => .ok (.present dir)
  | step :: rest =>
    match root.get? dir with
    | some (.directory entries) =>
      if Location.stays step then walk root follow links dir rest
      else if Location.leavesDirectory step then walk root follow links dir.dropLast rest
      else if nameLimit < step.length then .error .nameTooLong
      else
        match entries.lookup step with
        -- Nothing but separators may come after a name that is missing.
        | none => if rest.all (·.isEmpty) then .ok (.absent dir step) else .error .notFound
        | some (.link target) =>
          if rest.isEmpty && !follow then .ok (.present (dir ++ [step]))
          else
            match links with
            | 0 => .error .tooManyLinks
            | links + 1 =>
              let from' := if target.head? = some Location.separator then [] else dir
              walk root follow links from' (Location.stepsOf target ++ rest)
        | some _ => walk root follow links (dir ++ [step]) rest
    | some _ => .error .notDirectory
    | none => .error .notFound
  termination_by (links, steps.length)

/-- Where a location leads. -/
def find (v : Volume) (follow : Bool) (l : Location) : Except DiskError Place :=
  if l.bytes.contains 0 then .error .invalidName
  else if l.bytes.isEmpty then .error .notFound
  else if locationLimit < l.bytes.length then .error .nameTooLong
  else walk v.root follow linkLimit (if l.isAbsolute then [] else v.here) l.steps

/-- What stands at a location. -/
def get (v : Volume) (l : Location) : Except DiskError Tree :=
  match v.find true l with
  | .ok (.present names) =>
    match v.root.get? names with
    | some t => .ok t
    | none => .error .notFound
  | .ok (.absent ..) => .error .notFound
  | .error e => .error e

/-- What a volume answers to a question. -/
def disk (v : Volume) : Disk
  | .isDirectory l => (v.get l).toOption.any Tree.isDirectory
  | .isPresent l => (v.get l).toOption.isSome
  | .names l =>
    match v.get l with
    | .ok (.directory entries) => .ok (entries.map (·.1))
    | .ok _ => .error .notDirectory
    | .error e => .error e
  | .content l =>
    match v.get l with
    | .ok (.file content) => .ok content
    | .ok (.pipe writer) => .ok writer.writes
    | .ok _ => .error .isDirectory
    | .error e => .error e

/-! ## Changes -/

/-- Puts something where there is nothing. -/
def add (v : Volume) (l : Location) (t : Tree) : Except DiskError Volume :=
  match v.find false l with
  | .ok (.absent dir name) => .ok { v with root := v.root.modify (·.put name t) dir }
  | .ok (.present _) => .error .alreadyExists
  | .error e => .error e

/-- Writes a file. -/
def write (v : Volume) (l : Location) (content : Bytes) : Except DiskError Volume :=
  match v.find true l with
  | .ok (.absent dir name) =>
    .ok { v with root := v.root.modify (·.put name (.file content)) dir }
  | .ok (.present names) =>
    match v.root.get? names with
    | some (.file _) => .ok { v with root := v.root.modify (fun _ => .file content) names }
    | _ => .error .isDirectory
  | .error e => .error e

/-- Makes a directory unless there is one. -/
def ensureDirectory (v : Volume) (l : Location) : Except DiskError Volume :=
  match v.add l .empty with
  | .ok v => .ok v
  | .error e => if v.disk.isDirectory l then .ok v else .error e

/-- Makes the first directory of a list, and the next ones before it as far as they
    are missing. -/
def ensureFirst (v : Volume) : List Location → Except DiskError Volume
  | [] => .error .notFound
  | l :: rest =>
    match v.ensureDirectory l with
    | .error .notFound => do (← v.ensureFirst rest).ensureDirectory l
    | other => other

/-- Makes a directory, and those it is in, as far as they are missing. -/
def ensureDirectories (v : Volume) (l : Location) : Except DiskError Volume :=
  v.ensureFirst l.ancestors

/-- Removes what stands at a location, a directory with all that is in it. -/
def remove (v : Volume) (l : Location) : Except DiskError Volume :=
  match v.find false l with
  | .ok (.present names) =>
    match names.getLast? with
    | some name => .ok { v with root := v.root.modify (·.erase name) names.dropLast }
    -- The root cannot be removed.
    | none => .error .directoryNotEmpty
  | .ok (.absent ..) => .error .notFound
  | .error e => .error e

/-- Makes a pipe at whose other end nobody waits. -/
def addPipe (v : Volume) (l : Location) : Except DiskError Volume := v.add l (.pipe ⟨[], []⟩)

/-- The names of the pipe at a location, and who waits at its other end. -/
def pipe? (v : Volume) (l : Location) : Option (List Bytes × Writer) :=
  match v.find true l with
  | .ok (.present names) =>
    match v.root.get? names with
    | some (.pipe writer) => some (names, writer)
    | _ => none
  | _ => none

/-- The volume with someone else at the other end of the pipe at these names. -/
def withWriter (v : Volume) (names : List Bytes) (writer : Writer) : Volume :=
  { v with root := v.root.modify (fun _ => .pipe writer) names }

/-- The volume after it has answered a question: who waited for it has done its work. -/
def afterAnswer (v : Volume) : DiskQuestion → Volume
  | .content l =>
    match v.pipe? l with
    | some (names, writer) =>
      writer.removes.foldl (fun v l => (v.remove l).toOption.getD v)
        (v.withWriter names ⟨[], []⟩)
    | none => v
  | _ => v

end Volume

end TemplateCatalog
