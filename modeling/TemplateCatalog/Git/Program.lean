import TemplateCatalog.Git.Command
import TemplateCatalog.Git.Repository
import TemplateCatalog.Git.Script

/-!
# The git program

What git does on a disk in memory when the service, or an alias, asks for it: clone a
repository that is on the same disk, bring a clone up to date, name a commit, run the
line of an alias. All else it refuses, and leaves the disk as it was.
-/

namespace TemplateCatalog.Git

/-- A disk after git has run, and how it ended. -/
structure Ending where
  volume : Volume
  outcome : Outcome

/-- The directory that names lead to. -/
def directory? (v : Volume) (l : Location) : Option (List Bytes × Tree) :=
  match v.find true l with
  | .ok (.present names) => (v.root.get? names).map (names, ·)
  | _ => none

/-- The repository that a directory is in: its own, or that of the nearest directory
    around it that has one. -/
def enclosing? (v : Volume) : Nat → List Bytes → Option (List Bytes × Tree × Repository)
  | 0, _ => none
  | n + 1, names =>
    let here := (v.root.get? names).bind fun t => (Repository.of? t).map fun r => (names, t, r)
    match here with
    | some found => some found
    | none => if names.isEmpty then none else enclosing? v n names.dropLast

/-- The repository that a location is in. -/
def repositoryAt? (v : Volume) (l : Location) : Option (List Bytes × Tree × Repository) :=
  (directory? v l).bind fun d => enclosing? v (d.1.length + 1) d.1

/-- The path that an address names. -/
def pathOfAddress (address : String) : String :=
  let scheme := "file://"
  if scheme.toList.isPrefixOf address.toList then
    String.ofList (address.toList.drop scheme.length)
  else address

/-- The repository that an address names. -/
def remote? (v : Volume) (address : String) : Option Repository :=
  let path := pathOfAddress address
  if path.isEmpty then none
  else
    (directory? v (.ofString path)).bind fun d =>
      match Repository.of? d.2 with
      | some r => some r
      | none => if Repository.isValid d.2 then some ⟨d.2⟩ else none

/-- Whether git waits at an address until it is given up: what names the branch there is a pipe, and
    nobody is at its other end. -/
def waitsAt (v : Volume) (address : String) : Bool :=
  let l := Location.ofString (pathOfAddress address)
  [(l.child ".git").child "HEAD", l.child "HEAD"].any fun head =>
    (v.pipe? head).any fun p => p.2.removes.isEmpty && p.2.writes.isEmpty

/-- A failure with a message. -/
def refused (v : Volume) (code : Nat) (message : String) : Ending :=
  ⟨v, .ended (some code) [] (Text.encode ("fatal: " ++ message ++ "\n"))⟩

/-- A success with output. -/
def succeeded (v : Volume) (output : String) : Ending :=
  ⟨v, .ended (some 0) (Text.encode output) []⟩

/-- The volume with an empty directory at a location, and the names that lead there, unless there
    is something else already. -/
def room? (v : Volume) (target : Location) : Option (Volume × List Bytes) :=
  match v.ensureDirectories target with
  | .error _ => none
  | .ok made =>
    match directory? made target with
    | some (names, .directory []) => some (made, names)
    | _ => none

/-- Clones a repository into a location where there is nothing, or an empty directory. -/
def clone (v : Volume) (address : String) (target : Location) : Ending :=
  let room := room? v target
  if room.isSome && waitsAt v address then ⟨v, .timedOut⟩
  else
    match remote? v address, room with
    | none, _ => refused v 128 ("repository '" ++ address ++ "' does not exist")
    | some _, none => refused v 128
      ("destination path '" ++ target.display ++ "' already exists and is not an empty directory.")
    | some r, some (made, names) =>
      ⟨{ made with root := made.root.modify (fun _ => r.cloned address) names },
        .ended (some 0) [] []⟩

/-- Brings the clone that a location is in up to date with a branch of its origin, or
    with the one that it follows. -/
def pull (v : Volume) (here : Location) (branch : Option String) : Ending :=
  match repositoryAt? v here with
  | none => refused v 128 "not a git repository (or any of the parent directories): .git"
  | some (names, dir, r) =>
    match (r.file? ["origin"]).bind fun o => remote? v (Text.decodeLossy o) with
    | none => refused v 128 "Could not read from remote repository."
    | some origin =>
      match origin.ref? (branch.getD r.branch) with
      | none => refused v 1 ("couldn't find remote ref " ++ branch.getD r.branch)
      | some target =>
        if r.head? = some target then succeeded v ""
        else
          match Repository.forwarded? dir r origin target with
          | some dir => succeeded { v with root := v.root.modify (fun _ => dir) names } ""
          | none => refused v 128 "Not possible to fast-forward, aborting."

/-- Names something about the repository that a location is in. -/
def revParse (v : Volume) (here : Location) (what : String) : Ending :=
  match repositoryAt? v here with
  | none => refused v 128 "not a git repository (or any of the parent directories): .git"
  | some (_, _, r) =>
    match what with
    | "HEAD" =>
      match r.head? with
      | some id => succeeded v (Text.decodeLossy id ++ "\n")
      | none => refused v 128 "ambiguous argument 'HEAD': unknown revision or path not in the working tree."
    | "--is-inside-work-tree" => succeeded v "true\n"
    | "--is-bare-repository" => succeeded v "false\n"
    | _ => refused v 128 ("ambiguous argument '" ++ what ++ "': unknown revision or path not in the working tree.")

/-- The location that names lead to from the root. -/
def locationOf (names : List Bytes) : Location :=
  ⟨if names.isEmpty then [Location.separator] else names.flatMap fun n => Location.separator :: n⟩

/-- Runs the line of an alias with arguments, in the top directory of the repository if
    there is one. A line that waits for a pipe is given up in time, but goes on waiting. -/
def runLine (v : Volume) (here : Location) (timeout : Option Nat) (line : String)
    (args : List String) : Ending :=
  let env (name : String) : String := (environment.lookup name).getD ""
  let names := match repositoryAt? v here with
    | some (names, _) => names
    | none => ((directory? v here).map (·.1)).getD []
  let r := Script.run v env (locationOf names) line args
  if r.waits || timeout.any (· < r.elapsed) then ⟨r.volume, .timedOut⟩
  else ⟨r.volume, .ended (some r.code) r.stdout r.stderr⟩

/-- The line of an alias that an argument defines. -/
def aliasLine? (setting name : String) : Option String :=
  let start := ("alias." ++ name ++ "=!").toList
  if start.isPrefixOf setting.toList then some (String.ofList (setting.toList.drop start.length))
  else none

/-- Runs a command. -/
def run (v : Volume) (c : Command) : Ending :=
  let here := c.directory.getD (.ofString ".")
  match directory? v here with
  | none => refused v 128 ("cannot change to '" ++ here.display ++ "': No such file or directory")
  | some _ =>
    match c.args with
    | ["clone", "--quiet", address, target] => clone v address (here.child target)
    | ["pull", "--ff-only", "--quiet"] => pull v here none
    | ["pull", "--ff-only", "--quiet", "origin", branch] => pull v here (some branch)
    | ["rev-parse", what] => revParse v here what
    | "-c" :: setting :: name :: args =>
      match aliasLine? setting name with
      | some line => runLine v here c.timeout line args
      | none => refused v 1 ("'" ++ name ++ "' is not a git command")
    | _ => refused v 129 "unknown command"

end TemplateCatalog.Git
