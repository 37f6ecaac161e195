import TemplateCatalog.Failure
import TemplateCatalog.Log
import TemplateCatalog.Text.Blank

/-!
# Git commands

What git is asked to do, and what its outcome means. A command that clones fails with
the address it was to clone, any other with the operation it was to do; but a command
that takes too long fails with its operation in either case.
-/

namespace TemplateCatalog.Git

/-- What git is asked to do. -/
structure Command where
  args : List String
  /-- Where git works, if not where the service does. -/
  directory : Option Location
  /-- The milliseconds that git may take. -/
  timeout : Option Nat
  /-- What the command is for, as the log says it. -/
  context : Option String
  /-- The address that is cloned, if this is a clone. -/
  cloneUrl : Option String
  deriving DecidableEq, Repr

/-- How a command ends. -/
inductive Outcome where
  /-- Git could not be started. -/
  | notStarted (e : DiskError)
  | timedOut
  /-- Git ended, with a code unless a signal ended it. -/
  | ended (code : Option Nat) (stdout stderr : Bytes)
  deriving DecidableEq, Repr

/-- What a command writes. -/
structure Output where
  stdout : String
  stderr : String
  deriving DecidableEq, Repr

/-- The variables that are set for git: it must not ask for a password. -/
def environment : List (String × String) := [("GIT_TERMINAL_PROMPT", "0")]

/-- The milliseconds that git may take unless something else is said. -/
def defaultTimeout : Nat := 300000

namespace Command

/-- A command with these arguments. -/
def ofArgs (args : List String) : Command := ⟨args, none, some defaultTimeout, none, none⟩

/-- Clones a repository. -/
def clone (url : String) (target : Location) (timeout : Nat) : Command :=
  { ofArgs ["clone", "--quiet", url, target.display] with
    timeout := some timeout
    context := some "Cloning catalog"
    cloneUrl := some url }

/-- Brings a clone up to date, with a branch or with the one that it follows. -/
def pull (branch : Option String) (mirror : Location) (timeout : Nat) : Command :=
  let which := match branch with
    | some b => ["origin", b]
    | none => []
  { ofArgs (["pull", "--ff-only", "--quiet"] ++ which) with
    directory := some mirror
    timeout := some timeout
    context := some "Pulling catalog" }

/-- Prints the commit that a repository is at. -/
def currentCommit (repository : Location) : Command :=
  { ofArgs ["rev-parse", "HEAD"] with directory := some repository }

/-- All arguments, the directory in front. -/
def fullArgs (c : Command) : List String :=
  (match c.directory with
    | some dir => ["-C", dir.display]
    | none => []) ++ c.args

/-- The arguments on one line. -/
def line (c : Command) : String := " ".intercalate c.fullArgs

/-- What a command does, by its first argument. -/
def operation (c : Command) : String := c.args.head?.getD "unknown"

/-- What is said of a command that takes too long. -/
def timeoutText (c : Command) : String :=
  "Git command timed out after " ++ toString ((c.timeout.getD 0) / 1000) ++ " seconds"

/-- What the outcome of a command means. -/
def interpret (c : Command) : Outcome → Except Failure Output
  | .notStarted e => .error ⟨["Failed to execute git " ++ c.line], .disk e⟩
  | .timedOut => .error (.ofError (.gitFailed c.operation c.timeoutText))
  | .ended code stdout stderr =>
    let stdout := Text.decodeLossy stdout
    let stderr := Text.decodeLossy stderr
    if code = some 0 then .ok ⟨stdout, stderr⟩
    else
      match c.cloneUrl with
      | some url => .error (.ofError (.cloneFailed url stderr))
      | none =>
        .error (.ofError (.gitFailed c.operation (if stderr.isEmpty then stdout else stderr)))

/-! ## What is noted -/

/-- What is noted before a command is run. -/
def notesBefore (c : Command) : List Log.Note :=
  let context := match c.context with
    | some context => "(" ++ context ++ ") "
    | none => ""
  ⟨.debug, "git", context ++ "Executing command: git " ++ c.line⟩
    :: environment.map fun e => ⟨.trace, "git", "Setting env var: " ++ e.1 ++ "=" ++ e.2⟩

/-- What is noted of a text that git wrote, if it wrote any. -/
def noteOutput (label text : String) : List Log.Note :=
  if text.isEmpty then [] else [⟨.debug, "git", label ++ Text.trim text⟩]

/-- What is noted after a command was run. -/
def notesAfter (c : Command) : Outcome → List Log.Note
  | .notStarted _ => []
  | .timedOut =>
    [⟨.warn, "git", "Command timed out after " ++ toString ((c.timeout.getD 0) / 1000)
      ++ " seconds: git " ++ c.line⟩]
  | .ended code stdout stderr =>
    let stdout := Text.decodeLossy stdout
    let stderr := Text.decodeLossy stderr
    if code = some 0 then noteOutput "" stdout ++ noteOutput "" stderr
    else
      let code := match code with
        | some n => "Some(" ++ toString n ++ ")"
        | none => "None"
      ⟨.debug, "git", "Command failed with exit code: " ++ code⟩ :: noteOutput "Error: " stderr

end Command

end TemplateCatalog.Git
