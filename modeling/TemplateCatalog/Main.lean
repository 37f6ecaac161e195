import TemplateCatalog.CommandLine.Program
import Std.Time.DateTime.Timestamp

/-!
# The program on a real machine

Carries out what the program does at a console: reads from the disk, looks at the
clock, prints, and adds to the log. Git is looked for but cannot be started from here,
so a mirror that is on disk is served as it is and none is made.
-/

namespace TemplateCatalog.CommandLine

/-- The variables that the program looks at. -/
def variableNames : List String :=
  ["RUST_LOG", "CLICOLOR", "CLICOLOR_FORCE", "NO_COLOR", "PATH"]
    ++ settingFlags.filterMap (·.variableName)

/-- The environment of the process. -/
def readEnvironment : IO Environment := do
  let values ← variableNames.mapM fun name => return (name, ← IO.getEnv name)
  return fun name => (values.lookup name).join

/-- A place on disk. The empty one is nowhere. -/
def placeOf (l : Location) : IO.FS.DirEntry := ⟨".", l.display⟩

/-- Whether there is a directory. -/
def isDirectoryOnDisk (l : Location) : IO Bool :=
  if l.bytes.isEmpty then return false else (placeOf l).path.isDir

/-- Whether there is anything. -/
def isPresentOnDisk (l : Location) : IO Bool :=
  if l.bytes.isEmpty then return false else (placeOf l).path.pathExists

/-- Why an access failed, where `other` is the reason if something is there. -/
def reason (l : Location) (other : DiskError) : IO DiskError :=
  return if ← isPresentOnDisk l then other else .notFound

/-- What the disk answers to a question. -/
def answerFromDisk : (q : DiskQuestion) → IO q.Answer
  | .isDirectory l => isDirectoryOnDisk l
  | .isPresent l => isPresentOnDisk l
  | .names l => do
    match ← (placeOf l).path.readDir.toBaseIO with
    | .ok entries => return .ok (entries.toList.map fun e => Text.encode e.fileName)
    | .error _ => return .error (← reason l .notDirectory)
  | .content l => do
    if ← isDirectoryOnDisk l then return .error .isDirectory
    match ← (IO.FS.readBinFile (placeOf l).path).toBaseIO with
    | .ok content => return .ok content.toList
    | .error _ => return .error (← reason l .notDirectory)

/-- Whether there is a git program on the search path. -/
def hasGit (env : Environment) : IO Bool :=
  (((env "PATH").getD "").splitOn ":").anyM fun dir =>
    if dir.isEmpty then return false
    else isPresentOnDisk ((Location.ofString dir).child "git")

/-- The microseconds since the beginning of 1970. -/
def clockMicros : IO Nat := do
  return (← Std.Time.Timestamp.now).toNanosecondsSinceUnixEpoch.val.toNat / 1000

/-- Adds a text to a file. -/
def appendOnDisk (l : Location) (text : String) : IO Unit := do
  let file ← IO.FS.Handle.mk (placeOf l).path .append
  file.putStr text

/-- What comes of the work of the service. -/
def workOnMachine (env : Environment) : (e : Effect) → IO e.Result
  | .ask q => answerFromDisk q
  | .findGit => hasGit env
  | .git _ => return .notStarted .notFound
  | .clock => clockMicros
  | .note _ => return

/-- What comes of something done at the console. -/
def doAtConsole (env : Environment) : (e : ConsoleEffect) → IO e.Result
  | .work e => workOnMachine env e
  | .openLog l => do
    match ← (appendOnDisk l "").toBaseIO with
    | .ok () => return .ok ()
    | .error _ => return .error (← reason l .isDirectory)
  | .append l text => discard (appendOnDisk l text).toBaseIO
  | .print text => do (← IO.getStdout).putStr text
  | .printError text => do (← IO.getStderr).putStr text

/-- Waits so many seconds. -/
def wait : Nat → IO Unit
  | 0 => return
  | n + 1 => do
    IO.sleep 1000
    wait n

/-- Keeps the service refreshed, at once first if so asked. -/
partial def serve (env : Environment) (g : Logging) (s : Service) (now : Bool) : IO Unit := do
  unless now do wait s.refreshInterval
  let (s, r) ← (Console.ofProcedure g (s.cycle .refresh)).runWith (doAtConsole env)
  if let .ok report := r then
    let text := "Periodic refresh published generation " ++ toString report.generation
    (Console.write g ⟨.debug, "refresh", text⟩).runWith (doAtConsole env)
  serve env g s false

end TemplateCatalog.CommandLine

open TemplateCatalog.CommandLine in
/-- Runs the program. -/
def main (args : List String) : IO UInt32 := do
  let env ← readEnvironment
  let onTerminal ← (← IO.getStdout).isTty
  match ← (run env onTerminal args).runWith (doAtConsole env) with
  | .exited code => return UInt32.ofNat code
  | .serving s g refreshNow =>
    serve env g s refreshNow
    return 0
