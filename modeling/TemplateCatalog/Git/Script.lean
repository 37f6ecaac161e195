import TemplateCatalog.Decimal.Numeral
import TemplateCatalog.Disk.Tree

/-!
# Scripts of aliases

An alias of git may be a line for the shell. Such a line is a sequence of simple
commands, each of which is run at once, or only after the one before it has succeeded
or has failed. Words are quoted as usual, variables are replaced by their values, and
the output of a command may be sent elsewhere, to a file as well. The commands are the
plain ones: those that write, end or wait, make a pipe, or remove a directory.

A command whose output goes to a pipe waits until somebody reads from it, and the line
with it (`Run.waits`).
-/

namespace TemplateCatalog.Git.Script

/-! ## Words -/

/-- Where output goes. -/
inductive Stream where
  | stdout
  | stderr
  deriving DecidableEq, Repr

/-- A piece of a line. -/
inductive Token where
  | word (s : String)
  /-- What goes to one stream goes to another. -/
  | redirect (source target : Stream)
  /-- The output goes to the file that the next word names. -/
  | into
  /-- What stands between two commands: a semicolon, `&&` or `||`. -/
  | next
  | onSuccess
  | onFailure
  deriving DecidableEq, Repr

/-- How the next character is read. -/
inductive Mode where
  | plain
  | single
  | double
  /-- The name of a variable, of which some has been read, perhaps between double
      quotes. -/
  | variableName (name : List Char) (quoted : Bool)
  deriving DecidableEq, Repr

/-- What has been read of a line: the tokens in reverse, and the characters of the
    current word in reverse if there is one. -/
structure Reading where
  tokens : List Token
  current : Option (List Char)
  mode : Mode
  /-- How many of the next characters have been read already. -/
  skip : Nat

namespace Reading

/-- The reading with more characters in the current word. -/
def write (r : Reading) (cs : List Char) : Reading :=
  { r with current := some (cs.reverse ++ r.current.getD []) }

/-- The reading with its current word complete. -/
def endWord (r : Reading) : Reading :=
  match r.current with
  | some cs => { r with tokens := .word (String.ofList cs.reverse) :: r.tokens, current := none }
  | none => r

/-- The reading with one more token. -/
def add (r : Reading) (t : Token) : Reading :=
  let r := r.endWord
  { r with tokens := t :: r.tokens }

/-- The reading with the name of a variable complete. -/
def endVariable (env : String → String) (r : Reading) : Reading :=
  match r.mode with
  | .variableName name quoted =>
    let value := (env (String.ofList name.reverse)).toList
    let r := { r with mode := if quoted then .double else .plain }
    -- Without quotes, an empty value does not begin a word.
    if value.isEmpty && !quoted then r else r.write value
  | _ => r

end Reading

/-- Whether a character may stand in the name of a variable. -/
def isNameChar (c : Char) : Bool := c.isAlphanum || c = '_'

/-- Whether a character may begin the name of a variable. -/
def beginsName : List Char → Bool
  | c :: _ => c.isAlpha || c = '_'
  | [] => false

/-- Reads a character outside of quotes, with those after it. -/
def scanPlain (c : Char) (rest : List Char) (r : Reading) : Reading :=
  match c, rest with
  -- A quote begins a word, though there may be nothing in it.
  | '\'', _ => { r.write [] with mode := .single }
  | '\x22', _ => { r.write [] with mode := .double }
  | '\\', d :: _ => { r.write [d] with skip := 1 }
  | '$', _ => if beginsName rest then { r with mode := .variableName [] false } else r.write [c]
  | ';', _ => r.add .next
  | '\n', _ => r.add .next
  | '&', '&' :: _ => { r.add .onSuccess with skip := 1 }
  | '|', '|' :: _ => { r.add .onFailure with skip := 1 }
  | '>', '&' :: '2' :: _ => { r.add (.redirect .stdout .stderr) with skip := 2 }
  | '1', '>' :: '&' :: '2' :: _ => { r.add (.redirect .stdout .stderr) with skip := 3 }
  | '2', '>' :: '&' :: '1' :: _ => { r.add (.redirect .stderr .stdout) with skip := 3 }
  | '>', _ => r.add .into
  | _, _ => if c = ' ' || c = '\t' then r.endWord else r.write [c]

/-- Reads a character between double quotes, with those after it. -/
def scanDouble (c : Char) (rest : List Char) (r : Reading) : Reading :=
  match c, rest with
  | '\x22', _ => { r with mode := .plain }
  | '\\', d :: _ =>
    if d = '\x22' || d = '\\' || d = '$' then { r.write [d] with skip := 1 } else r.write [c]
  | '$', _ => if beginsName rest then { r with mode := .variableName [] true } else r.write [c]
  | _, _ => r.write [c]

/-- Reads a character, with those after it. -/
def scanChar (env : String → String) (c : Char) (rest : List Char) (r : Reading) : Reading :=
  let r := match r.mode with
    | .variableName .. => if isNameChar c then r else r.endVariable env
    | _ => r
  match r.mode with
  | .plain => scanPlain c rest r
  | .single => if c = '\'' then { r with mode := .plain } else r.write [c]
  | .double => scanDouble c rest r
  | .variableName name quoted => { r with mode := .variableName (c :: name) quoted }

/-- Reads a line. -/
def scan (env : String → String) : List Char → Reading → Reading
  | [], r => (r.endVariable env).endWord
  | c :: rest, r =>
    match r.skip with
    | n + 1 => scan env rest { r with skip := n }
    | 0 => scan env rest (scanChar env c rest r)

/-- The tokens of a line. -/
def tokens (env : String → String) (line : String) : List Token :=
  (scan env line.toList ⟨[], none, .plain, 0⟩).tokens.reverse

/-! ## Commands -/

/-- Where output goes to in the end: to a stream of the line, to a file, or nowhere. -/
inductive Target where
  | stream (s : Stream)
  | file (name : String)
  | nowhere
  deriving DecidableEq, Repr

/-- The file of a name, unless it is the one that swallows all. -/
def Target.ofName (name : String) : Target := if name = "/dev/null" then nowhere else file name

/-- A simple command. -/
structure Simple where
  words : List String
  /-- Where its output goes. -/
  stdout : Target
  stderr : Target
  /-- Whether it is run after one that has succeeded, and after one that has failed. -/
  afterSuccess : Bool
  afterFailure : Bool
  deriving Repr

/-- No command yet, to be run in these cases. -/
def Simple.start (afterSuccess afterFailure : Bool) : Simple :=
  ⟨[], .stream .stdout, .stream .stderr, afterSuccess, afterFailure⟩

/-- The commands of a line, given the one that is being read. -/
def commands : List Token → Simple → List Simple
  | [], c => [c]
  | .word w :: rest, c => commands rest { c with words := c.words ++ [w] }
  | .redirect source target :: rest, c =>
    let target := match target with
      | .stdout => c.stdout
      | .stderr => c.stderr
    commands rest (if source = .stdout then { c with stdout := target } else { c with stderr := target })
  | .into :: .word name :: rest, c => commands rest { c with stdout := .ofName name }
  | .into :: rest, c => commands rest c
  | .next :: rest, c => c :: commands rest (.start true true)
  | .onSuccess :: rest, c => c :: commands rest (.start true false)
  | .onFailure :: rest, c => c :: commands rest (.start false true)

/-- What has been done. -/
structure Run where
  volume : Volume
  stdout : Bytes
  stderr : Bytes
  /-- The code of the last command. -/
  code : Nat
  /-- The milliseconds that have passed. -/
  elapsed : Nat
  /-- Whether the line has ended before its end. -/
  stopped : Bool
  /-- Whether the line has come to a pipe from which nobody reads. -/
  waits : Bool

/-- Output that goes somewhere, where `here` is the directory. -/
def Run.emit (here : Location) (r : Run) (t : Target) (bytes : Bytes) : Run :=
  match t with
  | .stream .stdout => { r with stdout := r.stdout ++ bytes }
  | .stream .stderr => { r with stderr := r.stderr ++ bytes }
  | .nowhere => r
  | .file name =>
    let l := here.child name
    let before := (r.volume.disk.content l).toOption.getD []
    { r with volume := (r.volume.write l (before ++ bytes)).toOption.getD r.volume }

/-- The octal digits at the front, at most so many, with the number of them. -/
def octal : Nat → List Char → Nat → Nat × Nat
  | n + 1, c :: rest, value =>
    if '0' ≤ c && c ≤ '7' then
      let (value, count) := octal n rest (value * 8 + (c.toNat - '0'.toNat))
      (value, count + 1)
    else (value, 0)
  | _, _, value => (value, 0)

/-- The byte that a letter after a backslash stands for. -/
def escape? : Char → Option UInt8
  | 'a' => some 7
  | 'b' => some 8
  | 't' => some 9
  | 'n' => some 10
  | 'v' => some 11
  | 'f' => some 12
  | 'r' => some 13
  | '\\' => some 0x5C
  | _ => none

/-- The bytes of a text in which backslashes escape. An octal number follows its
    backslash, after a zero more if `zeroFirst`. -/
def unescape (zeroFirst : Bool) : Nat → List Char → Bytes
  | _, [] => []
  | n + 1, _ :: rest => unescape zeroFirst n rest
  | 0, '\\' :: d :: rest =>
    let digits := if zeroFirst then rest else d :: rest
    let (value, count) := if zeroFirst && d ≠ '0' then (0, 0) else octal 3 digits 0
    let length := if zeroFirst && d = '0' then count + 1 else count
    match escape? d with
    | some b => b :: unescape zeroFirst 1 (d :: rest)
    | none =>
      if length = 0 then 0x5C :: unescape zeroFirst 0 (d :: rest)
      else UInt8.ofNat value :: unescape zeroFirst length (d :: rest)
  | 0, c :: rest => Text.encode (String.singleton c) ++ unescape zeroFirst 0 rest

/-- The milliseconds that a text of seconds means. -/
def milliseconds (s : String) : Nat :=
  let whole := s.toList.takeWhile (· ≠ '.')
  let part := ((s.toList.dropWhile (· ≠ '.')).drop 1 ++ ['0', '0', '0']).take 3
  (Decimal.nat? 10 whole).getD 0 * 1000 + (Decimal.nat? 10 part).getD 0

/-- What a command says of an access that has failed. -/
def reason (e : DiskError) : String := (e.text.splitOn " (os error").headD ""

/-- Does something to the disk for each name, as far as it can be done; of the others
    it says why not. -/
def change (here : Location) (c : Simple) (act : Volume → Location → Except DiskError Volume)
    (complaint : String) (names : List String) (r : Run) : Run :=
  names.foldl (fun r name =>
    match act r.volume (here.child name) with
    | .ok volume => { r with volume }
    | .error e =>
      { r with code := 1 }.emit here c.stderr
        (Text.encode (complaint ++ " '" ++ name ++ "': " ++ reason e ++ "\n"))) { r with code := 0 }

/-- Removes what stands at a location, unless it is a directory. -/
def removeFile (v : Volume) (l : Location) : Except DiskError Volume :=
  if v.disk.isDirectory l then .error .isDirectory else v.remove l

/-- Runs one command of a line `line`, where `here` is the directory and its output can
    go where it goes to. -/
def Simple.run (line : String) (here : Location) (c : Simple) (r : Run) : Run :=
  let ends (code : Nat) : Run := { r with code }
  match c.words with
  | [] => ends 0
  | name :: args =>
    match name with
    | ":" | "true" | "cat" => ends 0
    | "false" => ends 1
    | "echo" =>
      let (args, last) := match args with
        | "-n" :: args => (args, "")
        | args => (args, "\n")
      let text := unescape true 0 (" ".intercalate args).toList
      (ends 0).emit here c.stdout (text ++ Text.encode last)
    | "printf" => (ends 0).emit here c.stdout (unescape false 0 (args.head?.getD "").toList)
    | "pwd" => (ends 0).emit here c.stdout (Text.encode (here.display ++ "\n"))
    | "sleep" => { ends 0 with elapsed := r.elapsed + milliseconds (args.head?.getD "") }
    | "exit" =>
      let code := match args.head? with
        | some s => (Decimal.nat? 10 s.toList).getD 0 % 256
        | none => r.code
      { ends code with stopped := true }
    | "mkfifo" => change here c Volume.addPipe "mkfifo: cannot create fifo" args r
    | "rm" =>
      match args with
      | "-r" :: names => change here c Volume.remove "rm: cannot remove" names r
      | names => change here c removeFile "rm: cannot remove" names r
    | _ =>
      (ends 127).emit here c.stderr (Text.encode (line ++ ": 1: " ++ name ++ ": not found\n"))

/-- What a command does that waits at the other end of a pipe. -/
def Simple.writer (line : String) (here : Location) (c : Simple) (r : Run) : Writer where
  removes := match c.words with
    | "rm" :: "-r" :: names => names.map here.child
    | "rm" :: names => (names.map here.child).filter fun l => !r.volume.disk.isDirectory l
    | _ => []
  writes := ({ c with stdout := .stream .stdout }.run line here { r with stdout := [] }).stdout

/-- Runs one command of a line, after it has opened the file that its output goes to. A
    pipe is not open before somebody reads from it. -/
def Simple.perform (line : String) (here : Location) (c : Simple) (r : Run) : Run :=
  match c.stdout with
  | .stream _ | .nowhere => c.run line here r
  | .file name =>
    match r.volume.pipe? (here.child name) with
    | some (names, _) =>
      { r with
        volume := r.volume.withWriter names (c.writer line here r)
        stopped := true
        waits := true }
    | none =>
      match r.volume.write (here.child name) [] with
      | .ok volume => c.run line here { r with volume }
      | .error e =>
        let why := match e with
          | .isDirectory => reason e
          | _ => "Directory nonexistent"
        { r with
          code := 2
          stderr := r.stderr ++
            Text.encode (line ++ ": 1: cannot create " ++ name ++ ": " ++ why ++ "\n") }

/-- Runs commands one after the other. -/
def runAll (line : String) (here : Location) : List Simple → Run → Run
  | [], r => r
  | c :: rest, r =>
    if r.stopped then r
    else if if r.code = 0 then c.afterSuccess else c.afterFailure then
      runAll line here rest (c.perform line here r)
    else runAll line here rest r

/-- Runs a line on a volume in a directory, with these variables; its last command gets
    more arguments. Even the shortest line takes a millisecond. -/
def run (v : Volume) (env : String → String) (here : Location) (line : String)
    (args : List String) : Run :=
  runAll line here (commands (tokens env line ++ args.map .word) (.start true true))
    ⟨v, [], [], 0, 1, false, false⟩

end TemplateCatalog.Git.Script
