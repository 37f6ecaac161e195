/-!
# Reading a command line

A command has flags, each with a long name and perhaps a letter, and either words
or subcommands. A flag that takes a value finds it after an equals sign, right
after its letter, or in the next argument unless that looks like a flag. Letters
may be joined. After a lone double dash everything is a word.

A value is checked when the next flag or word comes, or at the end of the command,
not when it is read; so of two mistakes the one that is noticed first may be the
second. A subcommand is read to its end before the last flag in front of it is
checked.

The environment gives values to flags that are not on the command line, at the
level of the subcommand as well as above it. A flag may be given at both levels;
what is on the command line counts more than what is in the environment, and of
two values of one rank the subcommand's counts.
-/

namespace TemplateCatalog.CommandLine

/-- Why a command line is rejected, or answered at once. -/
inductive Rejection where
  | displayHelp
  | displayVersion
  | helpOnMissingArgument
  | missingSubcommand
  | invalidSubcommand
  | unknownArgument
  | invalidValue
  | valueValidation
  | tooManyValues
  | argumentConflict
  | missingRequiredArgument
  deriving DecidableEq, Repr

/-- What a flag takes. -/
inductive Kind where
  | help
  | version
  /-- Nothing: the flag is either there or not. -/
  | switch
  | text
  /-- An unsigned integer of 64 bits. -/
  | word
  /-- The location of a file or directory, which is not empty. -/
  | location
  /-- One of several texts. -/
  | choice (texts : List String)
  deriving DecidableEq, Repr

/-- Whether a flag takes a value. -/
def Kind.takesValue : Kind → Bool
  | .help | .version | .switch => false
  | _ => true

/-- A flag of a command. -/
structure Flag where
  name : String
  letter : Option Char
  /-- The variable of the environment that can give its value. -/
  variableName : Option String
  kind : Kind
  deriving DecidableEq, Repr

/-- A command. -/
structure Command where
  flags : List Flag
  /-- The number of words, all of which must be given. -/
  words : Nat
  subcommands : List String

/-- Where a value comes from. -/
inductive Source where
  | environment
  | commandLine
  deriving DecidableEq, Repr

/-- A value that has been checked. -/
structure Given where
  source : Source
  value : String
  deriving DecidableEq, Repr

/-- What has been read of a command. -/
structure Reading where
  given : List (String × Given)
  /-- A flag whose value has not been checked, with the value if it has come. -/
  pending : Option (Flag × Option String)
  /-- The words, in reverse. -/
  words : List String
  /-- Whether a double dash has come. -/
  wordsOnly : Bool
  deriving Repr

/-- The number that a text of digits denotes, after an optional plus sign. -/
def unsigned? (s : String) : Option Nat :=
  let digits := match s.toList with
    | '+' :: cs => cs
    | cs => cs
  if digits.isEmpty || !digits.all (fun c => '0' ≤ c && c ≤ '9') then none
  else some (digits.foldl (fun n c => n * 10 + (c.toNat - '0'.toNat)) 0)

/-- The unsigned integer of 64 bits that a text denotes. -/
def word? (s : String) : Option UInt64 :=
  match unsigned? s with
  | some n => if n < Nat.pow 2 64 then some (UInt64.ofNat n) else none
  | none => none

/-- Checks a value. -/
def Kind.check (s : String) : Kind → Except Rejection Unit
  | .word => if (word? s).isSome then .ok () else .error .valueValidation
  | .location => if s = "" then .error .invalidValue else .ok ()
  | .choice texts => if texts.contains s then .ok () else .error .invalidValue
  | .switch => if s = "true" || s = "false" then .ok () else .error .invalidValue
  | _ => .ok ()

namespace Reading

/-- Nothing read yet. -/
def empty : Reading := ⟨[], none, [], false⟩

/-- Gives a flag its value, which it must not have already on the command line. -/
def give (r : Reading) (f : Flag) (source : Source) (value : String) : Except Rejection Reading :=
  if (r.given.lookup f.name).isSome then .error .argumentConflict
  else
    match f.kind.check value with
    | .error e => .error e
    | .ok () => .ok { r with given := (f.name, ⟨source, value⟩) :: r.given }

/-- Checks the value that has not been checked. -/
def settle (r : Reading) : Except Rejection Reading :=
  match r.pending with
  | none => .ok r
  | some (_, none) => .error .invalidValue
  | some (f, some v) => { r with pending := none }.give f .commandLine v

/-- Takes a flag that stands without a value. -/
def takeSwitch (r : Reading) (f : Flag) : Except Rejection Reading := do
  let r ← r.settle
  match f.kind with
  | .help => throw .displayHelp
  | .version => throw .displayVersion
  | _ => r.give f .commandLine "true"

/-- Takes a flag whose value may be attached to it. -/
def takeFlag (r : Reading) (f : Flag) (value : Option String) : Except Rejection Reading := do
  if f.kind.takesValue then
    let r ← r.settle
    match value with
    | some v => r.give f .commandLine v
    | none => return { r with pending := some (f, none) }
  else
    match value with
    | some _ => throw .tooManyValues
    | none => r.takeSwitch f

/-- Takes a flag by its long name. -/
def takeLong (c : Command) (r : Reading) (cs : List Char) : Except Rejection Reading :=
  let name := String.ofList (cs.takeWhile (· ≠ '='))
  let value := match cs.dropWhile (· ≠ '=') with
    | _ :: v => some (String.ofList v)
    | [] => none
  match c.flags.find? (·.name = name) with
  | some f => r.takeFlag f value
  | none => .error .unknownArgument

/-- Takes joined letters. The first that takes a value takes what follows it. -/
def takeLetters (c : Command) : List Char → Reading → Except Rejection Reading
  | [], r => .ok r
  | letter :: rest, r =>
    match c.flags.find? (·.letter = some letter) with
    | none => .error .unknownArgument
    | some f =>
      if f.kind.takesValue then
        r.takeFlag f (match rest with
          | [] => none
          | '=' :: v => some (String.ofList v)
          | v => some (String.ofList v))
      else do takeLetters c rest (← r.takeSwitch f)

/-- Takes a word. A command without words takes it for a subcommand if it has any;
    after a double dash the name of a subcommand is none. -/
def takeWord (c : Command) (r : Reading) (s : String) : Except Rejection Reading :=
  if r.words.length < c.words then r.settle.map fun r => { r with words := s :: r.words }
  else if c.subcommands.isEmpty || (r.wordsOnly && c.subcommands.contains s) then
    .error .unknownArgument
  else .error .invalidSubcommand

/-- Takes an argument. -/
def take (c : Command) (r : Reading) (s : String) : Except Rejection Reading :=
  if r.wordsOnly then r.takeWord c s
  else
    match s.toList with
    | ['-', '-'] => .ok { r with wordsOnly := true }
    | '-' :: '-' :: cs => r.takeLong c cs
    | '-' :: ch :: cs => r.takeLetters c (ch :: cs)
    | _ =>
      match r.pending with
      | some (f, none) => .ok { r with pending := some (f, some s) }
      | _ => r.takeWord c s

/-- Whether the next argument is the value of a flag, unless it looks like a flag
    itself. -/
def awaitsValue (r : Reading) : Bool :=
  match r.pending with
  | some (_, none) => true
  | _ => false

/-- Reads arguments up to the name of a subcommand, which is returned with the
    arguments after it. -/
def run (c : Command) : List String → Reading → Except Rejection (Reading × Option (String × List String))
  | [], r => .ok (r, none)
  | s :: rest, r =>
    if !r.wordsOnly && !r.awaitsValue && c.subcommands.contains s then .ok (r, some (s, rest))
    else
      match r.take c s with
      | .ok r => run c rest r
      | .error e => .error e

/-- Gives values from the environment to flags that have none. -/
def fill (env : String → Option String) : List Flag → Reading → Except Rejection Reading
  | [], r => .ok r
  | f :: rest, r =>
    match f.variableName.bind env with
    | some v =>
      if (r.given.lookup f.name).isSome then fill env rest r
      else
        match r.give f .environment v with
        | .ok r => fill env rest r
        | .error e => .error e
    | none => fill env rest r

/-- The reading of a command that is at its end. -/
def finish (c : Command) (env : String → Option String) (r : Reading) :
    Except Rejection Reading := do
  (← r.settle).fill env c.flags

/-- The value of a flag that may be given to a command and to its subcommand. -/
def value? (outer inner : Reading) (name : String) : Option String :=
  match outer.given.lookup name, inner.given.lookup name with
  | some o, some i =>
    if o.source = .commandLine && i.source = .environment then some o.value else some i.value
  | some o, none => some o.value
  | none, some i => some i.value
  | none, none => none

end Reading

end TemplateCatalog.CommandLine
