import ContractProxy.CommandLine.Flag

/-!
From the arguments of the command line to a request. Arguments are read from left to right. The
value of a flag that stands in an argument of its own is looked at when the next flag or the end is
reached; a command is read in full before the flags in front of it are looked at.
-/

set_option autoImplicit false

namespace ContractProxy.CommandLine

inductive Stop where
  | usage | help | version
  deriving DecidableEq, Repr

abbrev Given := List (Flag × Text)

/-- A flag that waits to be looked at, with its value as soon as that is known. -/
abbrev Pending := Option (Flag × Option Text)

/-- Arguments read so far. Behind a double hyphen there are no flags. -/
structure Progress where
  given : Given
  pending : Pending
  trailing : Bool
  deriving Repr

structure Request where
  verb : Verb
  level : Level
  scope : Option Text
  source : Option Text
  target : Option Text
  contract : Option Text
  config : Option Text
  deriving DecidableEq, Repr

namespace Progress

def start : Progress := ⟨[], none, false⟩

def accept (given : Given) (flag : Flag) (value : Text) : Except Stop Given :=
  if (given.lookup flag).isSome || !flag.accepts value then .error .usage
  else .ok ((flag, value) :: given)

def settle (p : Progress) : Except Stop Given :=
  match p.pending with
  | none => .ok p.given
  | some (flag, some value) => accept p.given flag value
  | some (_, none) => .error .usage

/-- Help and version stop the reading once the flag that waits is settled. -/
def stop (p : Progress) (reason : Stop) : Except Stop Progress := do
  let _ ← p.settle
  .error reason

/-- A long flag and the value behind its equals sign, if it has one. -/
def splitValue (flag : Text) : Text × Option Text :=
  match flag.dropWhile (· != '=') with
  | _ :: value => (flag.takeWhile (· != '='), some value)
  | [] => (flag, none)

def stepLong (verb : Option Verb) (p : Progress) (flag : Text) : Except Stop Progress :=
  let (name, value) := splitValue flag
  match Flag.find? verb name, value with
  | some flag, some value => do
    let given ← accept (← p.settle) flag value
    .ok { p with given := given, pending := none }
  | some flag, none => do
    let given ← p.settle
    .ok { p with given := given, pending := some (flag, none) }
  | none, some _ => .error .usage
  | none, none =>
    if name == "help" then p.stop .help
    else if name == "version" && verb.isNone then p.stop .version
    else .error .usage

/-- Flags with one hyphen; the first letter decides. -/
def stepShort (verb : Option Verb) (p : Progress) (letter : Char) : Except Stop Progress :=
  if letter == 'h' then p.stop .help
  else if letter == 'V' && verb.isNone then p.stop .version
  else .error .usage

def stepValue (p : Progress) (value : Text) : Except Stop Progress :=
  match p.pending with
  | some (flag, none) => .ok { p with pending := some (flag, some value) }
  | _ => .error .usage

def step (verb : Option Verb) (p : Progress) (argument : Text) : Except Stop Progress :=
  if p.trailing then .error .usage
  else
    match argument with
    | ['-', '-'] => .ok { p with trailing := true }
    | '-' :: '-' :: flag => stepLong verb p flag
    | '-' :: letter :: _ => stepShort verb p letter
    | _ => p.stepValue argument

/-- A command may stand wherever no value is awaited. -/
def awaitsValue (p : Progress) : Bool :=
  match p.pending with
  | some (_, none) => true
  | _ => false

end Progress

def readFlags (verb : Verb) (arguments : List Text) : Except Stop Given := do
  let p ← arguments.foldlM (Progress.step (some verb)) Progress.start
  p.settle

/-- The topics of help are the commands and help itself, one at a time. -/
def readHelp : List Text → Stop
  | [] => .help
  | [topic] => if topic == "help" || (Verb.ofName? topic).isSome then .help else .usage
  | _ => .usage

/-- The level behind a command counts more than one in front of it. -/
def levelOf (outer inner : Given) : Level :=
  (((inner.lookup .level).or (outer.lookup .level)).bind Flag.level?).getD .warn

def requestOf (verb : Verb) (outer inner : Given) : Request where
  verb := verb
  level := levelOf outer inner
  scope := inner.lookup .scope
  source := inner.lookup .source
  target := inner.lookup .target
  contract := inner.lookup .contract
  config := inner.lookup .config

def readFrom (p : Progress) : List Text → Except Stop Request
  | [] => do
    let _ ← p.settle
    .error .usage
  | argument :: rest =>
    let verb := Verb.ofName? argument
    if p.trailing || p.awaitsValue || (verb.isNone && argument != "help") then do
      readFrom (← p.step none argument) rest
    else
      match verb with
      | none => .error (readHelp rest)
      | some verb => do
        let inner ← readFlags verb rest
        let outer ← p.settle
        .ok (requestOf verb outer inner)

def read (arguments : List Text) : Except Stop Request :=
  readFrom .start arguments

example : (read ["--log-level", "info", "list", "--config=c"]).toOption =
    some ⟨.list, .info, none, none, none, none, some "c"⟩ := by decide +kernel

end ContractProxy.CommandLine
