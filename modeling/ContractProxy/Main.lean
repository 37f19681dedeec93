import ContractProxy.CommandLine.Run
import ContractProxy.CommandLine.Usage

/-!
The program: arguments, environment and files of the operating system.
-/

set_option autoImplicit false

namespace ContractProxy

/-- The number of an error; some reports give it with a minus sign. -/
def errorNumber (code : Nat) : Nat :=
  if code < 2147483648 then code else UInt32.size - code

def systemReport? : IO.Error → Option (Nat × String)
  | .alreadyExists _ code details | .otherError code details | .resourceBusy code details
  | .resourceVanished code details | .unsupportedOperation code details
  | .hardwareFault code details | .unsatisfiedConstraints code details
  | .illegalOperation code details | .protocolError code details | .timeExpired code details
  | .interrupted _ code details | .noFileOrDirectory _ code details
  | .invalidArgument _ code details | .permissionDenied _ code details
  | .resourceExhausted _ code details | .inappropriateType _ code details
  | .noSuchThing _ code details => some (errorNumber code.toNat, details)
  | .unexpectedEof | .userError _ => none

def FileFault.ofError (error : IO.Error) : FileFault :=
  match systemReport? error with
  | some (2, _) => .notFound
  | some (16, _) => .busy
  | some (17, _) => .exists
  | some (20, _) => .notDirectory
  | some (21, _) => .isDirectory
  | some (36, _) => .nameTooLong
  | some (code, details) =>
    .other (details.toList ++ " (os error " ++ Text.decimal code ++ ")")
  | none => .other (toString error)

def guarded {α : Type} (action : IO α) : IO (Except FileFault α) := do
  try
    return .ok (← action)
  catch error => return .error (.ofError error)

def makeDirectory (path : Text) : IO (Except FileFault Unit) := do
  match ← guarded (IO.FS.createDir (String.ofList path)) with
  | .error .exists => guarded (IO.FS.createDirAll (String.ofList path))
  | result => return result

/-- Makes the first of a path and the paths above it; those above only if they are missing. -/
def makeEachAbove : List Text → IO (Except FileFault Unit)
  | [] => return .ok ()
  | path :: above => do
    if path.isEmpty then return .ok ()
    match ← makeDirectory path with
    | .error .notFound =>
      match ← makeEachAbove above with
      | .ok () => makeDirectory path
      | .error fault => return .error fault
    | result => return result

def freshTag : IO Text := do
  let number ← IO.rand 0 999999
  let digits := Text.decimal number
  return List.replicate (6 - digits.length) '0' ++ digits

def replaceOnDisk (directory file path : Text) (content : Bytes) :
    IO (Except ReplaceFault Unit) := do
  let staged := Path.join directory (FileStore.stagingName file (← freshTag))
  let name := String.ofList staged
  match ← guarded (IO.FS.Handle.mk name .writeNew) with
  | .error fault => return .error (.staging staged fault)
  | .ok handle =>
    let written ← guarded do
      handle.write content.toByteArray
      handle.flush
    let outcome ←
      match written with
      | .error fault => pure (.error (.writing fault))
      | .ok () =>
        let renamed ← guarded (IO.FS.rename name (String.ofList path))
        pure (renamed.mapError .renaming)
    if let .error _ := outcome then
      let _ ← guarded (IO.FS.removeFile name)
    return outcome

instance : FileStore IO where
  readBytes path := guarded do
    return (← IO.FS.readBinFile (String.ofList path)).toList
  makeDirectories path := makeEachAbove (Path.ancestors path.length path)
  replaceFile := replaceOnDisk

end ContractProxy

open ContractProxy

def printLines (stream : IO.FS.Stream) (lines : List Text) : IO Unit := do
  stream.putStr (String.ofList (endLines lines))
  stream.flush

def main (arguments : List String) : IO UInt32 := do
  let output ← IO.getStdout
  let errors ← IO.getStderr
  match CommandLine.read (arguments.map String.toList) with
  | .error .usage =>
    printLines errors CommandLine.usageLines
    return 2
  | .error .help =>
    printLines output CommandLine.usageLines
    return 0
  | .error .version =>
    printLines output [CommandLine.versionLine]
    return 0
  | .ok request =>
    let setting ← IO.getEnv (String.ofList Config.variableName)
    let transcript ← CommandLine.run (setting.map fun value => Text.utf8 value.toList) request
    printLines output transcript.output
    printLines errors transcript.errors
    return .ofNat transcript.status
