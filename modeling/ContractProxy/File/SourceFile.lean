import ContractProxy.Comparison
import ContractProxy.File.Store
import ContractProxy.Text.Quoted

/-!
Files of generated source: replaced in one step, so that no partly written file is ever seen, and
compared with what would be written now.
-/

set_option autoImplicit false

namespace ContractProxy

inductive SourceFileFault where
  | unnamed (path : Text)
  | creating (directory : Text) (fault : FileFault)
  | replacing (path : Text) (fault : ReplaceFault)
  deriving DecidableEq, Repr

def SourceFileFault.message : SourceFileFault → Text
  | .unnamed path => "output path " ++ path ++ " does not name a file"
  | .creating directory fault => "creating " ++ directory ++ ": " ++ fault.message
  | .replacing path (.staging staged fault) =>
    "staging " ++ path ++ ": " ++ fault.message ++ " at path " ++ Text.quoted staged
  | .replacing path (.writing fault) => "writing " ++ path ++ ": " ++ fault.message
  | .replacing path (.renaming fault) => "replacing " ++ path ++ ": " ++ fault.message

inductive Drift where
  | unreadable (fault : FileFault)
  | differs (difference : Difference)
  deriving DecidableEq, Repr

def Drift.message : Drift → Text
  | .unreadable fault => "unable to read existing output: " ++ fault.message
  | .differs difference => difference.message

namespace SourceFile

variable {m : Type → Type} [Monad m] [FileStore m]

/-- The directory of an output file; the working directory for a bare name. -/
def directoryOf (path : Text) : Text :=
  match Path.parent? path with
  | some (c :: rest) => c :: rest
  | _ => "."

def write (path contents : Text) : m (Except SourceFileFault Unit) := do
  match Path.fileName? path with
  | none => pure (.error (.unnamed path))
  | some file =>
    let directory := directoryOf path
    match ← FileStore.makeDirectories directory with
    | .error fault => pure (.error (.creating directory fault))
    | .ok () =>
      let replaced ← FileStore.replaceFile directory file path (Text.utf8 contents)
      pure (replaced.mapError (.replacing path))

def check (path contents : Text) : m (Except Drift Unit) := do
  match ← FileStore.readText path with
  | .error fault => pure (.error (.unreadable fault))
  | .ok existing =>
    match Difference.between contents existing with
    | none => pure (.ok ())
    | some difference => pure (.error (.differs difference))

end SourceFile

end ContractProxy
