import ContractProxy.File.Path

/-!
What the program needs of a file system: to read a file, to make a directory with those above it,
and to replace a file in one step by way of a staging file beside it.
-/

set_option autoImplicit false

namespace ContractProxy

inductive FileFault where
  | notFound | exists | notDirectory | isDirectory | nameTooLong | busy
  | nulInPath | notUtf8
  | other (report : Text)
  deriving DecidableEq, Repr

def FileFault.message : FileFault → Text
  | .notFound => "No such file or directory (os error 2)"
  | .busy => "Device or resource busy (os error 16)"
  | .exists => "File exists (os error 17)"
  | .notDirectory => "Not a directory (os error 20)"
  | .isDirectory => "Is a directory (os error 21)"
  | .nameTooLong => "File name too long (os error 36)"
  | .nulInPath => "file name contained an unexpected NUL byte"
  | .notUtf8 => "stream did not contain valid UTF-8"
  | .other report => report

/-- Where a replacement fails: the staging file cannot be made, cannot be written, or cannot take
the place of the old file. -/
inductive ReplaceFault where
  | staging (staged : Text) (fault : FileFault)
  | writing (fault : FileFault)
  | renaming (fault : FileFault)
  deriving DecidableEq, Repr

class FileStore (m : Type → Type) where
  readBytes : Text → m (Except FileFault Bytes)
  makeDirectories : Text → m (Except FileFault Unit)
  /-- Replaces the file at a path, given the path's directory and its name. -/
  replaceFile : Text → Text → Text → Bytes → m (Except ReplaceFault Unit)

namespace FileStore

def readText {m : Type → Type} [Monad m] [FileStore m] (path : Text) :
    m (Except FileFault Text) := do
  match ← readBytes path with
  | .error fault => pure (.error fault)
  | .ok bytes =>
    match Text.ofUtf8? bytes with
    | some t => pure (.ok t)
    | none => pure (.error .notUtf8)

def stagingName (file tag : Text) : Text :=
  "." ++ file ++ "." ++ tag ++ ".tmp"

end FileStore

end ContractProxy
