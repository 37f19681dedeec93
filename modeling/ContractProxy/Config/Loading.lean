import ContractProxy.Config.Document

/-!
Finding the configuration file: the path that is asked for, else the one that the environment
names, else a default name. Only a missing file of the default name is replaced by the default
configuration.
-/

set_option autoImplicit false

namespace ContractProxy.Config

def defaultFileName : Text := "resilient-proxy.toml"

def variableName : Text := "RESILIENT_PROXY_CONFIG"

structure Location where
  path : Text
  isNamed : Bool
  deriving DecidableEq, Repr

/-- The value of the variable is any sequence of bytes; one that is no text does not count. -/
def environmentPath? (setting : Option Bytes) : Option Text :=
  setting.bind Text.ofUtf8?

def locate (path : Option Text) (setting : Option Bytes) : Location :=
  match path, environmentPath? setting with
  | some path, _ => ⟨path, true⟩
  | none, some path => ⟨path, true⟩
  | none, none => ⟨defaultFileName, false⟩

def load {m : Type → Type} [Monad m] [FileStore m] (path : Option Text)
    (setting : Option Bytes) : m (Except Fault Config) := do
  let location := locate path setting
  match checkLimits location.path with
  | .error fault => pure (.error (.location fault))
  | .ok () =>
    match ← FileStore.readBytes location.path with
    | .ok bytes => pure (ofBytes bytes)
    | .error fault =>
      if fault == .notFound && !location.isNamed then pure (.ok default)
      else pure (.error (.unreadable location.path fault))

end ContractProxy.Config
