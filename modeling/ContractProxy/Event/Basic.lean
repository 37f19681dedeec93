import ContractProxy.Json.Printer

/-!
Events report what a retry, an activation or a batch did. Each has a level, a kind, the contract it
concerns, if it concerns one, and a message.
-/

set_option autoImplicit false

namespace ContractProxy

inductive Level where
  | info | warn | error
  deriving DecidableEq, Repr

namespace Level

def label : Level → Text
  | .info => "info"
  | .warn => "warn"
  | .error => "error"

/-- Greater means more severe. -/
def severity : Level → Nat
  | .info => 0
  | .warn => 1
  | .error => 2

def reaches (level minimum : Level) : Bool :=
  minimum.severity ≤ level.severity

end Level

inductive EventKind where
  | reactivating | noCandidates | activating | activationSkipped
  | contractGenerated | contractFailed | driftDetected | batchCompleted
  deriving DecidableEq, Repr

def EventKind.label : EventKind → Text
  | .reactivating => "reactivating"
  | .noCandidates => "no_candidates"
  | .activating => "activating"
  | .activationSkipped => "activation_skipped"
  | .contractGenerated => "contract_generated"
  | .contractFailed => "contract_failed"
  | .driftDetected => "drift_detected"
  | .batchCompleted => "batch_completed"

structure Event where
  level : Level
  kind : EventKind
  contract : Option Text
  message : Text
  deriving DecidableEq, Repr

namespace Event

def toJson (event : Event) : Json :=
  Json.ofMembers [("level", Json.ofText event.level.label), ("kind", Json.ofText event.kind.label),
    ("contract", (event.contract.map Json.ofText).getD .null),
    ("message", Json.ofText event.message)]

def text (event : Event) : Text :=
  event.toJson.render

def line (event : Event) : Text :=
  event.text ++ "\n"

def ofKind (kind : EventKind) (events : List Event) : List Event :=
  events.filter (·.kind == kind)

end Event

end ContractProxy
