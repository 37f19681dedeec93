import ContractProxy.Activation.Token
import ContractProxy.Event.Basic

/-!
Activation of candidates. A service discovers tokens and activates an instance of one; failures
name the contract and the candidate. A candidate that fails is reported and skipped. Services and
factories may keep a state, so what they do can depend on all that they did before.
-/

set_option autoImplicit false

namespace ContractProxy

inductive ActivationFault where
  | service (cause : Text)
  | discovery (contract cause : Text)
  | failed (contract name version publisher : Text) (platform : Platform) (cause : Text)
  deriving DecidableEq, Repr

def ActivationFault.message : ActivationFault → Text
  | .service cause => "activation service error: " ++ cause
  | .discovery contract cause =>
    "unable to discover candidates for " ++ contract ++ ": " ++ cause
  | .failed contract name version publisher platform cause =>
    "unable to activate " ++ contract ++ " named '" ++ name ++ "', version " ++ version ++
      ", published by '" ++ publisher ++ "' under platform " ++ platform.name ++ ": " ++ cause

def ActivationFault.ofCandidate (contract : Text) (token : Token) (platform : Platform)
    (cause : ActivationFault) : ActivationFault :=
  .failed contract token.name token.version token.publisher platform cause.message

namespace Activation

abbrev Factory (σ π : Type) := Token → Platform → StateM σ (Except ActivationFault π)

abbrev Discovery (σ : Type) := StateM σ (Except ActivationFault (List Token))

variable {σ α π : Type}

def instances (contract : Text) (service : Factory σ α) : Factory σ α :=
  fun token platform => do
    let reply ← service token platform
    return reply.mapError (.ofCandidate contract token platform)

inductive Step where
  | report (event : Event)
  | activation (token : Token) (platform : Platform)
  deriving DecidableEq, Repr

structure Run (π : Type) where
  result : Except ActivationFault (List π)
  steps : List Step

def Run.events (run : Run π) : List Event :=
  run.steps.filterMap fun
    | .report event => some event
    | .activation .. => none

def Run.activations (run : Run π) : List (Token × Platform) :=
  run.steps.filterMap fun
    | .report _ => none
    | .activation token platform => some (token, platform)

def noCandidates (contract : Text) : Event where
  level := .warn
  kind := .noCandidates
  contract := some contract
  message := "no candidates of " ++ contract ++ " were found"

def announcement (contract : Text) (token : Token) : Event where
  level := .info
  kind := .activating
  contract := some contract
  message :=
    "candidate named '" ++ token.name ++ "', version " ++ token.version ++ ", published by '" ++
      token.publisher ++ "' and described as '" ++ token.description ++
      "' will be activated under platform " ++ token.platform.name

def skipped (contract : Text) (fault : ActivationFault) : Event where
  level := .error
  kind := .activationSkipped
  contract := some contract
  message := fault.message

def activateEach (contract : Text) (factory : Factory σ π) :
    List Token → StateM σ (List π × List Step)
  | [] => return ([], [])
  | token :: rest => do
    let outcome ← factory token token.platform
    let (proxies, steps) ← activateEach contract factory rest
    let begun := [.report (announcement contract token), .activation token token.platform]
    match outcome with
    | .ok proxy => return (proxy :: proxies, begun ++ steps)
    | .error fault => return (proxies, begun ++ .report (skipped contract fault) :: steps)

/-- Activates the discovered candidates that are accepted. Only a failed discovery fails. -/
def activateAccepted (contract : Text) (discover : Discovery σ) (accepts : Token → Bool)
    (factory : Factory σ π) : StateM σ (Run π) := do
  match ← discover with
  | .error fault => return ⟨.error (.discovery contract fault.message), []⟩
  | .ok tokens =>
    let warning := if tokens.isEmpty then [.report (noCandidates contract)] else []
    let (proxies, steps) ← activateEach contract factory (tokens.filter accepts)
    return ⟨.ok proxies, warning ++ steps⟩

def activateAll (contract : Text) (discover : Discovery σ) (factory : Factory σ π) :
    StateM σ (Run π) :=
  activateAccepted contract discover (fun _ => true) factory

end Activation

end ContractProxy
