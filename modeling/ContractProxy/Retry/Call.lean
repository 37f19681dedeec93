import ContractProxy.Activation.Discovery
import ContractProxy.Retry.Limit
import ContractProxy.Text.Quoted

/-!
Calls that survive transient failures. A call owns a delegate; an attempt that fails transiently
has the delegate replaced by a new one from the factory before the next attempt. A panic inside an
invocation poisons the call. What the operation, the classifier, the event sink and the factory do
is given from outside, so an invocation is a function of the call and of what they do.
-/

set_option autoImplicit false

namespace ContractProxy

inductive FailureKind where
  | transient | fatal
  deriving DecidableEq, Repr

inductive Attempt (β ε : Type) where
  | done (value : β)
  | failed (failure : ε)
  | panicked

inductive Reply (α : Type) where
  | made (delegate : α)
  | refused (fault : ActivationFault)
  | panicked

/-- The surroundings of a call. The factory's runs and the recorded events are counted from zero
over the whole life of the call; a classifier that gives no class panics. -/
structure Surroundings (α ε : Type) where
  factory : Nat → Reply α
  classify : ε → Option FailureKind
  describe : ε → Text
  sinkPanics : Nat → Bool

inductive InvokeFault (ε : Type) where
  | fatal (failure : ε)
  | exhausted (attempts : UInt32) (last : ε)
  | activation (fault : ActivationFault)
  | poisoned (contract : Text)
  deriving DecidableEq, Repr

namespace InvokeFault

def message {ε : Type} (describe : ε → Text) : InvokeFault ε → Text
  | .fatal failure => describe failure
  | .exhausted attempts _ =>
    "exceeded maximum reactivations (" ++ Text.decimal attempts.toNat ++
      ") trying to execute operation"
  | .activation fault => fault.message
  | .poisoned contract => "delegate for " ++ contract ++ " is unavailable after a panic"

def fatal? {ε : Type} : InvokeFault ε → Option ε
  | .fatal failure => some failure
  | _ => none

def isExhausted {ε : Type} : InvokeFault ε → Bool
  | .exhausted .. => true
  | _ => false

/-- The failure behind this one. A fault that passes another on unchanged has none of its own. -/
def source? {ε : Type} : InvokeFault ε → Option ε
  | .exhausted _ last => some last
  | _ => none

end InvokeFault

inductive Completion (β ε : Type) where
  | returned (value : β)
  | failed (fault : InvokeFault ε)
  | panicked

structure RenewingCall (α : Type) where
  contract : Text
  limit : AttemptLimit
  delegate : α
  poisoned : Bool
  factoryRuns : Nat
  reports : Nat
  deriving DecidableEq, Repr

inductive CallStep (α : Type) where
  | attempt (delegate : α)
  | report (event : Event)
  | factoryRun (number : Nat)
  deriving DecidableEq, Repr

structure Invocation (α β ε : Type) where
  completion : Completion β ε
  call : RenewingCall α
  steps : List (CallStep α)

namespace Invocation

def events {α β ε : Type} (run : Invocation α β ε) : List Event :=
  run.steps.filterMap fun
    | .report event => some event
    | _ => none

def delegates {α β ε : Type} (run : Invocation α β ε) : List α :=
  run.steps.filterMap fun
    | .attempt delegate => some delegate
    | _ => none

def after {α β ε : Type} (steps : List (CallStep α)) (run : Invocation α β ε) :
    Invocation α β ε :=
  { run with steps := steps ++ run.steps }

end Invocation

namespace RenewingCall

variable {α β ε : Type}

def poison (call : RenewingCall α) : RenewingCall α :=
  { call with poisoned := true }

def reactivation (call : RenewingCall α) (attempt : UInt32) (reason : Text) : Event where
  level := .warn
  kind := .reactivating
  contract := some call.contract
  message :=
    "reactivating " ++ call.contract ++ " (attempt " ++ Text.decimal attempt.toNat ++ " of " ++
      Text.decimal call.limit.attempts.toNat ++ ") due to: " ++ reason

/-- The attempts from the given one on. An operation is told how many attempts came before. -/
def attemptFrom (outside : Surroundings α ε) (operation : Nat → α → Attempt β ε)
    (call : RenewingCall α) (attempt : UInt32) : Invocation α β ε :=
  let begun := [CallStep.attempt call.delegate]
  match operation (attempt.toNat - 1) call.delegate with
  | .done value => ⟨.returned value, call, begun⟩
  | .panicked => ⟨.panicked, call.poison, begun⟩
  | .failed failure =>
    match outside.classify failure with
    | none => ⟨.panicked, call.poison, begun⟩
    | some .fatal => ⟨.failed (.fatal failure), call, begun⟩
    | some .transient =>
      if outside.sinkPanics call.reports then ⟨.panicked, call.poison, begun⟩
      else
        let event := call.reactivation attempt (outside.describe failure)
        let steps := begun ++ [.report event, .factoryRun call.factoryRuns]
        let next :=
          { call with reports := call.reports + 1, factoryRuns := call.factoryRuns + 1 }
        match outside.factory call.factoryRuns with
        | .panicked => ⟨.panicked, next.poison, steps⟩
        | .refused fault => ⟨.failed (.activation fault), next, steps⟩
        | .made delegate =>
          if attempt < call.limit.attempts then
            (attemptFrom outside operation { next with delegate := delegate }
              (attempt + 1)).after steps
          else
            ⟨.failed (.exhausted call.limit.attempts failure),
              { next with delegate := delegate }, steps⟩
termination_by call.limit.attempts.toNat - attempt.toNat
decreasing_by
  rename_i h
  have bound := call.limit.attempts.toNat_lt
  have below := UInt32.lt_iff_toNat_lt.mp h
  have next : (attempt + 1).toNat = attempt.toNat + 1 := by
    rw [UInt32.toNat_add]
    exact Nat.mod_eq_of_lt (by simpa using Nat.lt_of_le_of_lt below bound)
  simp only [next]
  omega

/-- Applies an operation that yields a value. A poisoned call does nothing. -/
def invoke (outside : Surroundings α ε) (call : RenewingCall α)
    (operation : Nat → α → Attempt β ε) : Invocation α β ε :=
  if call.poisoned then ⟨.failed (.poisoned call.contract), call, []⟩
  else attemptFrom outside operation call 1

inductive Construction (α : Type) where
  | built (call : RenewingCall α)
  | refused (fault : ActivationFault)
  | panicked

def started (contract : Text) (limit : AttemptLimit) (delegate : α) : RenewingCall α :=
  ⟨contract, limit, delegate, false, 1, 0⟩

def build (outside : Surroundings α ε) (contract : Text) (limit : AttemptLimit) :
    Construction α :=
  match outside.factory 0 with
  | .made delegate => .built (started contract limit delegate)
  | .refused fault => .refused fault
  | .panicked => .panicked

def activating (contract : Text) (token : Token) (platform : Platform)
    (service : Nat → Reply α) : Nat → Reply α := fun number =>
  match service number with
  | .refused fault => .refused (.ofCandidate contract token platform fault)
  | reply => reply

def activated {σ : Type} (contract : Text) (limit : AttemptLimit)
    (service : Activation.Factory σ α) : Activation.Factory σ (RenewingCall α) :=
  fun token platform => do
    let reply ← Activation.instances contract service token platform
    return reply.map (started contract limit)

def shown (call : RenewingCall α) : Text :=
  "ResilientCall \x7b contract: " ++ Text.quoted call.contract ++
    ", policy: RetryPolicy \x7b max_attempts: " ++ Text.decimal call.limit.attempts.toNat ++
    " \x7d, .. \x7d"

end RenewingCall

end ContractProxy
