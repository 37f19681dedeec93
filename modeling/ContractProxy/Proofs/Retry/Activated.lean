import ContractProxy.Proofs.Activation.Factory
import ContractProxy.Proofs.Retry.Sequence

/-!
Activation of calls, compared with activation of bare instances. A call asks the service once for
its first delegate, as an instance does, so a run with calls differs in what it returns and in
nothing else. The failures of a call name its candidate, when it is built and when it is renewed.
-/

set_option autoImplicit false

namespace ContractProxy

open Activation

def Reply.ofOutcome {α : Type} : Except ActivationFault α → Reply α
  | .ok delegate => .made delegate
  | .error fault => .refused fault

namespace RenewingCall

variable {σ α β ε : Type}

def Construction.ofOutcome : Except ActivationFault (RenewingCall α) → Construction α
  | .ok call => .built call
  | .error fault => .refused fault

theorem reshapes_activated (contract : Text) (limit : AttemptLimit) (service : Factory σ α) :
    Reshapes (started contract limit) (instances contract service)
      (activated contract limit service) :=
  fun _ _ _ => rfl

theorem instances_recording (contract : Text) (service : Factory σ α) :
    instances contract (recording service) = recording (instances contract service) := rfl

theorem activated_recording (contract : Text) (limit : AttemptLimit) (service : Factory σ α) :
    activated contract limit (recording service) = recording (activated contract limit service) :=
  rfl

section

variable {contract : Text} {token : Token} {platform : Platform} {replies : Nat → Reply α}

theorem activating_eq_refused_iff {number : Nat} {fault : ActivationFault} :
    activating contract token platform replies number = .refused fault ↔
      ∃ cause, replies number = .refused cause ∧
        fault = .ofCandidate contract token platform cause := by
  unfold activating
  cases replies number <;> simp [eq_comm]

theorem build_eq_refused_iff {outside : Surroundings α ε} {limit : AttemptLimit}
    {fault : ActivationFault} :
    build outside contract limit = .refused fault ↔ outside.factory 0 = .refused fault := by
  unfold build
  cases outside.factory 0 <;> simp

theorem build_activating (service : Factory σ α) (limit : AttemptLimit) {s : σ}
    {outside : Surroundings α ε}
    (h : outside.factory 0 = activating contract token platform replies 0)
    (hreply : replies 0 = .ofOutcome (service token platform s).1) :
    build outside contract limit =
      .ofOutcome (activated contract limit service token platform s).1 := by
  rw [reshapes_activated]
  unfold build instances
  rw [h, activating, hreply]
  rcases hs : service token platform s with ⟨fault | delegate, next⟩ <;>
    simp [bind, StateT.bind, hs] <;> rfl

end

theorem Course.refused_of_activation {outside : Surroundings α ε}
    {operation : Nat → α → Attempt β ε} {call : RenewingCall α} {number : Nat}
    {run : Invocation α β ε} (h : Course outside operation call number run)
    {fault : ActivationFault} (hc : run.completion = .failed (.activation fault)) :
    ∃ made, run.steps.getLast? = some (.factoryRun made) ∧
      outside.factory made = .refused fault := by
  induction h with
  | @refused call number failure found hr hm =>
    cases hc
    exact ⟨call.factoryRuns, rfl, hm⟩
  | @renewed call number failure delegate run hr hm hn _ ih =>
    obtain ⟨made, hlast, hmade⟩ := ih hc
    exact ⟨made, by simp [Invocation.after, List.getLast?_append, hlast], hmade⟩
  | _ => simp at hc

theorem refused_of_mem_serve {outside : Surroundings α ε} {call : RenewingCall α}
    {requests : List (Request α ε)} {served : Served α ε}
    (h : served ∈ serve outside call requests) {fault : ActivationFault}
    (hc : served.run.completion = .failed (.activation fault)) :
    ∃ made, served.run.steps.getLast? = some (.factoryRun made) ∧
      outside.factory made = .refused fault := by
  obtain ⟨before, after, hsplit⟩ := List.append_of_mem h
  obtain ⟨now, request, rest, rfl, -⟩ := serve_split hsplit
  cases hp : now.poisoned with
  | true => simp [invoke_poisoned outside request.operation hp] at hc
  | false => exact (course_invoke outside request.operation hp).refused_of_activation hc

/-- A run with calls takes the steps of the run with bare instances: the same activations in order,
each asked of the service once, and the same events. It makes calls of the same candidates, each
with the other run's instance as its delegate. A call that the service refuses to make or to renew,
in whatever sequence of invocations, fails with its contract, its candidate, its platform and the
text of the service's own failure. -/
theorem activated_run (contract : Text) (limit : AttemptLimit) (discover : Discovery σ)
    (accepts : Token → Bool) (service : Factory σ α) (s : σ) (outside : Surroundings α ε)
    (token : Token) (platform : Platform) (replies : Nat → Reply α) :
    let direct := activateAccepted contract discover accepts (instances contract service) s
    let calls := activateAccepted contract discover accepts (activated contract limit service) s
    let own := { outside with factory := activating contract token platform replies }
    calls.1.steps = direct.1.steps ∧ calls.2 = direct.2 ∧
    calls.1.result = direct.1.result.map (List.map (started contract limit)) ∧
    (∀ tokens s, outcomes (activated contract limit service) tokens s =
      let made := outcomes (instances contract service) tokens s
      (made.1.map (Except.map (started contract limit)), made.2)) ∧
    activateAccepted contract discover.unrecorded accepts
        (activated contract limit (recording service)) (s, []) =
      (calls.1, (calls.2, direct.1.activations)) ∧
    activateAccepted contract discover.unrecorded accepts
        (instances contract (recording service)) (s, []) =
      (direct.1, (direct.2, direct.1.activations)) ∧
    (∀ s, replies 0 = .ofOutcome (service token platform s).1 →
      build own contract limit =
        .ofOutcome (activated contract limit service token platform s).1) ∧
    (∀ fault, build own contract limit = .refused fault ↔
      ∃ cause, replies 0 = .refused cause ∧
        fault = .failed contract token.name token.version token.publisher platform
          cause.message) ∧
    ∀ (call : RenewingCall α) (requests : List (Request α ε)), ∀ served ∈ serve own call requests,
      ∀ fault, served.run.completion = .failed (.activation fault) →
        ∃ number cause, served.run.steps.getLast? = some (.factoryRun number) ∧
          replies number = .refused cause ∧
          fault = .failed contract token.name token.version token.publisher platform
            cause.message := by
  intro direct calls own
  have hshape := reshapes_activated contract limit service
  have hcalls : calls = _ := hshape.activateAccepted_eq contract discover accepts s
  have hactivations : calls.1.activations = direct.1.activations := by
    rw [hcalls]
    rfl
  refine ⟨by rw [hcalls], by rw [hcalls], by rw [hcalls], hshape.outcomes_eq, ?_, ?_, ?_, ?_, ?_⟩
  · rw [activated_recording, activateAccepted_recording, ← hactivations]
    rfl
  · rw [instances_recording, activateAccepted_recording]
    rfl
  · intro s hreply
    exact build_activating service limit rfl hreply
  · intro fault
    rw [build_eq_refused_iff]
    exact activating_eq_refused_iff
  · intro call requests served hserved fault hfault
    obtain ⟨number, hlast, hrefused⟩ := refused_of_mem_serve hserved hfault
    obtain ⟨cause, hcause, hnamed⟩ := activating_eq_refused_iff.mp hrefused
    exact ⟨number, cause, hlast, hcause, hnamed⟩

end RenewingCall

end ContractProxy
