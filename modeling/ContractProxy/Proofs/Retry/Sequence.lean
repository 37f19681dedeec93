import ContractProxy.Proofs.Retry.Course

/-!
Sequences of invocations on one call, with every failure and panic that the surroundings can bring
about. Each attempt runs on the delegate that the factory made last; what an invocation leaves
behind depends on how it ended, and a panic is the end of all work.
-/

set_option autoImplicit false

namespace ContractProxy

structure Request (α ε : Type) where
  Value : Type
  operation : Nat → α → Attempt Value ε

structure Served (α ε : Type) where
  Value : Type
  run : Invocation α Value ε

namespace RenewingCall

variable {α β ε : Type}

def serve (outside : Surroundings α ε) : RenewingCall α → List (Request α ε) → List (Served α ε)
  | _, [] => []
  | call, request :: rest =>
    let run := call.invoke outside request.operation
    ⟨request.Value, run⟩ :: serve outside run.call rest

theorem length_serve (outside : Surroundings α ε) (call : RenewingCall α)
    (requests : List (Request α ε)) : (serve outside call requests).length = requests.length := by
  induction requests generalizing call with
  | nil => rfl
  | cons request rest ih => simp [serve, ih]

def madeBy (outside : Surroundings α ε) : CallStep α → Option α
  | .factoryRun number =>
    match outside.factory number with
    | .made delegate => some delegate
    | _ => none
  | _ => none

def newest (outside : Surroundings α ε) (steps : List (CallStep α)) : Option α :=
  (steps.filterMap (madeBy outside)).getLast?

theorem newest_append (outside : Surroundings α ε) (before steps : List (CallStep α)) :
    newest outside (before ++ steps) = (newest outside steps).or (newest outside before) := by
  simp [newest, List.getLast?_append]

/-- After the given steps, every attempt runs on the delegate made last. -/
def OnNewest (outside : Surroundings α ε) (before steps : List (CallStep α)) : Prop :=
  ∀ earlier delegate later, steps = earlier ++ .attempt delegate :: later →
    newest outside (before ++ earlier) = some delegate

theorem onNewest_nil (outside : Surroundings α ε) (before : List (CallStep α)) :
    OnNewest outside before [] := by
  intro earlier delegate later h
  simp at h

theorem OnNewest.append {outside : Surroundings α ε} {before steps more : List (CallStep α)}
    (h : OnNewest outside before steps) (hmore : OnNewest outside (before ++ steps) more) :
    OnNewest outside before (steps ++ more) := by
  intro earlier delegate later hs
  rcases List.append_eq_append_iff.mp hs with ⟨middle, hearlier, hrest⟩ | ⟨middle, hsteps, hrest⟩
  · have hn := hmore middle delegate later hrest
    rwa [List.append_assoc, ← hearlier] at hn
  · cases middle with
    | nil =>
      have hn := hmore [] delegate later (by simpa using hrest.symm)
      simpa [hsteps] using hn
    | cons step middle =>
      obtain ⟨rfl, _⟩ := List.cons.inj hrest
      exact h earlier delegate middle hsteps

theorem onNewest_attempt {outside : Surroundings α ε} {before rest : List (CallStep α)}
    {delegate : α} (h : newest outside before = some delegate)
    (hrest : rest.filterMap CallStep.delegate? = []) :
    OnNewest outside before (.attempt delegate :: rest) := by
  intro earlier delegate' later hs
  cases earlier with
  | nil =>
    obtain ⟨heq, _⟩ := List.cons.inj hs
    cases heq
    simpa using h
  | cons step earlier =>
    obtain ⟨_, htail⟩ := List.cons.inj hs
    rw [htail] at hrest
    simp [CallStep.delegate?] at hrest

theorem onNewest_retrySteps {outside : Surroundings α ε} {before : List (CallStep α)}
    {call : RenewingCall α} (h : newest outside before = some call.delegate) (number : Nat)
    (failure : ε) : OnNewest outside before (retrySteps outside call number failure) :=
  onNewest_attempt h rfl

theorem newest_append_retrySteps (outside : Surroundings α ε) (before : List (CallStep α))
    (call : RenewingCall α) (number : Nat) (failure : ε) :
    newest outside (before ++ retrySteps outside call number failure) =
      (madeBy outside (.factoryRun call.factoryRuns)).or (newest outside before) := by
  rw [newest_append]
  congr 1
  simp only [newest, retrySteps, List.filterMap_cons, List.filterMap_nil, madeBy]
  cases outside.factory call.factoryRuns <;> rfl

theorem newest_append_attempt (outside : Surroundings α ε) (before : List (CallStep α))
    (delegate : α) : newest outside (before ++ [.attempt delegate]) = newest outside before := by
  rw [newest_append]
  rfl

theorem Course.newest_eq {outside : Surroundings α ε} {operation : Nat → α → Attempt β ε}
    {call : RenewingCall α} {number : Nat} {run : Invocation α β ε}
    (h : Course outside operation call number run) (before : List (CallStep α))
    (hb : newest outside before = some call.delegate) :
    newest outside (before ++ run.steps) = some run.call.delegate := by
  induction h generalizing before with
  | returned hv => rwa [newest_append_attempt]
  | fatal hf hc => rwa [newest_append_attempt]
  | broken hx => rwa [newest_append_attempt]
  | factoryPanicked hr hm =>
    rw [newest_append_retrySteps]
    simpa [madeBy, hm, poison, rerun] using hb
  | refused hr hm =>
    rw [newest_append_retrySteps]
    simpa [madeBy, hm, rerun] using hb
  | exhausted hr hm hn =>
    rw [newest_append_retrySteps]
    simp [madeBy, hm, renew]
  | @renewed call number failure delegate run hr hm hn _ ih =>
    have hnew : newest outside (before ++ retrySteps outside call number failure) =
        some delegate := by
      rw [newest_append_retrySteps]
      simp [madeBy, hm]
    have hrest := ih (before ++ retrySteps outside call number failure) hnew
    simpa [Invocation.after, List.append_assoc] using hrest

theorem Course.onNewest {outside : Surroundings α ε} {operation : Nat → α → Attempt β ε}
    {call : RenewingCall α} {number : Nat} {run : Invocation α β ε}
    (h : Course outside operation call number run) (before : List (CallStep α))
    (hb : newest outside before = some call.delegate) : OnNewest outside before run.steps := by
  induction h generalizing before with
  | returned hv => exact onNewest_attempt hb rfl
  | fatal hf hc => exact onNewest_attempt hb rfl
  | broken hx => exact onNewest_attempt hb rfl
  | factoryPanicked hr hm => exact onNewest_retrySteps hb _ _
  | refused hr hm => exact onNewest_retrySteps hb _ _
  | exhausted hr hm hn => exact onNewest_retrySteps hb _ _
  | @renewed call number failure delegate run hr hm hn _ ih =>
    have hnew : newest outside (before ++ retrySteps outside call number failure) =
        some delegate := by
      rw [newest_append_retrySteps]
      simp [madeBy, hm]
    exact (onNewest_retrySteps hb number failure).append (ih _ hnew)

theorem Course.contract_eq {outside : Surroundings α ε} {operation : Nat → α → Attempt β ε}
    {call : RenewingCall α} {number : Nat} {run : Invocation α β ε}
    (h : Course outside operation call number run) : run.call.contract = call.contract := by
  induction h with
  | renewed hr hm hn _ ih => exact ih
  | _ => rfl

theorem Course.poisoned_iff {outside : Surroundings α ε} {operation : Nat → α → Attempt β ε}
    {call : RenewingCall α} {number : Nat} {run : Invocation α β ε}
    (h : Course outside operation call number run) (hs : call.poisoned = false) :
    run.call.poisoned = true ↔ run.completion = .panicked := by
  induction h with
  | renewed hr hm hn _ ih => exact ih hs
  | returned hv => simp [hs]
  | fatal hf hc => simp [hs]
  | broken hx => simp [poison]
  | factoryPanicked hr hm => simp [poison]
  | refused hr hm => simp [rerun, hs]
  | exhausted hr hm hn => simp [renew, rerun, hs]

theorem Course.completion_ne_poisoned {outside : Surroundings α ε}
    {operation : Nat → α → Attempt β ε} {call : RenewingCall α} {number : Nat}
    {run : Invocation α β ε} (h : Course outside operation call number run) (contract : Text) :
    run.completion ≠ .failed (.poisoned contract) := by
  induction h with
  | renewed hr hm hn _ ih => exact ih
  | _ => simp

theorem Course.head_delegates {outside : Surroundings α ε} {operation : Nat → α → Attempt β ε}
    {call : RenewingCall α} {number : Nat} {run : Invocation α β ε}
    (h : Course outside operation call number run) :
    run.delegates.head? = some call.delegate := by
  cases h <;> rfl

theorem Course.delegate_of_activation {outside : Surroundings α ε}
    {operation : Nat → α → Attempt β ε} {call : RenewingCall α} {number : Nat}
    {run : Invocation α β ε} (h : Course outside operation call number run)
    {fault : ActivationFault} (hc : run.completion = .failed (.activation fault)) :
    run.delegates.getLast? = some run.call.delegate := by
  induction h with
  | refused hr hm => rfl
  | @renewed call number failure delegate run hr hm hn _ ih =>
    have hrest := ih hc
    rw [Invocation.delegates_eq] at hrest ⊢
    simp [Invocation.after, List.getLast?_append, hrest]
  | _ => simp at hc

theorem Course.delegate_of_exhausted {outside : Surroundings α ε}
    {operation : Nat → α → Attempt β ε} {call : RenewingCall α} {number : Nat}
    {run : Invocation α β ε} (h : Course outside operation call number run)
    {attempts : UInt32} {last : ε} (hc : run.completion = .failed (.exhausted attempts last)) :
    ∃ made, run.steps.getLast? = some (.factoryRun made) ∧
      outside.factory made = .made run.call.delegate := by
  induction h with
  | @exhausted call number failure delegate hr hm hn => exact ⟨call.factoryRuns, rfl, hm⟩
  | @renewed call number failure delegate run hr hm hn _ ih =>
    obtain ⟨made, hlast, hmade⟩ := ih hc
    exact ⟨made, by simp [Invocation.after, List.getLast?_append, hlast], hmade⟩
  | _ => simp at hc

theorem contract_invoke (outside : Surroundings α ε) (call : RenewingCall α)
    (operation : Nat → α → Attempt β ε) :
    (call.invoke outside operation).call.contract = call.contract := by
  cases hp : call.poisoned with
  | true => rw [invoke_poisoned outside operation hp]
  | false => exact (course_invoke outside operation hp).contract_eq

theorem poisoned_invoke (outside : Surroundings α ε) (call : RenewingCall α)
    (operation : Nat → α → Attempt β ε) :
    (call.invoke outside operation).call.poisoned = true ↔
      call.poisoned = true ∨ (call.invoke outside operation).completion = .panicked := by
  cases hp : call.poisoned with
  | true => simp [invoke_poisoned outside operation hp, hp]
  | false => simpa using (course_invoke outside operation hp).poisoned_iff hp

theorem onNewest_serve {outside : Surroundings α ε} {call : RenewingCall α}
    (requests : List (Request α ε)) (before : List (CallStep α))
    (hb : newest outside before = some call.delegate) :
    OnNewest outside before ((serve outside call requests).flatMap (·.run.steps)) := by
  induction requests generalizing call before with
  | nil => exact onNewest_nil outside before
  | cons request rest ih =>
    simp only [serve, List.flatMap_cons]
    cases hp : call.poisoned with
    | true =>
      rw [invoke_poisoned outside request.operation hp]
      exact ih before hb
    | false =>
      have hcourse := course_invoke outside request.operation hp
      exact (hcourse.onNewest before hb).append (ih _ (hcourse.newest_eq before hb))

/-- The call that an invocation out of a sequence begins with and the requests that follow it. A
call is poisoned once an invocation of it has panicked. -/
theorem serve_split {outside : Surroundings α ε} {call : RenewingCall α}
    {requests : List (Request α ε)} {before after : List (Served α ε)} {one : Served α ε}
    (h : serve outside call requests = before ++ one :: after) :
    ∃ (now : RenewingCall α) (request : Request α ε) (rest : List (Request α ε)),
      one = ⟨request.Value, now.invoke outside request.operation⟩ ∧
      after = serve outside one.run.call rest ∧ now.contract = call.contract ∧
      (now.poisoned = true ↔
        call.poisoned = true ∨ ∃ earlier ∈ before, earlier.run.completion = .panicked) := by
  induction before generalizing call requests with
  | nil =>
    cases requests with
    | nil => simp [serve] at h
    | cons request rest =>
      obtain ⟨rfl, rfl⟩ := List.cons.inj h
      exact ⟨call, request, rest, rfl, rfl, rfl, by simp⟩
  | cons first before ih =>
    cases requests with
    | nil => simp [serve] at h
    | cons request rest =>
      obtain ⟨rfl, htail⟩ := List.cons.inj h
      obtain ⟨now, request', rest', hone, hafter, hcontract, hpoisoned⟩ := ih htail
      refine ⟨now, request', rest', hone, hafter, ?_, ?_⟩
      · rw [hcontract, contract_invoke]
      · rw [hpoisoned, poisoned_invoke, or_assoc]
        simp

theorem eq_of_built {outside : Surroundings α ε} {contract : Text} {limit : AttemptLimit}
    {call : RenewingCall α} (h : build outside contract limit = .built call) :
    ∃ delegate, outside.factory 0 = .made delegate ∧
      call = ⟨contract, limit, delegate, false, 1, 0⟩ := by
  unfold build at h
  split at h
  · rename_i delegate hmade
    cases h
    exact ⟨delegate, hmade, rfl⟩
  · simp at h
  · simp at h

theorem head_serve {outside : Surroundings α ε} {call : RenewingCall α}
    {requests : List (Request α ε)} {next : Served α ε} (hs : call.poisoned = false)
    (h : next ∈ (serve outside call requests).head?) :
    next.run.delegates.head? = some call.delegate := by
  cases requests with
  | nil => simp [serve] at h
  | cons request rest =>
    simp only [serve, List.head?_cons, Option.mem_def, Option.some.injEq] at h
    subst h
    exact (course_invoke outside request.operation hs).head_delegates

/-- Any sequence of invocations on a call that was built. Every attempt runs on the delegate that
the factory made last. A refused reactivation keeps the delegate of the last attempt, and the next
invocation begins on it; an exhausted invocation leaves the delegate of its last reactivation.
Poisoned are exactly the invocations after one that panicked, and these do nothing. -/
theorem serve_built (outside : Surroundings α ε) (contract : Text) (limit : AttemptLimit)
    (call : RenewingCall α) (hbuilt : build outside contract limit = .built call)
    (requests : List (Request α ε)) :
    let served := serve outside call requests
    served.length = requests.length ∧
    OnNewest outside [] (.factoryRun 0 :: served.flatMap (·.run.steps)) ∧
    ∀ before one after, served = before ++ one :: after →
      (∀ fault, one.run.completion = .failed (.activation fault) →
        one.run.delegates.getLast? = some one.run.call.delegate ∧
        one.run.call.poisoned = false ∧
        ∀ next ∈ after.head?, next.run.delegates.head? = some one.run.call.delegate) ∧
      (∀ attempts last, one.run.completion = .failed (.exhausted attempts last) →
        one.run.call.poisoned = false ∧
        ∃ made, one.run.steps.getLast? = some (.factoryRun made) ∧
          outside.factory made = .made one.run.call.delegate) ∧
      ((∃ earlier ∈ before, earlier.run.completion = .panicked) ↔
        one.run.completion = .failed (.poisoned contract)) ∧
      ((∃ earlier ∈ before, earlier.run.completion = .panicked) → one.run.steps = []) := by
  intro served
  obtain ⟨delegate, hmade, rfl⟩ := eq_of_built hbuilt
  refine ⟨length_serve outside _ requests, ?_, ?_⟩
  · have hfirst : newest outside [.factoryRun 0] = some delegate := by
      simp [newest, madeBy, hmade]
    have hnil : OnNewest outside [] [.factoryRun 0] := by
      intro earlier found later h
      cases earlier <;> simp at h
    exact hnil.append (onNewest_serve requests [.factoryRun 0] hfirst)
  · intro before one after hserved
    obtain ⟨now, request, rest, rfl, rfl, hcontract, hpoisoned⟩ := serve_split hserved
    simp only [Bool.false_eq_true, false_or] at hpoisoned hcontract
    rw [← hpoisoned]
    cases hp : now.poisoned with
    | true =>
      rw [invoke_poisoned outside request.operation hp, hcontract]
      simp
    | false =>
      have hcourse := course_invoke outside request.operation hp
      have hsound : ∀ fault,
          (now.invoke outside request.operation).completion = .failed fault →
          (now.invoke outside request.operation).call.poisoned = false := by
        intro fault hfault
        rw [← Bool.not_eq_true, hcourse.poisoned_iff hp, hfault]
        simp
      refine ⟨?_, ?_, ?_, ?_⟩
      · intro fault hfault
        have hnow := hsound _ hfault
        exact ⟨hcourse.delegate_of_activation hfault, hnow, fun next hnext => head_serve hnow hnext⟩
      · intro attempts last hlast
        exact ⟨hsound _ hlast, hcourse.delegate_of_exhausted hlast⟩
      · simpa using hcourse.completion_ne_poisoned contract
      · simp

def failing : Surroundings Nat (Option FailureKind) where
  factory number := if number = 1 then .refused (.service "busy") else .made number
  classify failure := failure
  describe _ := "fault"
  sinkPanics _ := false

def failingRequests : List (Request Nat (Option FailureKind)) :=
  [⟨Unit, fun _ _ => .failed (some .transient)⟩, ⟨Nat, fun _ delegate => .done delegate⟩,
    ⟨Unit, fun _ _ => .failed none⟩, ⟨Unit, fun _ _ => .done ()⟩]

def failingCall : RenewingCall Nat :=
  ⟨"IThing", .default, 0, false, 1, 0⟩

theorem serve_built_failing :
    let served := serve failing failingCall failingRequests
    build failing "IThing" .default = .built failingCall ∧
      served.map (·.run.delegates) = [[0], [0], [0], []] ∧
      OnNewest failing [] (.factoryRun 0 :: served.flatMap (·.run.steps)) ∧
      ∃ one ∈ served, one.run.completion = .failed (.poisoned "IThing") ∧ one.run.steps = [] := by
  intro served
  have hbuilt : build failing "IThing" .default = .built failingCall := rfl
  obtain ⟨_, honNewest, hruns⟩ :=
    serve_built failing "IThing" .default failingCall hbuilt failingRequests
  refine ⟨hbuilt, ?_, honNewest, ?_⟩
  · decide +kernel
  · obtain ⟨first, second, third, fourth, hserved, hthird⟩ : ∃ first second third fourth,
        served = [first, second, third] ++ [fourth] ∧ third.run.completion = .panicked := by
      refine ⟨_, _, _, _, rfl, ?_⟩
      with_unfolding_all rfl
    obtain ⟨_, _, hpoisoned, hidle⟩ := hruns [first, second, third] fourth [] hserved
    have hpanicked : ∃ earlier ∈ [first, second, third], earlier.run.completion = .panicked :=
      ⟨third, by simp, hthird⟩
    refine ⟨fourth, ?_, hpoisoned.mp hpanicked, hidle hpanicked⟩
    rw [hserved]
    simp

end RenewingCall

end ContractProxy
