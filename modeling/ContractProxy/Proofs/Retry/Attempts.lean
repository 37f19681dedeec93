import ContractProxy.Proofs.Retry.Course

/-!
One invocation, attempt by attempt. Which delegate an attempt runs on and what it comes to are
given by number, without the loop; an invocation makes the attempts up to the first that is not
followed by another, and its completion and its steps can be read off them.
-/

set_option autoImplicit false

namespace ContractProxy.RenewingCall

variable {α β ε : Type}

/-- The delegate in hand after a number of runs of the factory. A run that makes none leaves it. -/
def held (outside : Surroundings α ε) (call : RenewingCall α) : Nat → α
  | 0 => call.delegate
  | i + 1 =>
    match outside.factory (call.factoryRuns + i) with
    | .made delegate => delegate
    | _ => held outside call i

/-- What an attempt comes to. A failure is transient once its warning is recorded. -/
inductive Outcome (β ε : Type) where
  | done (value : β)
  | fatal (failure : ε)
  | transient (failure : ε)
  | panicked

def outcomeOf (outside : Surroundings α ε) (reports : Nat) : Attempt β ε → Outcome β ε
  | .done value => .done value
  | .panicked => .panicked
  | .failed failure =>
    match outside.classify failure with
    | none => .panicked
    | some .fatal => .fatal failure
    | some .transient => if outside.sinkPanics reports then .panicked else .transient failure

def outcomeAt (outside : Surroundings α ε) (operation : Nat → α → Attempt β ε)
    (call : RenewingCall α) (i : Nat) : Outcome β ε :=
  outcomeOf outside (call.reports + i) (operation i (held outside call i))

/-- The steps of an attempt: a transient outcome is warned of and has the factory run once. -/
def stepsAt (outside : Surroundings α ε) (operation : Nat → α → Attempt β ε)
    (call : RenewingCall α) (i : Nat) : List (CallStep α) :=
  .attempt (held outside call i) ::
    match outcomeAt outside operation call i with
    | .transient failure =>
      [.report (warning call.contract (i + 1) call.bound (outside.describe failure)),
        .factoryRun (call.factoryRuns + i)]
    | _ => []

/-- How an invocation ends whose last attempt has the given number. -/
def EndsWith (outside : Surroundings α ε) (operation : Nat → α → Attempt β ε)
    (call : RenewingCall α) (last : Nat) : Completion β ε → Prop
  | .returned value => outcomeAt outside operation call last = .done value
  | .failed (.fatal failure) => outcomeAt outside operation call last = .fatal failure
  | .failed (.activation fault) =>
    (∃ failure, outcomeAt outside operation call last = .transient failure) ∧
      outside.factory (call.factoryRuns + last) = .refused fault
  | .failed (.exhausted attempts failure) =>
    attempts = call.limit.attempts ∧ last + 1 = call.bound ∧
      outcomeAt outside operation call last = .transient failure ∧
      ∃ delegate, outside.factory (call.factoryRuns + last) = .made delegate
  | .failed (.poisoned _) => False
  | .panicked =>
    outcomeAt outside operation call last = .panicked ∨
      (∃ failure, outcomeAt outside operation call last = .transient failure) ∧
        outside.factory (call.factoryRuns + last) = .panicked

def ending (outside : Surroundings α ε) (operation : Nat → α → Attempt β ε)
    (call : RenewingCall α) (last : Nat) : Completion β ε :=
  match outcomeAt outside operation call last with
  | .done value => .returned value
  | .fatal failure => .failed (.fatal failure)
  | .panicked => .panicked
  | .transient failure =>
    match outside.factory (call.factoryRuns + last) with
    | .made _ => .failed (.exhausted call.limit.attempts failure)
    | .refused fault => .failed (.activation fault)
    | .panicked => .panicked

theorem EndsWith.eq_ending {outside : Surroundings α ε} {operation : Nat → α → Attempt β ε}
    {call : RenewingCall α} {last : Nat} {completion : Completion β ε}
    (h : EndsWith outside operation call last completion) :
    completion = ending outside operation call last := by
  cases completion with
  | returned value =>
    have ho : outcomeAt outside operation call last = .done value := h
    simp [ending, ho]
  | panicked =>
    rcases h with ho | ⟨⟨failure, ho⟩, hf⟩
    · simp [ending, ho]
    · simp [ending, ho, hf]
  | failed fault =>
    cases fault with
    | fatal failure =>
      have ho : outcomeAt outside operation call last = .fatal failure := h
      simp [ending, ho]
    | exhausted attempts failure =>
      obtain ⟨rfl, _, ho, delegate, hf⟩ := h
      simp [ending, ho, hf]
    | activation fault =>
      obtain ⟨⟨failure, ho⟩, hf⟩ := h
      simp [ending, ho, hf]
    | poisoned contract => exact h.elim

def renewals (outside : Surroundings α ε) (call : RenewingCall α) (i : Nat) : RenewingCall α :=
  { call with
    delegate := held outside call i
    factoryRuns := call.factoryRuns + i
    reports := call.reports + i }

theorem renewals_zero (outside : Surroundings α ε) (call : RenewingCall α) :
    call.renewals outside 0 = call := rfl

theorem held_succ {outside : Surroundings α ε} {call : RenewingCall α} {i : Nat} {delegate : α}
    (h : outside.factory (call.factoryRuns + i) = .made delegate) :
    held outside call (i + 1) = delegate := by
  simp [held, h]

theorem renew_renewals {outside : Surroundings α ε} {call : RenewingCall α} {i : Nat}
    {delegate : α} (h : outside.factory (call.factoryRuns + i) = .made delegate) :
    (call.renewals outside i).renew delegate = call.renewals outside (i + 1) := by
  simp [renew, rerun, renewals, held_succ h, Nat.add_assoc]

theorem outcomeAt_of_retries {outside : Surroundings α ε} {operation : Nat → α → Attempt β ε}
    {call : RenewingCall α} {i : Nat} {failure : ε}
    (h : Retries outside operation (call.renewals outside i) i failure) :
    outcomeAt outside operation call i = .transient failure := by
  obtain ⟨hf, hc, hs⟩ := h
  simp only [renewals] at hf hs
  simp [outcomeAt, outcomeOf, hf, hc, hs]

theorem retries_of_outcomeAt {outside : Surroundings α ε} {operation : Nat → α → Attempt β ε}
    {call : RenewingCall α} {i : Nat} {failure : ε}
    (h : outcomeAt outside operation call i = .transient failure) :
    Retries outside operation (call.renewals outside i) i failure := by
  unfold outcomeAt at h
  cases hf : operation i (held outside call i) with
  | done value => simp [hf, outcomeOf] at h
  | panicked => simp [hf, outcomeOf] at h
  | failed found =>
    simp only [hf, outcomeOf] at h
    cases hc : outside.classify found with
    | none => simp [hc] at h
    | some kind =>
      cases kind with
      | fatal => simp [hc] at h
      | transient =>
        cases hs : outside.sinkPanics (call.reports + i) with
        | true => simp [hc, hs] at h
        | false =>
          simp only [hc, hs, Bool.false_eq_true, if_false, Outcome.transient.injEq] at h
          subst h
          exact ⟨hf, hc, hs⟩

theorem outcomeAt_of_breaks {outside : Surroundings α ε} {operation : Nat → α → Attempt β ε}
    {call : RenewingCall α} {i : Nat}
    (h : Breaks outside operation (call.renewals outside i) i) :
    outcomeAt outside operation call i = .panicked := by
  cases h with
  | operation hf =>
    simp only [renewals] at hf
    simp [outcomeAt, outcomeOf, hf]
  | classifier failure hf hc =>
    simp only [renewals] at hf
    simp [outcomeAt, outcomeOf, hf, hc]
  | sink failure hf hc hs =>
    simp only [renewals] at hf hs
    simp [outcomeAt, outcomeOf, hf, hc, hs]

theorem stepsAt_of_retries {outside : Surroundings α ε} {operation : Nat → α → Attempt β ε}
    {call : RenewingCall α} {i : Nat} {failure : ε}
    (h : Retries outside operation (call.renewals outside i) i failure) :
    retrySteps outside (call.renewals outside i) i failure = stepsAt outside operation call i := by
  simp [stepsAt, outcomeAt_of_retries h, retrySteps, renewals, bound]

/-- The attempts of an invocation from `first` on, of which there are `count` in all. -/
structure Traced (outside : Surroundings α ε) (operation : Nat → α → Attempt β ε)
    (call : RenewingCall α) (first count : Nat) (run : Invocation α β ε) : Prop where
  begun : first < count
  bounded : count ≤ call.bound
  renewed : ∀ i, first ≤ i → i + 1 < count →
    (∃ failure, outcomeAt outside operation call i = .transient failure) ∧
      outside.factory (call.factoryRuns + i) = .made (held outside call (i + 1))
  ended : EndsWith outside operation call (count - 1) run.completion
  steps : run.steps = (List.range' first (count - first)).flatMap (stepsAt outside operation call)

theorem Traced.single {outside : Surroundings α ε} {operation : Nat → α → Attempt β ε}
    {call : RenewingCall α} {first : Nat} {run : Invocation α β ε} (hb : first < call.bound)
    (he : EndsWith outside operation call first run.completion)
    (hs : run.steps = stepsAt outside operation call first) :
    Traced outside operation call first (first + 1) run where
  begun := by omega
  bounded := hb
  renewed := by intro i hi hlt; omega
  ended := by simpa using he
  steps := by
    have hcount : first + 1 - first = 1 := by omega
    simp [hcount, hs]

theorem Traced.cons {outside : Surroundings α ε} {operation : Nat → α → Attempt β ε}
    {call : RenewingCall α} {first count : Nat} {run : Invocation α β ε} {failure : ε}
    {delegate : α} (ho : outcomeAt outside operation call first = .transient failure)
    (hm : outside.factory (call.factoryRuns + first) = .made delegate)
    (h : Traced outside operation call (first + 1) count run) :
    Traced outside operation call first count
      (run.after (stepsAt outside operation call first)) where
  begun := by have := h.begun; omega
  bounded := h.bounded
  renewed := by
    intro i hi hlt
    by_cases hfirst : i = first
    · subst hfirst
      exact ⟨⟨failure, ho⟩, by rw [hm, held_succ hm]⟩
    · exact h.renewed i (by omega) hlt
  ended := h.ended
  steps := by
    have hbegun := h.begun
    have hcount : count - first = (count - (first + 1)) + 1 := by omega
    rw [hcount, List.range'_succ, List.flatMap_cons]
    simp [Invocation.after, h.steps]

theorem traced_of_course {outside : Surroundings α ε} {operation : Nat → α → Attempt β ε}
    {now : RenewingCall α} {first : Nat} {run : Invocation α β ε}
    (h : Course outside operation now first run) (call : RenewingCall α)
    (hnow : now = call.renewals outside first) (hb : first < call.bound) :
    ∃ count, Traced outside operation call first count run := by
  induction h with
  | @returned now i value hv =>
    subst hnow
    simp only [renewals] at hv
    have ho : outcomeAt outside operation call i = .done value := by
      simp [outcomeAt, outcomeOf, hv]
    exact ⟨i + 1, .single hb ho (by simp [stepsAt, ho, renewals])⟩
  | @fatal now i failure hf hc =>
    subst hnow
    simp only [renewals] at hf
    have ho : outcomeAt outside operation call i = .fatal failure := by
      simp [outcomeAt, outcomeOf, hf, hc]
    exact ⟨i + 1, .single hb ho (by simp [stepsAt, ho, renewals])⟩
  | @broken now i hx =>
    subst hnow
    have ho := outcomeAt_of_breaks hx
    exact ⟨i + 1, .single hb (.inl ho) (by simp [stepsAt, ho, renewals])⟩
  | @factoryPanicked now i failure hr hm =>
    subst hnow
    have ho := outcomeAt_of_retries hr
    exact ⟨i + 1, .single hb (.inr ⟨⟨failure, ho⟩, hm⟩) (stepsAt_of_retries hr)⟩
  | @refused now i failure fault hr hm =>
    subst hnow
    have ho := outcomeAt_of_retries hr
    exact ⟨i + 1, .single hb ⟨⟨failure, ho⟩, hm⟩ (stepsAt_of_retries hr)⟩
  | @exhausted now i failure delegate hr hm hn =>
    subst hnow
    have ho := outcomeAt_of_retries hr
    exact ⟨i + 1, .single hb ⟨rfl, hn, ho, delegate, hm⟩ (stepsAt_of_retries hr)⟩
  | @renewed now i failure delegate run hr hm hn _ ih =>
    subst hnow
    obtain ⟨count, hrest⟩ := ih (renew_renewals hm) hn
    rw [stepsAt_of_retries hr]
    exact ⟨count, hrest.cons (outcomeAt_of_retries hr) hm⟩

theorem delegates_stepsAt (outside : Surroundings α ε) (operation : Nat → α → Attempt β ε)
    (call : RenewingCall α) (i : Nat) :
    (stepsAt outside operation call i).filterMap CallStep.delegate? = [held outside call i] := by
  simp only [stepsAt]
  cases outcomeAt outside operation call i <;> simp [CallStep.delegate?]

theorem delegates_of_steps {outside : Surroundings α ε} {operation : Nat → α → Attempt β ε}
    {call : RenewingCall α} {run : Invocation α β ε} {attempts : List Nat}
    (h : run.steps = attempts.flatMap (stepsAt outside operation call)) :
    run.delegates = attempts.map (held outside call) := by
  rw [Invocation.delegates_eq, h]
  simp only [List.filterMap_flatMap, delegates_stepsAt, List.map_eq_flatMap]

/-- The counter of the loop: a word that starts at one and is raised after each attempt. -/
def counterAt : Nat → UInt32
  | 0 => 1
  | i + 1 => counterAt i + 1

theorem toNat_counterAt {i : Nat} (h : i + 1 < UInt32.size) : (counterAt i).toNat = i + 1 := by
  induction i with
  | zero => rfl
  | succ i ih =>
    have hi := ih (by omega)
    rw [counterAt, UInt32.toNat_add, hi, UInt32.toNat_one]
    exact Nat.mod_eq_of_lt h

/-- What the loop does once the attempts before one were all renewed: it runs on with the counter
of that attempt. -/
theorem invoke_eq_attemptFrom {outside : Surroundings α ε} {operation : Nat → α → Attempt β ε}
    {call : RenewingCall α} (h : call.poisoned = false) {i : Nat} (hi : i < call.bound)
    (hrenewed : ∀ j < i, (∃ failure, outcomeAt outside operation call j = .transient failure) ∧
      outside.factory (call.factoryRuns + j) = .made (held outside call (j + 1))) :
    call.invoke outside operation =
      (attemptFrom outside operation (call.renewals outside i) (counterAt i)).after
        ((List.range i).flatMap (stepsAt outside operation call)) := by
  induction i with
  | zero => simp [invoke, h, Invocation.after, counterAt, renewals_zero]
  | succ i ih =>
    have hsize := call.bound_lt_size
    have hcounter : (counterAt i).toNat = i + 1 := toNat_counterAt (by omega)
    have hlt : counterAt i < (call.renewals outside i).limit.attempts := by
      rw [UInt32.lt_iff_toNat_lt, hcounter]
      exact hi
    obtain ⟨⟨failure, ho⟩, hm⟩ := hrenewed i (by omega)
    have hr : Retries outside operation (call.renewals outside i) ((counterAt i).toNat - 1)
        failure := by
      rw [hcounter]
      exact retries_of_outcomeAt ho
    have hturn := attemptFrom_of_retries (by omega) hr hm hlt
    rw [ih (by omega) fun j hj => hrenewed j (by omega), hturn, hcounter, Nat.add_sub_cancel,
      stepsAt_of_retries (retries_of_outcomeAt ho), renew_renewals hm, List.range_succ]
    simp [Invocation.after, counterAt]

/-- An invocation of a sound call makes between one and the bound's number of attempts. All but
the last fail transiently and are renewed, each attempt runs on the delegate of the reactivation
before it, and how the last one comes out decides the completion. The steps are those of the
attempts in their order. The loop comes to each attempt with a counter that has not wrapped. -/
theorem invoke_attempts (outside : Surroundings α ε) (operation : Nat → α → Attempt β ε)
    (call : RenewingCall α) (h : call.poisoned = false) :
    let run := call.invoke outside operation
    let count := run.delegates.length
    1 ≤ count ∧ count ≤ call.bound ∧
    run.delegates = (List.range count).map (held outside call) ∧
    (∀ i, i + 1 < count →
      (∃ failure, outcomeAt outside operation call i = .transient failure) ∧
        outside.factory (call.factoryRuns + i) = .made (held outside call (i + 1))) ∧
    (∀ completion, run.completion = completion ↔
      EndsWith outside operation call (count - 1) completion) ∧
    run.steps = (List.range count).flatMap (stepsAt outside operation call) ∧
    ∀ i, i < count → (counterAt i).toNat = i + 1 ∧
      run = (attemptFrom outside operation (call.renewals outside i) (counterAt i)).after
        ((List.range i).flatMap (stepsAt outside operation call)) := by
  intro run count
  obtain ⟨n, ht⟩ := traced_of_course (course_invoke outside operation h) call
    (renewals_zero outside call) call.bound_pos
  have hsteps : run.steps = (List.range n).flatMap (stepsAt outside operation call) := by
    rw [List.range_eq_range']
    exact ht.steps
  have hdelegates := delegates_of_steps hsteps
  have hcount : count = n := by
    simp [count, hdelegates]
  have hbegun := ht.begun
  have hbounded := ht.bounded
  have hsize := call.bound_lt_size
  rw [hcount]
  refine ⟨by omega, hbounded, hdelegates, fun i hi => ht.renewed i (Nat.zero_le i) hi, ?_,
    hsteps, ?_⟩
  · intro completion
    constructor
    · intro hcompletion
      rw [← hcompletion]
      exact ht.ended
    · intro he
      exact ht.ended.eq_ending.trans he.eq_ending.symm
  · intro i hi
    refine ⟨toNat_counterAt (by omega), invoke_eq_attemptFrom h (by omega) ?_⟩
    intro j hj
    exact ht.renewed j (Nat.zero_le j) (by omega)

def wearing : Surroundings Nat Unit where
  factory number := .made number
  classify _ := some .transient
  describe _ := "timeout"
  sinkPanics _ := false

def wearingCall : RenewingCall Nat :=
  ⟨"IThing", .ofAttempts 2, 0, false, 1, 0⟩

def timeouts : Nat → Nat → Attempt Unit Unit :=
  fun _ _ => .failed ()

theorem invoke_attempts_wearing :
    let run := wearingCall.invoke wearing timeouts
    wearingCall.poisoned = false ∧ run.delegates = [0, 1] ∧
      run.completion = .failed (.exhausted 2 ()) := by
  intro run
  have hs : wearingCall.poisoned = false := rfl
  have hsecond : (attemptFrom wearing timeouts (wearingCall.renew 1) 2).delegates = [1] := by
    rw [attemptFrom]
    rfl
  have hd : run.delegates = [0, 1] := by
    have hfirst : run.delegates =
        0 :: (attemptFrom wearing timeouts (wearingCall.renew 1) 2).delegates := by
      simp only [run, invoke, hs, Bool.false_eq_true, if_false]
      rw [attemptFrom]
      rfl
    rw [hfirst, hsecond]
  obtain ⟨_, _, _, _, hcompletion, _, _⟩ := invoke_attempts wearing timeouts wearingCall hs
  refine ⟨hs, hd, (hcompletion _).mpr ?_⟩
  have hcount : run.delegates.length = 2 := by
    rw [hd]
    rfl
  rw [hcount]
  exact ⟨rfl, rfl, rfl, 2, rfl⟩

end ContractProxy.RenewingCall
