import ContractProxy.Retry.Call

/-!
The attempts of an invocation as a relation with unbounded numbers. The loop counts its attempts
with a 32-bit word; every run of the loop follows the relation, so the word never wraps.
-/

set_option autoImplicit false

namespace ContractProxy

def CallStep.delegate? {α : Type} : CallStep α → Option α
  | .attempt delegate => some delegate
  | _ => none

theorem Invocation.delegates_eq {α β ε : Type} (run : Invocation α β ε) :
    run.delegates = run.steps.filterMap CallStep.delegate? := by
  unfold delegates
  congr 1

namespace RenewingCall

variable {α β ε : Type}

/-- The warning before the reactivation that follows an attempt. Attempts count from one. -/
def warning (contract : Text) (attempt bound : Nat) (reason : Text) : Event where
  level := .warn
  kind := .reactivating
  contract := some contract
  message :=
    "reactivating " ++ contract ++ " (attempt " ++ Text.decimal attempt ++ " of " ++
      Text.decimal bound ++ ") due to: " ++ reason

theorem reactivation_eq_warning (call : RenewingCall α) (attempt : UInt32) (reason : Text) :
    call.reactivation attempt reason =
      warning call.contract attempt.toNat call.limit.attempts.toNat reason := rfl

def bound (call : RenewingCall α) : Nat :=
  call.limit.attempts.toNat

theorem bound_pos (call : RenewingCall α) : 0 < call.bound := by
  have h := call.limit.positive
  rw [Ne, ← UInt32.toNat_inj, UInt32.toNat_zero] at h
  unfold bound; omega

theorem bound_lt_size (call : RenewingCall α) : call.bound < UInt32.size :=
  call.limit.attempts.toNat_lt

def rerun (call : RenewingCall α) : RenewingCall α :=
  { call with reports := call.reports + 1, factoryRuns := call.factoryRuns + 1 }

def renew (call : RenewingCall α) (delegate : α) : RenewingCall α :=
  { call.rerun with delegate := delegate }

structure Retries (outside : Surroundings α ε) (operation : Nat → α → Attempt β ε)
    (call : RenewingCall α) (number : Nat) (failure : ε) : Prop where
  failed : operation number call.delegate = .failed failure
  transient : outside.classify failure = some .transient
  recorded : outside.sinkPanics call.reports = false

/-- An attempt ends in a panic before its warning is recorded. -/
inductive Breaks (outside : Surroundings α ε) (operation : Nat → α → Attempt β ε)
    (call : RenewingCall α) (number : Nat) : Prop where
  | operation : operation number call.delegate = .panicked → Breaks outside operation call number
  | classifier (failure : ε) : operation number call.delegate = .failed failure →
      outside.classify failure = none → Breaks outside operation call number
  | sink (failure : ε) : operation number call.delegate = .failed failure →
      outside.classify failure = some .transient → outside.sinkPanics call.reports = true →
      Breaks outside operation call number

def retrySteps (outside : Surroundings α ε) (call : RenewingCall α) (number : Nat)
    (failure : ε) : List (CallStep α) :=
  [.attempt call.delegate,
    .report (warning call.contract (number + 1) call.bound (outside.describe failure)),
    .factoryRun call.factoryRuns]

/-- The ways in which the attempts from a given one on can go. Attempts count from zero, and the
bound is tested after the factory has run. -/
inductive Course (outside : Surroundings α ε) (operation : Nat → α → Attempt β ε) :
    RenewingCall α → Nat → Invocation α β ε → Prop where
  | returned {call : RenewingCall α} {number : Nat} {value : β} :
      operation number call.delegate = .done value →
      Course outside operation call number ⟨.returned value, call, [.attempt call.delegate]⟩
  | fatal {call : RenewingCall α} {number : Nat} {failure : ε} :
      operation number call.delegate = .failed failure →
      outside.classify failure = some .fatal →
      Course outside operation call number
        ⟨.failed (.fatal failure), call, [.attempt call.delegate]⟩
  | broken {call : RenewingCall α} {number : Nat} :
      Breaks outside operation call number →
      Course outside operation call number ⟨.panicked, call.poison, [.attempt call.delegate]⟩
  | factoryPanicked {call : RenewingCall α} {number : Nat} {failure : ε} :
      Retries outside operation call number failure →
      outside.factory call.factoryRuns = .panicked →
      Course outside operation call number
        ⟨.panicked, call.rerun.poison, retrySteps outside call number failure⟩
  | refused {call : RenewingCall α} {number : Nat} {failure : ε} {fault : ActivationFault} :
      Retries outside operation call number failure →
      outside.factory call.factoryRuns = .refused fault →
      Course outside operation call number
        ⟨.failed (.activation fault), call.rerun, retrySteps outside call number failure⟩
  | exhausted {call : RenewingCall α} {number : Nat} {failure : ε} {delegate : α} :
      Retries outside operation call number failure →
      outside.factory call.factoryRuns = .made delegate →
      number + 1 = call.bound →
      Course outside operation call number
        ⟨.failed (.exhausted call.limit.attempts failure), call.renew delegate,
          retrySteps outside call number failure⟩
  | renewed {call : RenewingCall α} {number : Nat} {failure : ε} {delegate : α}
      {run : Invocation α β ε} :
      Retries outside operation call number failure →
      outside.factory call.factoryRuns = .made delegate →
      number + 1 < call.bound →
      Course outside operation (call.renew delegate) (number + 1) run →
      Course outside operation call number (run.after (retrySteps outside call number failure))

theorem toNat_succ_of_lt {attempt limit : UInt32} (h : attempt < limit) :
    (attempt + 1).toNat = attempt.toNat + 1 := by
  have below := UInt32.lt_iff_toNat_lt.mp h
  have bound := limit.toNat_lt
  rw [UInt32.toNat_add, UInt32.toNat_one]
  exact Nat.mod_eq_of_lt (by omega)

theorem retrySteps_of_word (outside : Surroundings α ε) (call : RenewingCall α)
    {attempt : UInt32} (hpos : 0 < attempt.toNat) (failure : ε) :
    [.attempt call.delegate] ++
        [.report (call.reactivation attempt (outside.describe failure)),
          .factoryRun call.factoryRuns] =
      retrySteps outside call (attempt.toNat - 1) failure := by
  have hn : attempt.toNat - 1 + 1 = attempt.toNat := by omega
  simp [retrySteps, hn, bound, reactivation_eq_warning]

theorem attemptFrom_of_retries {outside : Surroundings α ε} {operation : Nat → α → Attempt β ε}
    {call : RenewingCall α} {attempt : UInt32} {failure : ε} {delegate : α}
    (hpos : 0 < attempt.toNat) (hr : Retries outside operation call (attempt.toNat - 1) failure)
    (hm : outside.factory call.factoryRuns = .made delegate)
    (hlt : attempt < call.limit.attempts) :
    attemptFrom outside operation call attempt =
      (attemptFrom outside operation (call.renew delegate) (attempt + 1)).after
        (retrySteps outside call (attempt.toNat - 1) failure) := by
  rw [attemptFrom, ← retrySteps_of_word outside call hpos]
  simp only [hr.failed, hr.transient, hr.recorded, hm, hlt, if_true, Bool.false_eq_true, if_false]
  rfl

theorem course_attemptFrom (outside : Surroundings α ε) (operation : Nat → α → Attempt β ε)
    (call : RenewingCall α) (attempt : UInt32) (hpos : 0 < attempt.toNat)
    (hle : attempt.toNat ≤ call.bound) :
    Course outside operation call (attempt.toNat - 1)
      (attemptFrom outside operation call attempt) := by
  fun_induction attemptFrom outside operation call attempt with
  | case1 call attempt begun value hv => exact .returned hv
  | case2 call attempt begun hv => exact .broken (.operation hv)
  | case3 call attempt begun failure hf hc => exact .broken (.classifier failure hf hc)
  | case4 call attempt begun failure hf hc => exact .fatal hf hc
  | case5 call attempt begun failure hf hc hs => exact .broken (.sink failure hf hc hs)
  | case6 call attempt begun failure hf hc hs event steps next hm =>
    have hr : Retries outside operation call (attempt.toNat - 1) failure :=
      ⟨hf, hc, by simpa using hs⟩
    have h := Course.factoryPanicked hr hm
    rwa [← retrySteps_of_word outside call hpos] at h
  | case7 call attempt begun failure hf hc hs event steps next fault hm =>
    have hr : Retries outside operation call (attempt.toNat - 1) failure :=
      ⟨hf, hc, by simpa using hs⟩
    have h := Course.refused hr hm
    rwa [← retrySteps_of_word outside call hpos] at h
  | case8 call attempt begun failure hf hc hs event steps next delegate hm hlt ih =>
    have hr : Retries outside operation call (attempt.toNat - 1) failure :=
      ⟨hf, hc, by simpa using hs⟩
    have hsucc := toNat_succ_of_lt hlt
    have hbound : attempt.toNat < call.bound := UInt32.lt_iff_toNat_lt.mp hlt
    have hrest := ih (by omega) (by rw [hsucc]; exact hbound)
    have hnext : (attempt + 1).toNat - 1 = attempt.toNat - 1 + 1 := by omega
    rw [hnext] at hrest
    have h := Course.renewed hr hm (by omega) hrest
    rwa [← retrySteps_of_word outside call hpos] at h
  | case9 call attempt begun failure hf hc hs event steps next delegate hm hge =>
    have hr : Retries outside operation call (attempt.toNat - 1) failure :=
      ⟨hf, hc, by simpa using hs⟩
    have hbound : call.bound ≤ attempt.toNat :=
      Nat.not_lt.mp fun hlt => hge (UInt32.lt_iff_toNat_lt.mpr hlt)
    have h := Course.exhausted hr hm (by omega)
    rwa [← retrySteps_of_word outside call hpos] at h

theorem course_invoke (outside : Surroundings α ε) (operation : Nat → α → Attempt β ε)
    {call : RenewingCall α} (h : call.poisoned = false) :
    Course outside operation call 0 (call.invoke outside operation) := by
  have hone : (1 : UInt32).toNat = 1 := rfl
  have hrun := course_attemptFrom outside operation call 1 (by omega) call.bound_pos
  simpa [invoke, h] using hrun

theorem invoke_poisoned (outside : Surroundings α ε) (operation : Nat → α → Attempt β ε)
    {call : RenewingCall α} (h : call.poisoned = true) :
    call.invoke outside operation = ⟨.failed (.poisoned call.contract), call, []⟩ := by
  simp [invoke, h]

end RenewingCall

end ContractProxy
