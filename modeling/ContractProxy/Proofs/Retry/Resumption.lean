import ContractProxy.Proofs.Retry.Sequence
import Mathlib.Data.List.Forall2

/-!
The same call under two limits. Where an invocation under the smaller limit does not give up, the
larger one changes nothing but the bound that its warnings print. Where it gives up, the larger
limit goes on from the call that was left behind, with the attempts that are left.
-/

set_option autoImplicit false

namespace ContractProxy

namespace AttemptLimit

def less (limit used : AttemptLimit) (h : used.attempts < limit.attempts) : AttemptLimit where
  attempts := limit.attempts - used.attempts
  positive := by
    have hlt := UInt32.lt_iff_toNat_lt.mp h
    have hsub := UInt32.toNat_sub_of_le limit.attempts used.attempts (UInt32.le_of_lt h)
    intro hzero
    rw [hzero, UInt32.toNat_zero] at hsub
    omega

theorem toNat_less {limit used : AttemptLimit} (h : used.attempts < limit.attempts) :
    (limit.less used h).attempts.toNat = limit.attempts.toNat - used.attempts.toNat :=
  UInt32.toNat_sub_of_le limit.attempts used.attempts (UInt32.le_of_lt h)

end AttemptLimit

namespace Completion

variable {β ε : Type}

def IsExhausted (completion : Completion β ε) : Prop :=
  ∃ attempts last, completion = .failed (.exhausted attempts last)

/-- The same completion under another bound, which only an exhausted invocation reports. -/
def reporting (attempts : UInt32) : Completion β ε → Completion β ε
  | .failed (.exhausted _ last) => .failed (.exhausted attempts last)
  | completion => completion

theorem reporting_of_not_isExhausted {completion : Completion β ε} (h : ¬ completion.IsExhausted)
    (attempts : UInt32) : completion.reporting attempts = completion := by
  unfold reporting
  split
  · rename_i found last
    exact absurd ⟨found, last, rfl⟩ h
  · rfl

end Completion

namespace RenewingCall

variable {α β ε : Type}

def within (call : RenewingCall α) (limit : AttemptLimit) : RenewingCall α :=
  { call with limit := limit }

/-- Two steps that are the same but for the numbers in a warning: its attempts are counted behind
those that have passed, and it prints another bound. -/
inductive Renumbered (contract : Text) (passed bound total : Nat) :
    CallStep α → CallStep α → Prop where
  | attempt (delegate : α) : Renumbered contract passed bound total (.attempt delegate)
      (.attempt delegate)
  | report (attempt : Nat) (reason : Text) : Renumbered contract passed bound total
      (.report (warning contract attempt bound reason))
      (.report (warning contract (passed + attempt) total reason))
  | factoryRun (number : Nat) : Renumbered contract passed bound total (.factoryRun number)
      (.factoryRun number)

theorem renumbered_retrySteps (outside : Surroundings α ε) (call : RenewingCall α)
    (limit : AttemptLimit) (passed number : Nat) (failure : ε) :
    List.Forall₂ (Renumbered call.contract passed call.bound limit.attempts.toNat)
      (retrySteps outside call number failure)
      (retrySteps outside (call.within limit) (passed + number) failure) :=
  .cons (.attempt _) (.cons (.report (number + 1) _) (.cons (.factoryRun _) .nil))

section

variable {outside : Surroundings α ε} {operation : Nat → α → Attempt β ε}

theorem Retries.resume {passed number : Nat} {call : RenewingCall α} {failure : ε}
    (h : Retries outside (fun i => operation (passed + i)) call number failure)
    (limit : AttemptLimit) :
    Retries outside operation (call.within limit) (passed + number) failure :=
  ⟨h.failed, h.transient, h.recorded⟩

theorem Breaks.resume {passed number : Nat} {call : RenewingCall α}
    (h : Breaks outside (fun i => operation (passed + i)) call number) (limit : AttemptLimit) :
    Breaks outside operation (call.within limit) (passed + number) := by
  cases h with
  | operation hf => exact .operation hf
  | classifier failure hf hc => exact .classifier failure hf hc
  | sink failure hf hc hs => exact .sink failure hf hc hs

theorem Course.eq_attemptFrom {call : RenewingCall α} {number : Nat} {run : Invocation α β ε}
    (h : Course outside operation call number run) {attempt : UInt32}
    (hn : attempt.toNat = number + 1) : run = attemptFrom outside operation call attempt := by
  have hindex : attempt.toNat - 1 = number := by omega
  have hpos : 0 < attempt.toNat := by omega
  induction h generalizing attempt with
  | returned hv =>
    rw [attemptFrom, hindex]
    simp [hv]
  | fatal hf hc =>
    rw [attemptFrom, hindex]
    simp [hf, hc]
  | broken hx =>
    rw [attemptFrom, hindex]
    cases hx with
    | operation hf => simp [hf]
    | classifier failure hf hc => simp [hf, hc]
    | sink failure hf hc hs => simp [hf, hc, hs]
  | @factoryPanicked call number failure hr hm =>
    rw [attemptFrom, ← hindex, ← retrySteps_of_word outside call hpos]
    simp [hindex, hr.failed, hr.transient, hr.recorded, hm, rerun]
  | @refused call number failure fault hr hm =>
    rw [attemptFrom, ← hindex, ← retrySteps_of_word outside call hpos]
    simp [hindex, hr.failed, hr.transient, hr.recorded, hm, rerun]
  | @exhausted call number failure delegate hr hm hb =>
    have hge : ¬ attempt < call.limit.attempts := by
      rw [UInt32.lt_iff_toNat_lt, hn, hb]
      exact Nat.lt_irrefl _
    rw [attemptFrom, ← hindex, ← retrySteps_of_word outside call hpos]
    simp [hindex, hr.failed, hr.transient, hr.recorded, hm, hge, renew, rerun]
  | @renewed call number failure delegate run hr hm hb _ ih =>
    have hlt : attempt < call.limit.attempts := by
      rw [UInt32.lt_iff_toNat_lt, hn]
      exact hb
    have hsucc := toNat_succ_of_lt hlt
    rw [← hindex] at hr
    have hnext : (attempt + 1).toNat = number + 1 + 1 := by omega
    rw [attemptFrom_of_retries hpos hr hm hlt, hindex, ← ih hnext (by omega) (by omega)]

theorem Course.eq_invoke {call : RenewingCall α} {run : Invocation α β ε}
    (h : Course outside operation call 0 run) (hs : call.poisoned = false) :
    run = call.invoke outside operation := by
  have hone : (1 : UInt32).toNat = 0 + 1 := rfl
  have hrun := h.eq_attemptFrom hone
  simpa [invoke, hs] using hrun

/-- The attempts of a call within its limit, seen as attempts of the same call within another one
after some have passed. If the call gives up where the other limit does not end, what the other
call goes on with is any course from there. -/
theorem Course.resume {passed number : Nat} {call : RenewingCall α} {run : Invocation α β ε}
    (h : Course outside (fun i => operation (passed + i)) call number run)
    (limit : AttemptLimit) :
    ∃ steps, List.Forall₂ (Renumbered call.contract passed call.bound limit.attempts.toNat)
        run.steps steps ∧
      (passed + call.bound ≤ limit.attempts.toNat →
        (run.completion.IsExhausted → passed + call.bound = limit.attempts.toNat) →
        Course outside operation (call.within limit) (passed + number)
          ⟨run.completion.reporting limit.attempts, run.call.within limit, steps⟩) ∧
      (passed + call.bound < limit.attempts.toNat → run.completion.IsExhausted →
        ∀ rest, Course outside operation (run.call.within limit) (passed + call.bound) rest →
          Course outside operation (call.within limit) (passed + number) (rest.after steps)) := by
  induction h with
  | @returned call number value hv =>
    refine ⟨_, .cons (.attempt _) .nil, fun _ _ => .returned hv, ?_⟩
    rintro _ ⟨_, _, he⟩
    cases he
  | @fatal call number failure hf hc =>
    refine ⟨_, .cons (.attempt _) .nil, fun _ _ => .fatal hf hc, ?_⟩
    rintro _ ⟨_, _, he⟩
    cases he
  | @broken call number hx =>
    refine ⟨_, .cons (.attempt _) .nil, fun _ _ => .broken (hx.resume limit), ?_⟩
    rintro _ ⟨_, _, he⟩
    cases he
  | @factoryPanicked call number failure hr hm =>
    refine ⟨_, renumbered_retrySteps outside call limit passed number failure,
      fun _ _ => .factoryPanicked (hr.resume limit) hm, ?_⟩
    rintro _ ⟨_, _, he⟩
    cases he
  | @refused call number failure fault hr hm =>
    refine ⟨_, renumbered_retrySteps outside call limit passed number failure,
      fun _ _ => .refused (hr.resume limit) hm, ?_⟩
    rintro _ ⟨_, _, he⟩
    cases he
  | @exhausted call number failure delegate hr hm hn =>
    refine ⟨_, renumbered_retrySteps outside call limit passed number failure, ?_, ?_⟩
    · intro _ hend
      have htotal := hend ⟨_, _, rfl⟩
      have hlast : passed + number + 1 = (call.within limit).bound := by
        rw [Nat.add_assoc, hn]
        exact htotal
      exact .exhausted (hr.resume limit) hm hlast
    · intro hlt _ rest hrest
      have hnext : passed + number + 1 = passed + call.bound := by omega
      rw [← hnext] at hrest
      exact .renewed (hr.resume limit) hm (by rw [hnext]; exact hlt) hrest
  | @renewed call number failure delegate run hr hm hn _ ih =>
    obtain ⟨steps, hsteps, hwhole, hrest⟩ := ih
    refine ⟨_, List.rel_append (renumbered_retrySteps outside call limit passed number failure)
      hsteps, ?_, ?_⟩
    · intro hle hend
      have hb : passed + number + 1 < (call.within limit).bound := by
        show passed + number + 1 < limit.attempts.toNat
        omega
      exact .renewed (hr.resume limit) hm hb (hwhole hle hend)
    · intro hlt he rest hcourse
      have hb : passed + number + 1 < (call.within limit).bound := by
        show passed + number + 1 < limit.attempts.toNat
        omega
      have h := Course.renewed (hr.resume limit) hm hb (hrest hlt he rest hcourse)
      simpa [Invocation.after, List.append_assoc] using h

end

/-- An invocation under a larger limit. If the smaller limit is enough, it ends in the same way, by
the same steps and in the same state, and only the bound in its warnings is another. If the smaller
limit is not enough, it takes the steps made under that limit and then those of an invocation under
what is left of its own, which begins on the call that was left behind and with the operation's
attempts that were not made; the numbers in the warnings go on, and exhaustion reports the larger
limit. -/
theorem invoke_within (outside : Surroundings α ε) (operation : Nat → α → Attempt β ε)
    (call : RenewingCall α) {short long : AttemptLimit} (h : short.attempts < long.attempts) :
    let m := short.attempts.toNat
    let n := long.attempts.toNat
    let first := (call.within short).invoke outside operation
    let whole := (call.within long).invoke outside operation
    let rest := (first.call.within (long.less short h)).invoke outside fun i => operation (m + i)
    (¬ first.completion.IsExhausted →
      whole.completion = first.completion ∧ whole.call = first.call.within long ∧
        List.Forall₂ (Renumbered call.contract 0 m n) first.steps whole.steps) ∧
    (first.completion.IsExhausted →
      whole.completion = rest.completion.reporting long.attempts ∧
        whole.call = rest.call.within long ∧
        ∃ before after, whole.steps = before ++ after ∧
          List.Forall₂ (Renumbered call.contract 0 m n) first.steps before ∧
          List.Forall₂ (Renumbered call.contract m (n - m) n) rest.steps after) := by
  intro m n first whole rest
  have hlt : m < n := UInt32.lt_iff_toNat_lt.mp h
  cases hs : call.poisoned with
  | true =>
    have hfirst : first = ⟨.failed (.poisoned call.contract), call.within short, []⟩ :=
      invoke_poisoned outside operation hs
    have hwhole : whole = ⟨.failed (.poisoned call.contract), call.within long, []⟩ :=
      invoke_poisoned outside operation hs
    rw [hfirst, hwhole]
    refine ⟨fun _ => ⟨rfl, rfl, .nil⟩, ?_⟩
    rintro ⟨_, _, he⟩
    cases he
  | false =>
    have hzero : (fun i => operation (0 + i)) = operation := by
      funext i
      rw [Nat.zero_add]
    have hcourse : Course outside operation (call.within short) 0 first :=
      course_invoke outside operation hs
    rw [← hzero] at hcourse
    obtain ⟨before, hbefore, hsame, hmore⟩ := hcourse.resume long
    rw [Nat.zero_add] at hsame hmore
    constructor
    · intro hend
      have hlong := hsame (Nat.le_of_lt hlt) fun he => absurd he hend
      have hwhole : _ = whole := hlong.eq_invoke hs
      rw [Completion.reporting_of_not_isExhausted hend] at hwhole
      rw [← hwhole]
      exact ⟨rfl, rfl, hbefore⟩
    · intro hend
      have hleft : (first.call.within (long.less short h)).poisoned = false := by
        obtain ⟨_, _, he⟩ := hend
        rw [← Bool.not_eq_true]
        intro hp
        have hpanicked := (hcourse.poisoned_iff hs).mp hp
        simp [he] at hpanicked
      have hrest : Course outside (fun i => operation (m + i))
          (first.call.within (long.less short h)) 0 rest :=
        course_invoke outside _ hleft
      obtain ⟨after, hafter, hgone, _⟩ := hrest.resume long
      have htotal : m + (first.call.within (long.less short h)).bound = n := by
        have hless := AttemptLimit.toNat_less h
        show m + (long.less short h).attempts.toNat = n
        omega
      have hcontract : first.call.contract = call.contract := hcourse.contract_eq
      have htail := hgone (Nat.le_of_eq htotal) fun _ => htotal
      have hwhole : _ = whole := (hmore hlt hend _ htail).eq_invoke hs
      have hless : n - m = (first.call.within (long.less short h)).bound :=
        (AttemptLimit.toNat_less h).symm
      rw [← hwhole, hless, ← hcontract]
      exact ⟨rfl, rfl, before, after, rfl, by rwa [hcontract], hafter⟩

def renumbering : Surroundings Nat Unit where
  factory number := .made number
  classify _ := some .transient
  describe _ := "timeout"
  sinkPanics _ := false

def recovering : Nat → Nat → Attempt Nat Unit
  | 3, delegate => .done delegate
  | _, _ => .failed ()

def freshCall : RenewingCall Nat :=
  ⟨"IThing", .default, 0, false, 1, 0⟩

/-- Two attempts are not enough and four are: with five, the call goes on from the second and comes
to the end that it has with four. -/
theorem invoke_within_recovering :
    let run (attempts : UInt32) :=
      (freshCall.within (.ofAttempts attempts)).invoke renumbering recovering
    (run 2).completion.IsExhausted ∧ ¬ (run 4).completion.IsExhausted ∧
      (run 5).completion = .returned 3 ∧ (run 5).steps.length = 3 * 3 + 1 ∧
      List.Forall₂ (Renumbered "IThing" 0 4 5) (run 4).steps (run 5).steps := by
  intro run
  have htwo : (run 2).completion.IsExhausted := ⟨2, (), by with_unfolding_all rfl⟩
  have hfour : (run 4).completion = .returned 3 := by with_unfolding_all rfl
  have henough : ¬ (run 4).completion.IsExhausted := by
    rintro ⟨_, _, he⟩
    rw [hfour] at he
    cases he
  have hless : (AttemptLimit.ofAttempts 2).attempts < (AttemptLimit.ofAttempts 5).attempts := by
    decide
  obtain ⟨_, hmore⟩ := invoke_within renumbering recovering freshCall hless
  obtain ⟨_, _, before, after, hsplit, hbefore, hafter⟩ := hmore htwo
  have hleast : (AttemptLimit.ofAttempts 4).attempts < (AttemptLimit.ofAttempts 5).attempts := by
    decide
  obtain ⟨hsame, _⟩ := invoke_within renumbering recovering freshCall hleast
  obtain ⟨hfive, _, hsteps⟩ := hsame henough
  refine ⟨htwo, henough, ?_, ?_, hsteps⟩
  · exact hfive.trans hfour
  · have hlength : (run 5).steps.length = before.length + after.length := by
      rw [← List.length_append]
      exact congrArg List.length hsplit
    rw [hlength, ← hbefore.length_eq, ← hafter.length_eq]
    with_unfolding_all rfl

end RenewingCall

end ContractProxy
