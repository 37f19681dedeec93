import ContractProxy.Activation.Discovery
import Mathlib.Data.List.Basic

/-!
What a run of activations comes to. The factory has one outcome for each accepted candidate, in the
order of discovery and on the platform that the candidate asks for; the outcomes decide the proxies,
the steps and the events.
-/

set_option autoImplicit false

namespace ContractProxy

namespace Platform

/-- The platform's name without capital letters. -/
def spelling : Platform → Text
  | .host => "host"
  | .anyCpu => "anycpu"
  | .x86 => "x86"
  | .x64 => "x64"
  | .arm => "arm"

/-- The value is the platform's name but for blanks around it and the case of ASCII letters. -/
def SpelledBy (platform : Platform) (value : Text) : Prop :=
  (Text.trim value).map Char.toLower = platform.spelling

theorem eq_of_spelledBy {value : Text} {platform other : Platform} (h : platform.SpelledBy value)
    (h' : other.SpelledBy value) : platform = other := by
  have hspellings : platform.spelling = other.spelling := h.symm.trans h'
  revert hspellings
  cases platform <;> cases other <;> decide

theorem toLower_name (platform : Platform) :
    platform.name.map Char.toLower = platform.spelling := by
  cases platform <;> rfl

theorem sameAsciiName_iff {value : Text} {platform : Platform} :
    sameAsciiName platform.name (Text.trim value) = true ↔ platform.SpelledBy value := by
  rw [sameAsciiName, beq_iff_eq, toLower_name, SpelledBy, eq_comm]

theorem spelledBy_of_ofName? {value : Text} {platform : Platform}
    (h : ofName? value = some platform) : platform.SpelledBy value := by
  unfold ofName? at h
  have hsame := List.find?_some h
  exact sameAsciiName_iff.mp hsame

theorem ofName?_eq_some_iff {value : Text} {platform : Platform} :
    ofName? value = some platform ↔ platform.SpelledBy value := by
  refine ⟨spelledBy_of_ofName?, fun h => ?_⟩
  have hmem : platform ∈ all := by cases platform <;> decide
  cases hfound : ofName? value with
  | none =>
    unfold ofName? at hfound
    exact absurd (sameAsciiName_iff.mpr h) (List.find?_eq_none.mp hfound platform hmem)
  | some found => rw [eq_of_spelledBy (spelledBy_of_ofName? hfound) h]

end Platform

namespace Token

/-- The platform that the qualification data name, or the host's if they name none. -/
inductive AsksFor (token : Token) : Platform → Prop where
  | named {value : Text} {platform : Platform} :
      token.qualifications.get? "Platform" = some value → platform.SpelledBy value →
      AsksFor token platform
  | unknown {value : Text} :
      token.qualifications.get? "Platform" = some value →
      (∀ platform : Platform, ¬ platform.SpelledBy value) → AsksFor token .host
  | absent : token.qualifications.get? "Platform" = none → AsksFor token .host

theorem platform_eq (token : Token) :
    token.platform =
      match token.qualifications.get? "Platform" with
      | some value => .ofNameOrHost value
      | none => .host := rfl

theorem platform_eq_iff {token : Token} {platform : Platform} :
    token.platform = platform ↔ token.AsksFor platform := by
  rw [platform_eq]
  constructor
  · rintro rfl
    split
    · rename_i value hvalue
      unfold Platform.ofNameOrHost
      cases hname : Platform.ofName? value with
      | none =>
        refine .unknown hvalue fun other hother => ?_
        rw [Platform.ofName?_eq_some_iff.mpr hother] at hname
        cases hname
      | some found => exact .named hvalue (Platform.ofName?_eq_some_iff.mp hname)
    · rename_i hnone
      exact .absent hnone
  · intro h
    cases h with
    | named hvalue hspelled =>
      rw [hvalue]
      simp only [Platform.ofNameOrHost, Platform.ofName?_eq_some_iff.mpr hspelled, Option.getD_some]
    | @unknown value hvalue hnone =>
      have hname : Platform.ofName? value = none := by
        rw [Option.eq_none_iff_forall_ne_some]
        exact fun other hother => hnone other (Platform.ofName?_eq_some_iff.mp hother)
      rw [hvalue]
      simp only [Platform.ofNameOrHost, hname, Option.getD_none]
    | absent hnone => rw [hnone]

end Token

namespace Activation

variable {σ π : Type}

def outcomes (factory : Factory σ π) (tokens : List Token) :
    StateM σ (List (Except ActivationFault π)) :=
  tokens.mapM fun token => factory token token.platform

theorem outcomes_cons (factory : Factory σ π) (token : Token) (rest : List Token) (s : σ) :
    outcomes factory (token :: rest) s =
      let first := factory token token.platform s
      let others := outcomes factory rest first.2
      (first.1 :: others.1, others.2) := by
  unfold outcomes
  rw [List.mapM_cons]
  rfl

theorem length_outcomes (factory : Factory σ π) (tokens : List Token) (s : σ) :
    (outcomes factory tokens s).1.length = tokens.length := by
  induction tokens generalizing s with
  | nil => rfl
  | cons token rest ih => simp [outcomes_cons, ih]

def fault? : Except ActivationFault π → Option ActivationFault
  | .ok _ => none
  | .error fault => some fault

theorem length_toOption_add_length_fault? (made : List (Except ActivationFault π)) :
    (made.filterMap Except.toOption).length + (made.filterMap fault?).length = made.length := by
  induction made with
  | nil => rfl
  | cons outcome rest ih =>
    cases outcome <;> simp [List.filterMap_cons, Except.toOption, fault?] <;> omega

def announced (contract : Text) (token : Token) : Event where
  level := .info
  kind := .activating
  contract := some contract
  message :=
    "candidate named '" ++ token.name ++ "', version " ++ token.version ++ ", published by '" ++
      token.publisher ++ "' and described as '" ++ token.description ++
      "' will be activated under platform " ++ token.platform.name

theorem announcement_eq_announced (contract : Text) (token : Token) :
    announcement contract token = announced contract token := rfl

/-- The error that a candidate's failure is reported with, which says what the failure says. -/
def refusal (contract : Text) (fault : ActivationFault) : Event where
  level := .error
  kind := .activationSkipped
  contract := some contract
  message := fault.message

theorem skipped_eq_refusal (contract : Text) (fault : ActivationFault) :
    skipped contract fault = refusal contract fault := rfl

/-- A candidate is announced, then the factory runs, then a failure is reported. -/
def stepsOf (contract : Text) : Token × Except ActivationFault π → List Step
  | (token, .ok _) =>
    [.report (announced contract token), .activation token token.platform]
  | (token, .error fault) =>
    [.report (announced contract token), .activation token token.platform,
      .report (refusal contract fault)]

theorem activateEach_cons (contract : Text) (factory : Factory σ π) (token : Token)
    (rest : List Token) (s : σ) :
    activateEach contract factory (token :: rest) s =
      let first := factory token token.platform s
      let others := activateEach contract factory rest first.2
      ((first.1.toOption.toList ++ others.1.1, stepsOf contract (token, first.1) ++ others.1.2),
        others.2) := by
  rw [activateEach]
  simp only [announcement_eq_announced, skipped_eq_refusal]
  rcases hfirst : factory token token.platform s with ⟨fault | proxy, next⟩ <;>
    simp [bind, StateT.bind, hfirst, stepsOf, Except.toOption] <;> rfl

theorem activateEach_apply (contract : Text) (factory : Factory σ π) (tokens : List Token)
    (s : σ) :
    activateEach contract factory tokens s =
      let made := outcomes factory tokens s
      ((made.1.filterMap Except.toOption, (tokens.zip made.1).flatMap (stepsOf contract)),
        made.2) := by
  induction tokens generalizing s with
  | nil => rfl
  | cons token rest ih =>
    simp only [activateEach_cons, outcomes_cons, ih]
    cases (factory token token.platform s).1 <;> simp [Except.toOption, List.filterMap_cons]

def Step.event? : Step → Option Event
  | .report event => some event
  | .activation .. => none

def Step.activation? : Step → Option (Token × Platform)
  | .report _ => none
  | .activation token platform => some (token, platform)

theorem Run.events_eq (run : Run π) : run.events = run.steps.filterMap Step.event? := by
  unfold events
  congr 1

theorem Run.activations_eq (run : Run π) :
    run.activations = run.steps.filterMap Step.activation? := by
  unfold activations
  congr 1

def eventsOf (contract : Text) : Token × Except ActivationFault π → List Event
  | (token, .ok _) => [announced contract token]
  | (token, .error fault) => [announced contract token, refusal contract fault]

theorem events_stepsOf (contract : Text) (entry : Token × Except ActivationFault π) :
    (stepsOf contract entry).filterMap Step.event? = eventsOf contract entry := by
  rcases entry with ⟨token, fault | proxy⟩ <;> rfl

theorem activations_stepsOf (contract : Text) (entry : Token × Except ActivationFault π) :
    (stepsOf contract entry).filterMap Step.activation? = [(entry.1, entry.1.platform)] := by
  rcases entry with ⟨token, fault | proxy⟩ <;> rfl

theorem announced_eventsOf (contract : Text) (entry : Token × Except ActivationFault π) :
    Event.ofKind .activating (eventsOf contract entry) = [announced contract entry.1] := by
  rcases entry with ⟨token, fault | proxy⟩ <;> rfl

theorem refused_eventsOf (contract : Text) (entry : Token × Except ActivationFault π) :
    Event.ofKind .activationSkipped (eventsOf contract entry) =
      (fault? entry.2).toList.map (refusal contract) := by
  rcases entry with ⟨token, fault | proxy⟩ <;> rfl

theorem noCandidates_eventsOf (contract : Text) (entry : Token × Except ActivationFault π) :
    Event.ofKind .noCandidates (eventsOf contract entry) = [] := by
  rcases entry with ⟨token, fault | proxy⟩ <;> rfl

theorem ofKind_append (kind : EventKind) (events more : List Event) :
    Event.ofKind kind (events ++ more) = Event.ofKind kind events ++ Event.ofKind kind more :=
  List.filter_append ..

theorem ofKind_flatMap {α : Type} (kind : EventKind) (items : List α) (events : α → List Event) :
    Event.ofKind kind (items.flatMap events) =
      items.flatMap fun item => Event.ofKind kind (events item) :=
  List.filter_flatMap ..

section

variable (contract : Text) (entries : List (Token × Except ActivationFault π))

theorem events_steps (warnings : List Event) :
    (warnings.map Step.report ++ entries.flatMap (stepsOf contract)).filterMap Step.event? =
      warnings ++ entries.flatMap (eventsOf contract) := by
  have hwarnings : (warnings.map Step.report).filterMap Step.event? = warnings := by
    rw [List.filterMap_map]
    exact List.filterMap_some
  rw [List.filterMap_append, hwarnings, List.filterMap_flatMap]
  simp only [events_stepsOf]

theorem activations_steps (warnings : List Event) :
    (warnings.map Step.report ++ entries.flatMap (stepsOf contract)).filterMap Step.activation? =
      entries.map fun entry => (entry.1, entry.1.platform) := by
  have hwarnings : (warnings.map Step.report).filterMap Step.activation? = [] := by
    simp [Step.activation?]
  rw [List.filterMap_append, hwarnings, List.nil_append, List.filterMap_flatMap]
  simp only [activations_stepsOf, List.map_eq_flatMap]

theorem length_announced_events :
    (Event.ofKind .activating (entries.flatMap (eventsOf contract))).length = entries.length := by
  simp [ofKind_flatMap, announced_eventsOf]

theorem length_refused_events :
    (Event.ofKind .activationSkipped (entries.flatMap (eventsOf contract))).length =
      ((entries.map Prod.snd).filterMap fault?).length := by
  rw [ofKind_flatMap]
  induction entries with
  | nil => rfl
  | cons entry rest ih =>
    rw [List.flatMap_cons, List.length_append, ih, refused_eventsOf]
    cases h : fault? entry.2 <;> simp [h]
    omega

theorem noCandidates_events :
    Event.ofKind .noCandidates (entries.flatMap (eventsOf contract)) = [] := by
  simp [ofKind_flatMap, noCandidates_eventsOf]

end

/-- The warning that nothing was discovered. Candidates that are not accepted are discovered. -/
def warningsFor (contract : Text) (tokens : List Token) : List Event :=
  if tokens = [] then
    [{ level := .warn
       kind := .noCandidates
       contract := some contract
       message := "no candidates of " ++ contract ++ " were found" }]
  else []

theorem ofKind_warningsFor (kind : EventKind) (contract : Text) (tokens : List Token) :
    Event.ofKind kind (warningsFor contract tokens) =
      if kind = .noCandidates then warningsFor contract tokens else [] := by
  unfold warningsFor
  cases tokens <;> cases kind <;> rfl

section

variable {contract : Text} {discover : Discovery σ} {accepts : Token → Bool}
  {factory : Factory σ π} {s : σ}

theorem activateAccepted_of_error {fault : ActivationFault} (h : (discover s).1 = .error fault) :
    activateAccepted contract discover accepts factory s =
      (⟨.error (.discovery contract fault.message), []⟩, (discover s).2) := by
  unfold activateAccepted
  rcases hfound : discover s with ⟨found, next⟩
  rw [hfound] at h
  subst h
  simp [bind, StateT.bind, hfound]
  rfl

theorem activateAccepted_of_ok {tokens : List Token} (h : (discover s).1 = .ok tokens) :
    activateAccepted contract discover accepts factory s =
      let accepted := tokens.filter accepts
      let made := outcomes factory accepted (discover s).2
      (⟨.ok (made.1.filterMap Except.toOption),
        (warningsFor contract tokens).map Step.report ++
          (accepted.zip made.1).flatMap (stepsOf contract)⟩, made.2) := by
  unfold activateAccepted
  rcases hfound : discover s with ⟨found, next⟩
  rw [hfound] at h
  subst h
  simp [bind, StateT.bind, hfound, activateEach_apply]
  cases tokens <;> rfl

theorem activations_of_ok {tokens : List Token} (h : (discover s).1 = .ok tokens) :
    (activateAccepted contract discover accepts factory s).1.activations =
      (tokens.filter accepts).map fun token => (token, token.platform) := by
  have hlength := length_outcomes factory (tokens.filter accepts) (discover s).2
  rw [Run.activations_eq, activateAccepted_of_ok h]
  calc _ = ((tokens.filter accepts).zip _).map fun entry => (entry.1, entry.1.platform) :=
        activations_steps contract _ _
    _ = (((tokens.filter accepts).zip _).map Prod.fst).map
          fun token => (token, token.platform) := by
        rw [List.map_map]
        rfl
    _ = (tokens.filter accepts).map fun token => (token, token.platform) := by
        rw [List.map_fst_zip (Nat.le_of_eq hlength.symm)]

end

/-- A run fails exactly if discovery does, and then nothing else is done. Otherwise the factory is
given each accepted candidate once, in the order of discovery and with the platform that the
candidate asks for; the run returns what the factory made, and reports an empty discovery, then each
candidate and behind it the failure of that candidate. -/
theorem activateAccepted_run (contract : Text) (discover : Discovery σ) (accepts : Token → Bool)
    (factory : Factory σ π) (s : σ) :
    let run := activateAccepted contract discover accepts factory s
    let found := discover s
    ((∃ fault, run.1.result = .error fault) ↔ ∃ fault, found.1 = .error fault) ∧
    (∀ fault, found.1 = .error fault →
      run = (⟨.error (.discovery contract fault.message), []⟩, found.2)) ∧
    (∀ tokens, found.1 = .ok tokens →
      let accepted := tokens.filter accepts
      let made := outcomes factory accepted found.2
      let proxies := made.1.filterMap Except.toOption
      run.1.result = .ok proxies ∧ run.2 = made.2 ∧ made.1.length = accepted.length ∧
      run.1.activations = accepted.map (fun token => (token, token.platform)) ∧
      run.1.steps = (warningsFor contract tokens).map Step.report ++
        (accepted.zip made.1).flatMap (stepsOf contract) ∧
      run.1.events =
        warningsFor contract tokens ++ (accepted.zip made.1).flatMap (eventsOf contract) ∧
      Event.ofKind .noCandidates run.1.events = warningsFor contract tokens ∧
      (Event.ofKind .activating run.1.events).length =
        proxies.length + (Event.ofKind .activationSkipped run.1.events).length) ∧
    ∀ (token : Token) (platform : Platform),
      token.platform = platform ↔ token.AsksFor platform := by
  intro run found
  refine ⟨?_, fun fault hfault => activateAccepted_of_error hfault, ?_,
    fun _ _ => Token.platform_eq_iff⟩
  · cases hfound : found.1 with
    | error fault =>
      have hrun : run = _ := activateAccepted_of_error hfound
      simp [hrun]
    | ok tokens =>
      have hrun : run = _ := activateAccepted_of_ok hfound
      simp [hrun]
  · intro tokens htokens accepted made proxies
    have hrun : run = _ := activateAccepted_of_ok htokens
    have hlength : made.1.length = accepted.length := length_outcomes factory accepted _
    have hmade : (accepted.zip made.1).map Prod.snd = made.1 :=
      List.map_snd_zip (Nat.le_of_eq hlength)
    have hevents : run.1.events =
        warningsFor contract tokens ++ (accepted.zip made.1).flatMap (eventsOf contract) := by
      rw [Run.events_eq, hrun]
      exact events_steps contract _ _
    have hcount := length_toOption_add_length_fault? made.1
    refine ⟨by rw [hrun], by rw [hrun], hlength, activations_of_ok htokens, by rw [hrun],
      hevents, ?_, ?_⟩
    · simp [hevents, ofKind_append, ofKind_warningsFor, noCandidates_events]
    · simp only [hevents, ofKind_append, ofKind_warningsFor, reduceCtorEq, if_false,
        List.nil_append, length_announced_events, length_refused_events, hmade]
      rw [hcount, List.length_zip, hlength, Nat.min_self]

end Activation

end ContractProxy
