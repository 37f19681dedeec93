import ContractProxy.Proofs.Activation.Discovery

/-!
Factories compared by their runs. A factory that makes the same in another form has the same runs
but for that form, and one that writes down what it is asked for writes down the activations of its
run.
-/

set_option autoImplicit false

namespace ContractProxy.Activation

variable {σ π ρ : Type}

/-- The other factory makes the same of every candidate, in another form. -/
def Reshapes (form : π → ρ) (factory : Factory σ π) (other : Factory σ ρ) : Prop :=
  ∀ token platform s,
    other token platform s =
      ((factory token platform s).1.map form, (factory token platform s).2)

section

variable {form : π → ρ} {factory : Factory σ π} {other : Factory σ ρ}

theorem Reshapes.outcomes_eq (h : Reshapes form factory other) (tokens : List Token) (s : σ) :
    outcomes other tokens s =
      ((outcomes factory tokens s).1.map (Except.map form), (outcomes factory tokens s).2) := by
  induction tokens generalizing s with
  | nil => rfl
  | cons token rest ih => simp [outcomes_cons, h token token.platform s, ih]

theorem stepsOf_map (contract : Text) (token : Token) (outcome : Except ActivationFault π) :
    stepsOf contract (token, outcome.map form) = stepsOf contract (token, outcome) := by
  cases outcome <;> rfl

theorem flatMap_stepsOf_map (contract : Text) (tokens : List Token)
    (made : List (Except ActivationFault π)) :
    (tokens.zip (made.map (Except.map form))).flatMap (stepsOf contract) =
      (tokens.zip made).flatMap (stepsOf contract) := by
  rw [List.zip_map_right, List.flatMap_map]
  congr 1
  funext entry
  exact stepsOf_map contract entry.1 entry.2

theorem filterMap_toOption_map (made : List (Except ActivationFault π)) :
    (made.map (Except.map form)).filterMap Except.toOption =
      (made.filterMap Except.toOption).map form := by
  rw [List.filterMap_map, List.map_filterMap]
  congr 1
  funext outcome
  cases outcome <;> rfl

theorem Reshapes.activateAccepted_eq (h : Reshapes form factory other) (contract : Text)
    (discover : Discovery σ) (accepts : Token → Bool) (s : σ) :
    activateAccepted contract discover accepts other s =
      let run := activateAccepted contract discover accepts factory s
      (⟨run.1.result.map (List.map form), run.1.steps⟩, run.2) := by
  cases hfound : (discover s).1 with
  | error fault =>
    rw [activateAccepted_of_error hfound, activateAccepted_of_error hfound]
    rfl
  | ok tokens =>
    rw [activateAccepted_of_ok hfound, activateAccepted_of_ok hfound]
    simp only [h.outcomes_eq, filterMap_toOption_map, flatMap_stepsOf_map]
    rfl

end

def recording (factory : Factory σ π) : Factory (σ × List (Token × Platform)) π :=
  fun token platform s =>
    let reply := factory token platform s.1
    (reply.1, (reply.2, s.2 ++ [(token, platform)]))

/-- A discovery that leaves alone what is written down. -/
def Discovery.unrecorded (discover : Discovery σ) : Discovery (σ × List (Token × Platform)) :=
  fun s =>
    let found := discover s.1
    (found.1, (found.2, s.2))

theorem outcomes_recording (factory : Factory σ π) (tokens : List Token)
    (s : σ × List (Token × Platform)) :
    outcomes (recording factory) tokens s =
      let made := outcomes factory tokens s.1
      (made.1, (made.2, s.2 ++ tokens.map fun token => (token, token.platform))) := by
  induction tokens generalizing s with
  | nil =>
    simp only [List.map_nil, List.append_nil]
    rfl
  | cons token rest ih => simp [outcomes_cons, recording, ih]

theorem activateAccepted_recording (contract : Text) (discover : Discovery σ)
    (accepts : Token → Bool) (factory : Factory σ π) (s : σ × List (Token × Platform)) :
    activateAccepted contract discover.unrecorded accepts (recording factory) s =
      let run := activateAccepted contract discover accepts factory s.1
      (run.1, (run.2, s.2 ++ run.1.activations)) := by
  cases hfound : (discover s.1).1 with
  | error fault =>
    have hbeside : (discover.unrecorded s).1 = .error fault := hfound
    rw [activateAccepted_of_error hfound, activateAccepted_of_error hbeside]
    simp [Run.activations, Discovery.unrecorded]
  | ok tokens =>
    have hbeside : (discover.unrecorded s).1 = .ok tokens := hfound
    simp only [activations_of_ok hfound]
    rw [activateAccepted_of_ok hfound, activateAccepted_of_ok hbeside]
    simp only [outcomes_recording, Discovery.unrecorded]

end ContractProxy.Activation
