import ContractProxy.Text.Basic

/-!
The order of texts by the code points of their characters, from the first on; it is also the order
of their UTF-8 forms. Main statement: the order is strict and total.
-/

set_option autoImplicit false

namespace ContractProxy.Text

def precedes : Text → Text → Bool
  | _, [] => false
  | [], _ :: _ => true
  | c :: s, d :: t => c.toNat < d.toNat || (c == d && precedes s t)

theorem precedes_cons {c d : Char} {s t : Text} :
    precedes (c :: s) (d :: t) = true ↔ c.toNat < d.toNat ∨ c = d ∧ precedes s t = true := by
  simp [precedes]

theorem precedes_irrefl (s : Text) : precedes s s = false := by
  induction s with
  | nil => rfl
  | cons c s ih => simp [precedes, ih]

theorem precedes_trans {s t u : Text} (hst : precedes s t = true) (htu : precedes t u = true) :
    precedes s u = true := by
  induction s generalizing t u with
  | nil =>
    cases u with
    | nil => simp [precedes] at htu
    | cons e u => rfl
  | cons c s ih =>
    cases t with
    | nil => simp [precedes] at hst
    | cons d t =>
      cases u with
      | nil => simp [precedes] at htu
      | cons e u =>
        rw [precedes_cons] at hst htu ⊢
        rcases hst with below | ⟨rfl, hst⟩
        · rcases htu with above | ⟨rfl, -⟩
          · exact .inl (Nat.lt_trans below above)
          · exact .inl below
        · exact htu.imp id fun ⟨same, htu⟩ => ⟨same, ih hst htu⟩

theorem precedes_total {s t : Text} (different : s ≠ t) (h : precedes s t = false) :
    precedes t s = true := by
  induction s generalizing t with
  | nil =>
    cases t with
    | nil => contradiction
    | cons d t => simp [precedes] at h
  | cons c s ih =>
    cases t with
    | nil => rfl
    | cons d t =>
      rw [← Bool.not_eq_true, precedes_cons, not_or] at h
      rw [precedes_cons]
      by_cases same : c = d
      · subst same
        refine .inr ⟨rfl, ih (fun eq => different (eq ▸ rfl)) ?_⟩
        simpa using h.2
      · have apart : c.toNat ≠ d.toNat := fun eq => same (Char.toNat_inj.mp eq)
        exact .inl (by omega)

end ContractProxy.Text
