import ContractProxy.Text.Basic
import Mathlib.Data.List.Basic

/-!
Nesting of braces and parentheses. A text is read with a stack of the brackets that are open; if
every bracket closes the one opened last, neither kind ever closes below zero and both come out
even.
-/

set_option autoImplicit false

namespace ContractProxy.Text

/-- Reads one character, with the open brackets, the innermost first. -/
def openBrackets (stack : List Char) : Char → Option (List Char)
  | '\x7b' => some ('\x7b' :: stack)
  | '(' => some ('(' :: stack)
  | '\x7d' => if stack.head? = some '\x7b' then some stack.tail else none
  | ')' => if stack.head? = some '(' then some stack.tail else none
  | _ => some stack

def Nested (t : Text) : Prop :=
  t.foldlM openBrackets [] = some []

instance (t : Text) : Decidable (Nested t) :=
  inferInstanceAs (Decidable (_ = _))

example : Nested "f(\x7b(a)\x7d)" ∧ ¬ Nested "(\x7b)\x7d" := by decide

/-- Neither more closed than opened at any point, nor fewer at the end. -/
structure Balanced (opening closing : Char) (t : Text) : Prop where
  neverBelow : ∀ before, before <+: t → before.count closing ≤ before.count opening
  even : t.count closing = t.count opening

theorem count_openBrackets {stack stack' : List Char} {c : Char}
    (h : openBrackets stack c = some stack') :
    [c].count '\x7b' + stack.count '\x7b' = [c].count '\x7d' + stack'.count '\x7b' ∧
      [c].count '(' + stack.count '(' = [c].count ')' + stack'.count '(' := by
  unfold openBrackets at h
  split at h
  · cases h
    simp [Nat.add_comm]
  · cases h
    simp [Nat.add_comm]
  · split_ifs at h with hhead
    cases h
    obtain ⟨rest, rfl⟩ := List.head?_eq_some_iff.mp hhead
    simp [Nat.add_comm]
  · split_ifs at h with hhead
    cases h
    obtain ⟨rest, rfl⟩ := List.head?_eq_some_iff.mp hhead
    simp [Nat.add_comm]
  · cases h
    simp_all

theorem count_foldlM {t : Text} {stack stack' : List Char}
    (h : t.foldlM openBrackets stack = some stack') :
    t.count '\x7b' + stack.count '\x7b' = t.count '\x7d' + stack'.count '\x7b' ∧
      t.count '(' + stack.count '(' = t.count ')' + stack'.count '(' := by
  induction t generalizing stack with
  | nil =>
    cases h
    simp
  | cons c rest ih =>
    rw [List.foldlM_cons] at h
    obtain ⟨next, hstep, hrest⟩ := Option.bind_eq_some_iff.mp h
    obtain ⟨hbraces, hparentheses⟩ := count_openBrackets hstep
    obtain ⟨hbraces', hparentheses'⟩ := ih hrest
    rw [← List.singleton_append]
    simp only [List.count_append]
    omega

theorem foldlM_of_prefix {before t : Text} {stack : List Char} (h : before <+: t)
    (ht : (t.foldlM openBrackets stack).isSome) :
    ∃ stack', before.foldlM openBrackets stack = some stack' := by
  obtain ⟨rest, rfl⟩ := h
  rw [List.foldlM_append] at ht
  cases hb : before.foldlM openBrackets stack with
  | none => simp [hb] at ht
  | some stack' => exact ⟨stack', rfl⟩

theorem Nested.balanced {t : Text} (h : Nested t) :
    Balanced '\x7b' '\x7d' t ∧ Balanced '(' ')' t := by
  have hbefore : ∀ before, before <+: t →
      before.count '\x7d' ≤ before.count '\x7b' ∧ before.count ')' ≤ before.count '(' := by
    intro before hb
    -- Whatever is left on the stack was opened and not yet closed.
    obtain ⟨stack, hstack⟩ := foldlM_of_prefix hb (by rw [h]; rfl)
    obtain ⟨hbraces, hparentheses⟩ := count_foldlM hstack
    rw [List.count_nil] at hbraces hparentheses
    omega
  obtain ⟨hbraces, hparentheses⟩ := count_foldlM h
  simp only [List.count_nil] at hbraces hparentheses
  exact ⟨⟨fun before hb => (hbefore before hb).1, by omega⟩,
    ⟨fun before hb => (hbefore before hb).2, by omega⟩⟩

end ContractProxy.Text
