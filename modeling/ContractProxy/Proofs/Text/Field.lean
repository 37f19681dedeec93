import ContractProxy.Text.Basic
import Mathlib.Data.List.Basic

/-!
The fields of a text: the longest runs of characters that are no separators. A text is taken apart
at its first separator.
-/

set_option autoImplicit false

namespace ContractProxy.Text

def fields (separates : Char → Bool) (t : Text) : List Text :=
  (t.splitOnP separates).filter (!·.isEmpty)

@[elab_as_elim]
theorem cutInduction (separates : Char → Bool) {motive : Text → Prop}
    (last : ∀ s, (∀ c ∈ s, separates c = false) → motive s)
    (cut : ∀ s c t, (∀ d ∈ s, separates d = false) → separates c = true → motive t →
      motive (s ++ c :: t)) (t : Text) : motive t := by
  induction hlength : t.length using Nat.strongRecOn generalizing t with
  | ind n ih =>
    have hparts : t.takeWhile (!separates ·) ++ t.dropWhile (!separates ·) = t :=
      List.takeWhile_append_dropWhile
    have hfront : ∀ c ∈ t.takeWhile (!separates ·), separates c = false := by
      intro c hc
      simpa using List.all_eq_true.mp List.all_takeWhile c hc
    cases hrest : t.dropWhile (!separates ·) with
    | nil =>
      rw [hrest, List.append_nil] at hparts
      rw [← hparts]
      exact last _ hfront
    | cons c rest =>
      have hc : separates c = true := by
        have hhead := List.head?_dropWhile_not (!separates ·) t
        simpa [hrest] using hhead
      rw [hrest] at hparts
      have hshort : rest.length < n := by
        rw [← hlength, ← hparts, List.length_append, List.length_cons]
        omega
      rw [← hparts]
      exact cut _ c rest hfront hc (ih _ hshort rest rfl)

variable {separates : Char → Bool}

theorem fields_nil : fields separates [] = [] := rfl

theorem fields_append_cons {c : Char} (h : separates c = true) (s t : Text) :
    fields separates (s ++ c :: t) = fields separates s ++ fields separates t := by
  rw [fields, List.splitOnP_append_cons s t h, List.filter_append]
  rfl

theorem fields_cons {c : Char} (h : separates c = true) (t : Text) :
    fields separates (c :: t) = fields separates t := by
  rw [← List.nil_append (c :: t), fields_append_cons h, fields_nil, List.nil_append]

theorem fields_concat {c : Char} (h : separates c = true) (t : Text) :
    fields separates (t ++ [c]) = fields separates t := by
  rw [fields_append_cons h, fields_nil, List.append_nil]

theorem fields_of_forall {word : Text} (hne : word ≠ []) (h : ∀ c ∈ word, separates c = false) :
    fields separates word = [word] := by
  rw [fields, List.splitOnP_eq_singleton h]
  simp [hne]

theorem fields_append_of_head {s t : Text} (h : t.head?.any separates = true) :
    fields separates (s ++ t) = fields separates s ++ fields separates t := by
  cases t with
  | nil => simp at h
  | cons c t =>
    have hc : separates c = true := h
    rw [fields_append_cons hc, fields_cons hc]

theorem fields_append_of_last {s t : Text} (h : s.getLast?.any separates = true) :
    fields separates (s ++ t) = fields separates s ++ fields separates t := by
  obtain ⟨c, hlast, hc⟩ := (Option.any_eq_true _ _).mp h
  obtain ⟨front, rfl⟩ := List.getLast?_eq_some_iff.mp hlast
  rw [List.append_assoc, List.singleton_append, fields_append_cons hc, fields_concat hc]

theorem fields_around {part : Text} (hfirst : part.head?.any separates = true)
    (hlast : part.getLast?.any separates = true) (s t : Text) :
    fields separates (s ++ part ++ t) =
      fields separates s ++ fields separates part ++ fields separates t := by
  have hend : (s ++ part).getLast?.any separates = true := by
    obtain ⟨c, hc, _⟩ := (Option.any_eq_true _ _).mp hlast
    rwa [List.getLast?_append, hc, Option.some_or, ← hc]
  rw [fields_append_of_last hend, fields_append_of_head hfirst]

end ContractProxy.Text
